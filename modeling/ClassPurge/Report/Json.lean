import ClassPurge.Report.Basic
import ClassPurge.Text.Quoted

/-!
The report as JSON text, two spaces deeper for each level of nesting.
-/

namespace ClassPurge.Report

/-- A value as it is to be written: a finished word, a list or a record. -/
inductive Json
  | word (t : Text)
  | list (items : List Json)
  | record (fields : List (Text × Json))

namespace Json

def escape (c : Char) : Text :=
  if c == '"' || c == '\\' then ['\\', c]
  else if c == '\n' then ['\\', 'n']
  else if c == '\r' then ['\\', 'r']
  else if c == '\t' then ['\\', 't']
  else if c == '\x08' then ['\\', 'b']
  else if c == '\x0c' then ['\\', 'f']
  else if c.toNat < 0x20 then '\\' :: 'u' :: Text.hex 4 c.toNat
  else [c]

def quoted (t : Text) : Text := '"' :: t.flatMap escape ++ ['"']

def text (t : Text) : Json := word (quoted t)

def int (i : Int) : Json := word (toString i).toList

def margin (depth : Nat) : Text := '\n' :: List.replicate (2 * depth) ' '

mutual

/-- The text of a value at some depth. -/
def write (depth : Nat) : Json → Text
  | word t => t
  | list [] => ['[', ']']
  | list (j :: js) =>
    '[' :: margin (depth + 1) ++ write (depth + 1) j ++ writeItems (depth + 1) js ++
      margin depth ++ [']']
  | record [] => ['\x7b', '\x7d']
  | record ((k, j) :: fs) =>
    '\x7b' :: margin (depth + 1) ++ quoted k ++ ':' :: ' ' :: write (depth + 1) j ++
      writeFields (depth + 1) fs ++ margin depth ++ ['\x7d']

def writeItems (depth : Nat) : List Json → Text
  | [] => []
  | j :: js => ',' :: margin depth ++ write depth j ++ writeItems depth js

def writeFields (depth : Nat) : List (Text × Json) → Text
  | [] => []
  | (k, j) :: fs =>
    ',' :: margin depth ++ quoted k ++ ':' :: ' ' :: write depth j ++ writeFields depth fs

end

end Json

def fileJson (f : SourceFile) : Json :=
  .record [("path".toList, .text f.path), ("classes_found".toList, .list (f.classes.map .text)),
    ("byte_size".toList, .int f.size)]

def toJson (r : Report) : Json :=
  .record [("total_classes".toList, .int r.total), ("used_classes".toList, .int r.used),
    ("purged_classes".toList, .int r.purged),
    ("purged_class_names".toList, .list (r.purgedNames.map .text)),
    ("safelist".toList, .list (r.safelist.map .text)),
    ("build_time_ms".toList, .int r.buildTime),
    ("file_analysis".toList, .list (r.files.map fileJson)),
    ("reduction_percentage".toList, .word r.reduction.write)]

/-- The report as JSON text, without an end of line. -/
def jsonText (r : Report) : Text := r.toJson.write 0

end ClassPurge.Report
