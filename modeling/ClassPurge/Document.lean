import ClassPurge.Calendar
import ClassPurge.Number.Spelled
import ClassPurge.Text.Utf8

/-!
Values as they come out of a settings file, before anything is known of their meaning. Maps keep
the order of their entries, and any value may be a key. A value can hold itself; it is then marked
with a number, and told by it where it comes round again.
-/

namespace ClassPurge

inductive Document
  | null
  | bool (b : Bool)
  | int (i : Int)
  | float (x : Binary64)
  | notANumber
  | text (t : Text)
  | bytes (bs : Bytes)
  | moment (m : Moment)
  | list (items : List Document)
  | tuple (items : List Document)
  | set (items : List Document)
  | map (entries : List (Document × Document))
  /-- A list or map with a number of its own. -/
  | marked (id : Nat) (whole : Document)
  deriving Inhabited

namespace Document

def kind : Document → String
  | null => "NoneType"
  | bool _ => "bool"
  | int _ => "int"
  | float _ | notANumber => "float"
  | text _ => "str"
  | bytes _ => "bytes"
  | moment m => m.kind
  | list _ => "list"
  | tuple _ => "tuple"
  | set _ => "set"
  | map _ => "dict"
  | marked _ d => d.kind

/-- The name with that of the family in front of it. -/
def longKind (d : Document) : String :=
  match d with
  | moment m => s!"datetime.{m.kind}"
  | d => d.kind

def opened : Document → Document
  | marked _ d => d
  | d => d

def nullName : Text := ['N', 'o', 'n', 'e']

def boolName (b : Bool) : Text := (if b then "True" else "False").toList

def scalarText : Document → Text
  | null => nullName
  | bool b => boolName b
  | int i => (toString i).toList
  | float x => x.write
  | notANumber => "nan".toList
  | text t => t.quoted
  | bytes bs => Bytes.quoted bs
  | moment m => m.display.toList
  | _ => []

/-- Where a value comes round again only its brackets are shown. -/
def againText : Document → Text
  | map _ => "\x7b...\x7d".toList
  | _ => "[...]".toList

mutual

/-- The value as messages show it, inside those that are marked with the numbers in `around`. -/
def displayIn (around : List Nat) : Document → Text
  | list items => '[' :: displayItems around items ++ [']']
  | tuple [d] => '(' :: displayIn around d ++ [',', ')']
  | tuple items => '(' :: displayItems around items ++ [')']
  | set [] => "set()".toList
  | set (d :: ds) => '\x7b' :: displayItems around (d :: ds) ++ ['\x7d']
  | map entries => '\x7b' :: displayEntries around entries ++ ['\x7d']
  | marked id whole => if around.contains id then againText whole else displayIn (id :: around) whole
  | d => scalarText d

def displayItems (around : List Nat) : List Document → Text
  | [] => []
  | [d] => displayIn around d
  | d :: ds => displayIn around d ++ ',' :: ' ' :: displayItems around ds

def displayEntries (around : List Nat) : List (Document × Document) → Text
  | [] => []
  | [(k, v)] => displayIn around k ++ ':' :: ' ' :: displayIn around v
  | (k, v) :: es =>
    displayIn around k ++ ':' :: ' ' ::
      (displayIn around v ++ ',' :: ' ' :: displayEntries around es)

end

def display (d : Document) : Text := displayIn [] d

mutual

/-- Whether there is no number in the value that is too long to be shown. -/
def isWritable : Document → Bool
  | int i => Spelled.isWritable i
  | list items | tuple items | set items => areWritable items
  | map entries => areWritableEntries entries
  | marked _ whole => isWritable whole
  | _ => true

def areWritable : List Document → Bool
  | [] => true
  | d :: ds => isWritable d && areWritable ds

def areWritableEntries : List (Document × Document) → Bool
  | [] => true
  | (k, v) :: es => isWritable k && isWritable v && areWritableEntries es

end

/-- The value as a key of a map is named: texts and moments as they are, all else as shown. -/
def keyName : Document → Text
  | text t => t
  | moment m => m.text
  | d => display d

/-- Whether the value counts as nothing: null, false, nought, and whatever is empty. -/
def isEmpty : Document → Bool
  | null => true
  | bool b => !b
  | int i => i == 0
  | float x => x.isZero
  | text t => t.isEmpty
  | bytes bs => bs.isEmpty
  | list items | tuple items | set items => items.isEmpty
  | map entries => entries.isEmpty
  | notANumber | moment _ => false
  | marked _ d => d.isEmpty

def ofString (s : String) : Document := text s.toList

def isText (t : Text) : Document → Bool
  | text u => t == u
  | _ => false

def entry? (entries : List (Document × Document)) (t : Text) : Option Document :=
  (entries.find? fun e => e.1.isText t).map Prod.snd

/-- Puts a value under a text key, in the place of the one that stood there. -/
def put (entries : List (Document × Document)) (t : Text) (d : Document) :
    List (Document × Document) :=
  if entries.any fun e => e.1.isText t then
    entries.map fun e => if e.1.isText t then (e.1, d) else e
  else entries ++ [(text t, d)]

end Document

end ClassPurge
