import ClassPurge.Report.Basic

/-!
The report as lines of plain text.
-/

namespace ClassPurge.Report

def fileLimit : Nat := 20

def purgedLimit : Nat := 20

/-- The first `limit` of the lines, and how many of what there are more. -/
def elided (lines : List String) (limit : Nat) (noun : String) : List String :=
  lines.take limit ++
    if limit < lines.length then [s!"  … and {lines.length - limit} more {noun}"] else []

def fileLine (f : SourceFile) : String :=
  s!"  {f.path.string}: {f.classes.length} classes ({f.size} bytes)"

def purgedHeader (count : Nat) : String :=
  if count ≤ purgedLimit then "🗑️  Purged classes:"
  else s!"🗑️  Purged classes (showing first {purgedLimit} of {count}):"

def reductionLines (r : Report) : List String :=
  if r.purged = 0 then [] else [s!"📉 Size reduction: {Text.string r.reduction.fixedTenth}%"]

def fileLines (r : Report) : List String :=
  match r.files with
  | [] => ["  (no files analysed)"]
  | fs => elided (fs.map fileLine) fileLimit "files"

def purgedLines (r : Report) : List String :=
  match r.purgedNames with
  | [] => []
  | ns => "" :: purgedHeader ns.length :: (ns.take purgedLimit).map fun n => s!"  - {n.string}"

def lines (r : Report) : List String :=
  ["🎯 CSS Purge Report", "==================", s!"📊 Total classes: {r.total}",
    s!"✅ Used classes: {r.used}", s!"🗑️  Purged classes: {r.purged}",
    s!"⏱️  Build time: {r.buildTime}ms", s!"🛡️  Safelist: {r.safelist.length} items"] ++
    r.reductionLines ++ ["", "📁 File Analysis:"] ++ r.fileLines ++ r.purgedLines

def render (r : Report) : String := "\n".intercalate r.lines

end ClassPurge.Report
