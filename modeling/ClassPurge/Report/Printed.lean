import ClassPurge.Console.Branch
import ClassPurge.Console.Markup
import ClassPurge.Files.Path
import ClassPurge.Report.Plain

/-!
The report as it appears on the console, with the source files as a tree of their folders.
-/

namespace ClassPurge.Report

open Console Files

/-- Values by name, each under the name that was first seen first. -/
def group (entries : List (Text × Text)) : List (Text × List Text) :=
  (entries.map Prod.fst).eraseDups.map fun k =>
    (k, (entries.filter fun e => e.1 == k).map Prod.snd)

/-- The lines of a label that hangs at some depth of the tree. -/
def labelLines (depth : Nat) (label : Except MarkupError Text) : Except MarkupError (List Text) :=
  label.map (linesWithin (lineWidth - 4 * depth))

def fileLabel (f : SourceFile) : Text :=
  let name := (Path.ofText f.path).name.string
  s!"{name} [{f.classes.length} classes, {f.size} bytes]".toList

def folderBranch (folder : Text) (files : List Text) : Except MarkupError (List Text) := do
  let head ← labelLines 1 (styled "path" (escape folder))
  let files ← files.mapM fun f => labelLines 2 (plain (escape f))
  return head ++ branches files

/-- The folders, each with its files under it. -/
def folderBranches (fs : List SourceFile) : Except MarkupError (List (List Text)) :=
  let entries := fs.map fun f => ((Path.ofText f.path).parent.text, fileLabel f)
  (group entries).mapM fun e => folderBranch e.1 e.2

def treeLines (fs : List SourceFile) : Except MarkupError (List Text) := do
  let more : List (List Text) :=
    if fileLimit < fs.length then [[s!"… and {fs.length - fileLimit} more files".toList]] else []
  return "📁 Source files".toList :: branches ((← folderBranches (fs.take fileLimit)) ++ more)

def countLines (r : Report) : List String :=
  ["", "🎯 CSS Purge Report", "", s!"Total classes: {r.total}", s!"Used classes: {r.used}",
    s!"Purged classes: {r.purged}", s!"Build time: {r.buildTime}ms",
    s!"Safelist: {r.safelist.length} items"] ++
    if r.purged = 0 then [] else [s!"Size reduction: {Text.string r.reduction.fixedTenth}%"]

def nameLines (ns : List Text) : List Text :=
  let shown := (ns.take purgedLimit).map fun n =>
    onScreen (withEmoji (' ' :: ' ' :: '-' :: ' ' :: n))
  let more : List String :=
    if purgedLimit < ns.length then [s!"  … and {ns.length - purgedLimit} more"] else []
  ["", "Purged classes:"].map String.toList ++ shown ++ more.map String.toList

/-- The report, each line ended. -/
def printed (r : Report) : Except MarkupError Text := do
  let counts := r.countLines.map fun l => onScreen l.toList
  let tree ← if r.files.isEmpty then pure [] else treeLines r.files
  let names := if r.purgedNames.isEmpty then [] else nameLines r.purgedNames
  return (counts ++ tree ++ names).flatMap (· ++ ['\n'])

end ClassPurge.Report
