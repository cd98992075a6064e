import ClassPurge.Files.Discovery
import ClassPurge.Run

/-!
A project in a tree of files: its sources are the files that the content patterns stand for.
-/

namespace ClassPurge

open Files

/-- What the paths of the sources come to. A pattern that no system can follow is a failure of
its own; any other fault only leaves the run without sources. -/
def Sources.pathsOf (t : Tree) (root : Path) (c : Config) :
    Except Fault (Log.Logged (Except String (List Text))) :=
  match discover t root c.content c.ignore with
  | .ok found => .ok ⟨.ok found.toList, discoverEvents found c.content⟩
  | .error (.endMark, _) => .error .endMark
  | .error (f, p) => .ok ⟨.error (f.message p.text), []⟩

/-- The sources of the project at `root`, if it is to be read at all. -/
def Sources.ofTree (t : Tree) (root : Path) (c : Config) : Except Fault Sources := do
  let paths ← if c.enabled then pathsOf t root c else pure ⟨.ok [], []⟩
  let read (p : Text) : Except String Bytes :=
    let target := root.join (Path.ofText p)
    match t.read target with
    | .ok bs => .ok bs
    | .error f => .error (f.message target.text)
  return ⟨paths, read⟩

end ClassPurge
