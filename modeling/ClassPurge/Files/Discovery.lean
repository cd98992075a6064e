import ClassPurge.Files.Braces
import ClassPurge.Files.Tree
import ClassPurge.Files.Wildcard
import ClassPurge.Log.Event
import ClassPurge.Text.Order

/-!
The files that patterns stand for. A pattern is followed component by component: a double star
stands for a folder and everything in it at any depth, a component with wildcards for the names
it matches, any other for itself. Names that begin with a dot are only found by components that
begin with one.
-/

namespace ClassPurge.Files

structure Spot where
  path : Path
  place : Place
  deriving DecidableEq, Repr

inductive Component
  /-- A folder, as a slash at the end of a pattern asks for. -/
  | folder
  | anyDepth
  | wild (pattern : Text)
  | name (n : Text)
  deriving DecidableEq, Repr

def isMagic (c : Char) : Bool := c == '*' || c == '?' || c == '['

def Component.ofText (t : Text) : Component :=
  if t.isEmpty then folder
  else if t == ['*', '*'] then anyDepth
  else if t.any isMagic then wild t
  else name t

def componentsOf (t : Text) : List Component :=
  let parts := (t.splitOn Path.isSlash).filter fun p => !p.isEmpty
  let tail : List Component := if t.getLast? == some '/' then [.folder] else []
  parts.map Component.ofText ++ tail

def isHidden (n : Text) : Bool := n.head? == some '.'

def finds (pattern n : Text) : Bool :=
  (isHidden pattern || !isHidden n) && matchesWild pattern n

namespace Tree

/-- Where a component leads to from a spot. A double star leads to the spot itself, whatever is
there. -/
def expand (t : Tree) (s : Spot) : Component → List Spot
  | .folder => if t.isFolder s.place then [s] else []
  | .anyDepth =>
    s :: ((t.under s.place).filter fun r => !r.any isHidden).map fun r =>
      ⟨{ s.path with parts := s.path.parts ++ r }, s.place ++ r⟩
  | .wild pattern =>
    ((t.names s.place).filter (finds pattern)).map fun n => ⟨s.path.child n, s.place ++ [n]⟩
  | .name n =>
    if !t.isFolder s.place then []
    else if n == Path.dot then [s]
    else if n == Path.dotDot then [⟨s.path.child n, s.place.dropLast⟩]
    else if t.has (s.place ++ [n]) then [⟨s.path.child n, s.place ++ [n]⟩]
    else []

def expandAll (t : Tree) (spots : List Spot) : List Component → List Spot
  | [] => spots
  | [c] => spots.flatMap fun s => t.expand s c
  | c :: cs =>
    let leadsOn (s r : Spot) : Bool :=
      match c with
      | .anyDepth => r == s || t.isFolder r.place
      | .wild _ => t.isFolder r.place
      | _ => true
    t.expandAll (spots.flatMap fun s => (t.expand s c).filter (leadsOn s)) cs

/-- The names before the first component that is none, and the components from there on. -/
def plainNames : List Component → List Text × List Component
  | .name n :: cs =>
    let (ns, rest) := plainNames cs
    (n :: ns, rest)
  | cs => ([], cs)

/-- Everything that an absolute pattern stands for. The names at its beginning are not looked for
one by one: they only have to lead somewhere when something is to be found there. -/
def spots (t : Tree) (pattern : Text) : Except (Fault × Path) (List Spot) :=
  let (names, rest) := plainNames (componentsOf pattern)
  let root := (Path.ofText pattern).root
  let start : Path := ⟨root, names.filter (· != Path.dot)⟩
  let deep := !rest.isEmpty && rest.all (· == .anyDepth)
  if rest.isEmpty then .ok (t.expandAll [⟨⟨root, []⟩, []⟩] (names.map .name))
  else
    match t.place { start with parts := names } with
    | .ok q => .ok (t.expandAll [⟨start, q⟩] rest)
    | .error .endMark => if rest == [.folder] then .ok [] else .error (.endMark, start)
    | .error .tooLong => if deep then .error (.tooLong, start) else .ok []
    | .error _ => .ok []

end Tree

def anchored (root : Path) (pattern : Text) : Text :=
  if pattern.head? == some '/' then pattern else (root.join (Path.ofText pattern)).text

/-- The path under which a spot is shown: as seen from `root` if it lies under it. -/
def shownFrom (root : Path) (s : Spot) : Text :=
  match (⟨['/'], s.place⟩ : Path).relativeTo? root with
  | some p => p.text
  | none => s.path.text

def filesOf (t : Tree) (root : Path) (pattern : Text) : Except (Fault × Path) (List Text) :=
  (t.spots (anchored root pattern)).map fun spots =>
    (spots.filter fun s => t.isFile s.place).map (shownFrom root)

/-- The files that the patterns stand for and no ignore pattern does, each once, in order. -/
def discover (t : Tree) (root : Path) (patterns ignore : List Text) :
    Except (Fault × Path) TextSet :=
  ((patterns.flatMap expandBraces).mapM (filesOf t root)).map fun found =>
    .ofList (found.flatten.filter fun p => !isIgnored ignore p)

def discoverEvents (found : TextSet) (patterns : List Text) : List Log.Event :=
  [.discovered found.size patterns.length]

end ClassPurge.Files
