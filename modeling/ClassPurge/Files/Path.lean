import ClassPurge.Text.Basic

/-!
Paths with slashes. Empty components and single dots are dropped as a path is read; double dots
stay. A path that begins with exactly two slashes keeps both.
-/

namespace ClassPurge.Files

structure Path where
  /-- Nothing, or the one or two slashes that the path begins with. -/
  root : Text
  parts : List Text
  deriving DecidableEq, Repr

namespace Path

def isSlash (c : Char) : Bool := c == '/'

def dot : Text := ['.']

def dotDot : Text := ['.', '.']

def ofText (t : Text) : Path :=
  let slashes := (t.takeWhile isSlash).length
  let root := if slashes == 0 then [] else if slashes == 2 then ['/', '/'] else ['/']
  ⟨root, (t.splitOn isSlash).filter fun p => !p.isEmpty && p != dot⟩

def ofString (s : String) : Path := ofText s.toList

/-- The path as written; the empty one is a dot. -/
def text (p : Path) : Text :=
  if p.root.isEmpty && p.parts.isEmpty then dot else p.root ++ Text.join ['/'] p.parts

def string (p : Path) : String := p.text.string

def isAbsolute (p : Path) : Bool := !p.root.isEmpty

/-- The last component, or nothing. -/
def name (p : Path) : Text := p.parts.getLast?.getD []

def parent (p : Path) : Path := { p with parts := p.parts.dropLast }

/-- `q` taken from `p`; an absolute path stays what it is. -/
def join (p q : Path) : Path := if q.isAbsolute then q else { p with parts := p.parts ++ q.parts }

def child (p : Path) (name : Text) : Path := { p with parts := p.parts ++ [name] }

/-- The last dot of the name and what follows it. A dot that begins the name or ends it is none. -/
def suffix (p : Path) : Text :=
  let name := p.name
  let ext := (name.reverse.takeWhile (· != '.')).reverse
  if ext.isEmpty || name.length ≤ ext.length + 1 then [] else '.' :: ext

/-- The components with each double dot taken together with the component before it. -/
def foldDots (parts : List Text) : List Text :=
  parts.foldl (fun acc p => if p == dotDot then acc.dropLast else acc ++ [p]) []

/-- An absolute path without double dots. -/
def resolve (p : Path) : Path := ⟨['/'], foldDots p.parts⟩

/-- `p` as seen from `base`, if it lies at it or under it. -/
def relativeTo? (p base : Path) : Option Path :=
  if p.root == base.root && base.parts.isPrefixOf p.parts then
    some ⟨[], p.parts.drop base.parts.length⟩
  else none

end Path

end ClassPurge.Files
