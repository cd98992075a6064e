import ClassPurge.Files.Path
import ClassPurge.Text.Utf8

/-!
A tree of files in memory. A place is the list of names on the way to it from the top; a folder
is there if it was made or if something lies in it. Every path is followed name by name, so one
that goes through something that is no folder leads nowhere. Names and paths have a greatest size.
-/

namespace ClassPurge.Files

abbrev Place := List Text

inductive Fault
  | missing
  | alreadyThere
  | notFolder
  | isFolder
  | tooLong
  /-- The path holds the character that ends a text for the system. -/
  | endMark
  deriving DecidableEq, Repr

def Fault.number : Fault → Nat
  | missing => 2
  | alreadyThere => 17
  | notFolder => 20
  | isFolder => 21
  | tooLong => 36
  | endMark => 0

def Fault.reason : Fault → String
  | missing => "No such file or directory"
  | alreadyThere => "File exists"
  | notFolder => "Not a directory"
  | isFolder => "Is a directory"
  | tooLong => "File name too long"
  | endMark => "embedded null byte"

def Fault.message (f : Fault) (path : Text) : String :=
  if f = endMark then f.reason else s!"[Errno {f.number}] {f.reason}: {path.quoted.string}"

structure Tree where
  files : List (Place × Bytes)
  /-- Folders that were made, besides those in which something lies. -/
  made : List Place

def byteSize (t : Text) : Nat := t.foldl (fun n c => n + c.utf8Size) 0

def isLong (n : Text) : Bool := 255 < byteSize n

def pathLimit : Nat := 4095

def heads (p : Place) : List Place := (List.range (p.length + 1)).map p.take

/-- Where a name leads from a place. -/
def Place.step (here : Place) (n : Text) : Place :=
  if n == Path.dot then here else if n == Path.dotDot then here.dropLast else here ++ [n]

namespace Tree

def empty : Tree := ⟨[], []⟩

def file? (t : Tree) (p : Place) : Option Bytes := (t.files.find? fun f => f.1 == p).map Prod.snd

def isFile (t : Tree) (p : Place) : Bool := (t.file? p).isSome

def isUnder (p q : Place) : Bool := p.isPrefixOf q && p.length < q.length

def isFolder (t : Tree) (p : Place) : Bool :=
  p.isEmpty || t.made.any (fun q => p.isPrefixOf q) || t.files.any fun f => isUnder p f.1

def has (t : Tree) (p : Place) : Bool := t.isFile p || t.isFolder p

/-- The places strictly under `p`, each as the names that lead to it from there. -/
def under (t : Tree) (p : Place) : List Place :=
  let ends := t.files.map Prod.fst ++ t.made
  ((ends.filter (isUnder p)).flatMap fun q =>
    (heads (q.drop p.length)).filter fun r => !r.isEmpty).eraseDups

def names (t : Tree) (p : Place) : List Text := (t.under p).filterMap fun
  | [n] => some n
  | _ => none

/-- The place to which names lead from a place. All but the last must be those of folders. -/
def follow (t : Tree) (here : Place) : List Text → Except Fault Place
  | [] => .ok here
  | n :: ns =>
    if t.isFolder here then
      if isLong n then .error .tooLong
      else if n == Path.dot then t.follow here ns
      else t.follow (if n == Path.dotDot then here.dropLast else here ++ [n]) ns
    else if t.isFile here then .error .notFolder
    else .error .missing

def place (t : Tree) (p : Path) : Except Fault Place :=
  if p.text.contains '\x00' then .error .endMark
  else if pathLimit < byteSize p.text then .error .tooLong
  else t.follow [] p.parts

def holds (t : Tree) (p : Path) : Except Fault Bool :=
  match t.place p with
  | .ok q => .ok (t.has q)
  | .error .tooLong => .error .tooLong
  | .error _ => .ok false

def readPlace (t : Tree) (q : Place) : Except Fault Bytes :=
  match t.file? q with
  | some bs => .ok bs
  | none => if t.isFolder q then .error .isFolder else .error .missing

def read (t : Tree) (p : Path) : Except Fault Bytes := t.place p >>= t.readPlace

def put (t : Tree) (q : Place) (bs : Bytes) : Tree :=
  { t with files := t.files.filter (fun f => f.1 != q) ++ [(q, bs)] }

def write (t : Tree) (p : Path) (bs : Bytes) : Except Fault Tree := do
  let q ← t.place p
  if t.isFolder q then throw .isFolder
  if !t.isFolder q.dropLast then throw (if t.isFile q.dropLast then .notFolder else .missing)
  return t.put q bs

def addFolder (t : Tree) (q : Place) : Tree := { t with made := t.made ++ [q] }

/-- Makes the folders that names lead to from a place on, each in the one before it, until one
cannot be made: the tree with those that were made, and the fault with the names up to it. `done` are
the names on the way to `here`. -/
def makeFrom (t : Tree) (here : Place) (done : List Text) :
    List Text → Tree × Option (Fault × List Text)
  | [] => (t, none)
  | n :: ns =>
    if isLong n then (t, some (.tooLong, done ++ [n]))
    else if t.isFolder (here.step n) then makeFrom t (here.step n) (done ++ [n]) ns
    else if t.isFile (here.step n) then (t, some (.alreadyThere, done ++ [n]))
    else makeFrom (t.addFolder (here.step n)) (here.step n) (done ++ [n]) ns

/-- Makes the folder at the path and all those on the way to it. What was made stays when another
cannot be made; its path comes with the fault. If the way is barred before anything is missing, the
fault is one of the whole path, and nothing is made. -/
def make (t : Tree) (p : Path) : Tree × Option (Fault × Path) :=
  match t.place p with
  | .ok _ | .error .missing =>
    let (u, stop) := t.makeFrom [] [] p.parts
    (u, stop.map fun (f, names) => (f, { p with parts := names }))
  | .error f => (t, some (f, p))

def makeFolder (t : Tree) (p : Path) : Except (Fault × Path) Tree :=
  match t.make p with
  | (u, none) => .ok u
  | (_, some stop) => .error stop

/-- Takes a file away; the folder it lay in stays. -/
def delete (t : Tree) (q : Place) : Tree :=
  ⟨t.files.filter fun f => f.1 != q, t.made ++ [q.dropLast]⟩

/-- The folders that are there, each once. -/
def folders (t : Tree) : List Place :=
  ((t.files.map fun f => f.1.dropLast) ++ t.made).flatMap heads |>.eraseDups

end Tree

end ClassPurge.Files
