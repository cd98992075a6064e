import ClassPurge.Text.Utf8
import ClassPurge.Yaml.Cursor

/-!
Tags, which say of what kind a node is, and the directives at the beginning of a document. A tag is
a name in full, or the rest of one behind a handle that a directive has given a meaning.
-/

namespace ClassPurge.Yaml

inductive Tag
  | null
  | bool
  | int
  | float
  | bytes
  | moment
  | text
  | list
  | map
  | set
  /-- A list of maps with one entry each, as a list of pairs. -/
  | pairs
  /-- The sign that merges maps. -/
  | merge
  /-- The sign of the value that stands for a map. -/
  | value
  | other (uri : Text)
  deriving DecidableEq, Repr

namespace Tag

def common : Text := "tag:yaml.org,2002:".toList

def names : List (String × Tag) :=
  [("null", null), ("bool", bool), ("int", int), ("float", float), ("binary", bytes),
    ("timestamp", moment), ("str", text), ("seq", list), ("map", map), ("set", set),
    ("omap", pairs), ("pairs", pairs), ("merge", merge), ("value", value)]

def ofUri (t : Text) : Tag :=
  match (Text.after? common t).bind fun r => names.lookup r.string with
  | some tag => tag
  | none => other t

def uri (tag : Tag) : Text :=
  match tag with
  | other uri => uri
  | tag =>
    match names.find? fun n => n.2 = tag with
    | some n => common ++ n.1.toList
    | none => common

/-- The handles that need no directive, and what they stand for. -/
def handles : List (Text × Text) := [(['!'], ['!']), (['!', '!'], common)]

end Tag

inductive Directive
  /-- The version of the language, of which the first number counts. -/
  | version (major : Int)
  | handle (name meaning : Text)
  | other
  deriving DecidableEq, Repr

namespace Cursor

def isNameChar (c : Char) : Bool := c.isAlphanum || c == '-' || c == '_'

/-- A handle: an exclamation mark, or a name or nothing between two of them. -/
def handle (c : Cursor) : Except Fault (Text × Cursor) :=
  if c.peek != some '!' then .error .badTag
  else if c.ahead 1 == some ' ' then .ok (['!'], c.step)
  else
    let name := c.step.rest.takeWhile isNameChar
    let d := c.forward (name.length + 1)
    if d.peek == some '!' then .ok ('!' :: name ++ ['!'], d.step) else .error .badTag

def isUriChar (c : Char) : Bool := isNameChar c || ";/?:@&=+$,.!~*'()[]%".toList.contains c

def uriBytes : Nat → Cursor → Except Fault (Bytes × Cursor)
  | 0, c => .ok ([], c)
  | n + 1, c =>
    match c.rest with
    | '%' :: r =>
      let ds := (r.take 2).filterMap hexValue?
      if ds.length = 2 then do
        let (bs, d) ← uriBytes n (c.forward 3)
        return (UInt8.ofNat (hexNumber ds) :: bs, d)
      else .error .badTag
    | _ => .ok ([], c)

def uriFrom : Nat → Cursor → Except Fault (Text × Cursor)
  | 0, c => .ok ([], c)
  | n + 1, c =>
    match c.peek with
    | none => .ok ([], c)
    | some x =>
      if x == '%' then do
        let (bs, d) ← uriBytes c.rest.length c
        match bs.decode with
        | .error _ => throw .badTag
        | .ok t =>
          let (r, e) ← uriFrom n d
          return (t ++ r, e)
      else if isUriChar x then do
        let (r, e) ← uriFrom n c.step
        return (x :: r, e)
      else .ok ([], c)

def uri (c : Cursor) : Except Fault (Text × Cursor) := do
  let (t, d) ← uriFrom c.rest.length c
  if d.index = c.index then throw .badTag
  return (t, d)

/-- Whether a tag or a directive ends before this. -/
def endsTag (d : Option Char) : Bool := endsWord d && d != some '\t'

/-- The tag whose exclamation mark stands here: its handle, if it has one, and its name. -/
def tag (c : Cursor) : Except Fault (Option Text × Text × Cursor) := do
  let (h, name, d) ←
    if c.ahead 1 == some '<' then do
      let (t, d) ← uri (c.forward 2)
      if d.peek != some '>' then throw .badTag
      pure (none, t, d.step)
    else if endsWord (c.ahead 1) then pure (none, ['!'], c.step)
    else
      let word := c.step.rest.takeWhile fun x => !endsTag (some x)
      let (h, d) ← if word.contains '!' then handle c else pure (['!'], c.step)
      let (t, d) ← uri d
      pure (some h, t, d)
  if !endsTag d.peek then throw .badTag
  return (h, name, d)

/-! ### Directives -/

def versionNumber (c : Cursor) : Except Stop (Int × Cursor) :=
  let ds := c.rest.takeWhile Char.isDigit
  if ds.isEmpty then .error (.fault .badDirective)
  else
    match Spelled.literal 10 ds with
    | .ok i => .ok (i, c.forward ds.length)
    | .error f => .error (.crash (.number ⟨10, ds, f⟩))

def version (c : Cursor) : Except Stop (Directive × Cursor) := do
  let (major, c) ← versionNumber c.skipBlanks
  if c.peek != some '.' then throw (.fault .badDirective)
  let (_, c) ← versionNumber c.step
  if !endsTag c.peek then throw (.fault .badDirective)
  return (.version major, c)

def handleMeaning (c : Cursor) : Except Fault (Directive × Cursor) := do
  let (name, c) ← handle c.skipBlanks
  if c.peek != some ' ' then throw .badDirective
  let (meaning, c) ← uri c.skipBlanks
  if !endsTag c.peek then throw .badDirective
  return (.handle name meaning, c)

def directive (c : Cursor) : Except Stop (Directive × Cursor) := do
  let name := c.step.rest.takeWhile isNameChar
  let d := c.forward (name.length + 1)
  if name.isEmpty || !endsTag d.peek then throw (.fault .badDirective)
  let (found, d) ←
    if name == "YAML".toList then version d
    else if name == "TAG".toList then (handleMeaning d).mapError .fault
    else pure (.other, d.skipWhile fun x => !isBreak x)
  match restOfLine d with
  | .ok d => return (found, d)
  | .error _ => throw (.fault .badDirective)

end Cursor

end ClassPurge.Yaml
