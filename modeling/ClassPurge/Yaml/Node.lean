import ClassPurge.Yaml.Scalar
import ClassPurge.Yaml.Token

/-!
The scalars, lists and maps that the tokens of a text spell. They are numbered in the order in
which they begin, and hold each other by number: a name given to a node with an anchor stands for
that node from there on, also inside of it. What is left out between marks is an empty scalar.
-/

namespace ClassPurge.Yaml

inductive Content
  | scalar (t : Text)
  | list (items : List Nat)
  | map (entries : List (Nat × Nat))
  deriving DecidableEq, Repr

structure Node where
  tag : Tag
  content : Content
  deriving DecidableEq, Repr

def Node.nothing : Node := ⟨.null, .scalar []⟩

structure Graph where
  nodes : Array Node
  /-- How often a name stands for a node. -/
  references : Nat

namespace Graph

def empty : Graph := ⟨#[], 0⟩

def node (g : Graph) (id : Nat) : Node := g.nodes.getD id .nothing

def put (g : Graph) (id : Nat) (n : Node) : Graph :=
  { g with nodes := g.nodes.setIfInBounds id n }

def entries (g : Graph) (id : Nat) : List (Nat × Nat) :=
  match (g.node id).content with
  | .map es => es
  | _ => []

end Graph

/-- The tokens to come, why there are no more of them, and what is known of those before. -/
structure Tokens where
  rest : List Token
  stop : Option Stop
  handles : List (Text × Text)
  names : List (Text × Nat)
  graph : Graph

abbrev Reading := StateT Tokens (Except Stop)

namespace Reading

def fail {α : Type} (f : Fault) : Reading α := throw (.fault f)

def peek : Reading Token := do
  let s ← get
  match s.rest, s.stop with
  | t :: _, _ => return t
  | [], some e => throw e
  | [], none => return .textEnd

def next : Reading Unit := modify fun s => { s with rest := s.rest.drop 1 }

def expect (t : Token) (what : String) : Reading Unit := do
  if (← peek) == t then next else fail (.expected what)

def take? (t : Token) : Reading Bool := do
  if (← peek) == t then
    next
    return true
  else return false

def before (ts : List Token) : Reading Bool := do return ts.contains (← peek)

/-! ### Nodes -/

/-- What stands before a node: the name of an anchor, and a tag in full. -/
structure Properties where
  name : Option Text
  tag : Option Text

def tagText (h : Option Text) (name : Text) : Reading Text := do
  match h with
  | none => return name
  | some h =>
    let s ← get
    match s.handles.lookup h with
    | some meaning => return meaning ++ name
    | none => fail (.unknownHandle h)

/-- An anchor and a tag, in either order, if they come next. -/
def properties : Reading Properties := do
  match ← peek with
  | .anchor name =>
    next
    match ← peek with
    | .tag h t =>
      next
      return ⟨some name, some (← tagText h t)⟩
    | _ => return ⟨some name, none⟩
  | .tag h t =>
    next
    match ← peek with
    | .anchor name =>
      next
      return ⟨some name, some (← tagText h t)⟩
    | _ => return ⟨none, some (← tagText h t)⟩
  | _ => return ⟨none, none⟩

def Properties.tagOr (p : Properties) (default : Tag) : Tag :=
  match p.tag with
  | none | some ['!'] => default
  | some t => .ofUri t

/-- The tag of a scalar. Only one without quotes, or one that asks for it, goes by its spelling. -/
def Properties.scalarTag (p : Properties) (plain : Bool) (t : Text) : Tag :=
  p.tagOr (if plain || p.tag.isSome then impliedTag t else .text)

def add (n : Node) (p : Properties) : Reading Nat := do
  let s ← get
  let id := s.graph.nodes.size
  let names := match p.name with
    | some name => (name, id) :: s.names
    | none => s.names
  set { s with graph := { s.graph with nodes := s.graph.nodes.push n }, names := names }
  return id

def nothing : Reading Nat := add .nothing ⟨none, none⟩

/-- A list or map, which has its number before those in it. -/
def collection (p : Properties) (tag : Tag) (empty : Content) (inside : Reading Content) :
    Reading Nat := do
  let tag := p.tagOr tag
  let id ← add ⟨tag, empty⟩ p
  let content ← inside
  modify fun s => { s with graph := s.graph.put id ⟨tag, content⟩ }
  return id

def listOf (p : Properties) (inside : Reading (List Nat)) : Reading Nat :=
  collection p .list (.list []) (return .list (← inside))

def mapOf (p : Properties) (inside : Reading (List (Nat × Nat))) : Reading Nat :=
  collection p .map (.map []) (return .map (← inside))

def named (name : Text) : Reading Nat := do
  let s ← get
  match s.names.lookup name with
  | some id =>
    set { s with graph := { s.graph with references := s.graph.references + 1 } }
    return id
  | none => fail (.unknownAlias name)

mutual

/-- A node. In a block it may be a block; as an entry of a map, also a list that is not indented. -/
def node (inBlock flat : Bool) : Nat → Reading Nat
  | 0 => fail .exhausted
  | n + 1 => do
    match ← peek with
    | .reference name =>
      next
      named name
    | _ => content inBlock flat (← properties) n

def content (inBlock flat : Bool) (p : Properties) : Nat → Reading Nat
  | 0 => fail .exhausted
  | n + 1 => do
    let t ← peek
    let s ← get
    if let some name := p.name then
      if (s.names.lookup name).isSome then fail (.anchorTwice name)
    match t, inBlock, flat with
    | .entry, _, true => listOf p (flatEntries n)
    | .scalar plain t, _, _ =>
      next
      add ⟨p.scalarTag plain t, .scalar t⟩ p
    | .openList, _, _ =>
      next
      listOf p (flowItems true n)
    | .openMap, _, _ =>
      next
      mapOf p (flowEntries true n)
    | .listStart, true, _ =>
      next
      listOf p (blockItems n)
    | .mapStart, true, _ =>
      next
      mapOf p (blockEntries n)
    | _, _, _ =>
      if p.name.isSome || p.tag.isSome then add ⟨p.scalarTag true [], .scalar []⟩ p
      else fail (.expected "a node")

def blockItems : Nat → Reading (List Nat)
  | 0 => fail .exhausted
  | n + 1 => do
    if ← take? .entry then
      let item ← if ← before [.entry, .blockEnd] then nothing else node true false n
      return item :: (← blockItems n)
    else
      expect .blockEnd "the end of a block"
      return []

def flatEntries : Nat → Reading (List Nat)
  | 0 => fail .exhausted
  | n + 1 => do
    if ← take? .entry then
      let item ←
        if ← before [.entry, .key, .value, .blockEnd] then nothing else node true false n
      return item :: (← flatEntries n)
    else return []

def blockEntries : Nat → Reading (List (Nat × Nat))
  | 0 => fail .exhausted
  | n + 1 => do
    if ← take? .key then
      let part : Reading Nat := do
        if ← before [.key, .value, .blockEnd] then nothing else node true true n
      let key ← part
      let value ← if ← take? .value then part else nothing
      return (key, value) :: (← blockEntries n)
    else
      expect .blockEnd "the end of a block"
      return []

def flowEntry (close : Token) : Nat → Reading (Nat × Nat)
  | 0 => fail .exhausted
  | n + 1 => do
    let key ← if ← before [.value, .comma, close] then nothing else node false false n
    if ← take? .value then
      let value ← if ← before [.comma, close] then nothing else node false false n
      return (key, value)
    else return (key, ← nothing)

/-- The items of a list in brackets. A key among them is a map of one entry. -/
def flowItems (first : Bool) : Nat → Reading (List Nat)
  | 0 => fail .exhausted
  | n + 1 => do
    if ← take? .closeList then return []
    if !first then expect .comma "a comma or a closing bracket"
    if ← take? .key then
      let item ← mapOf ⟨none, none⟩ (return [← flowEntry .closeList n])
      return item :: (← flowItems false n)
    else if ← take? .closeList then return []
    else
      let item ← node false false n
      return item :: (← flowItems false n)

def flowEntries (first : Bool) : Nat → Reading (List (Nat × Nat))
  | 0 => fail .exhausted
  | n + 1 => do
    if ← take? .closeMap then return []
    if !first then expect .comma "a comma or a closing brace"
    if ← take? .key then
      let entry ← flowEntry .closeMap n
      return entry :: (← flowEntries false n)
    else if ← take? .closeMap then return []
    else
      let key ← node false false n
      let value ← nothing
      return (key, value) :: (← flowEntries false n)

end

/-! ### Documents -/

/-- Takes the directives, and sets the meanings of handles. `version` tells whether there has been
one for the version. -/
def directives (version : Bool) (handles : List (Text × Text)) : Nat → Reading Unit
  | 0 => fail .exhausted
  | n + 1 => do
    match ← peek with
    | .directive (.version major) =>
      next
      if version then fail .versionTwice
      if major != 1 then fail .badVersion
      directives true handles n
    | .directive (.handle name meaning) =>
      next
      if (handles.lookup name).isSome then fail (.handleTwice name)
      directives version ((name, meaning) :: handles) n
    | .directive .other =>
      next
      directives version handles n
    | _ => modify fun s => { s with handles := handles ++ Tag.handles }

def skipEnds : Nat → Reading Unit
  | 0 => pure ()
  | n + 1 => do if ← take? .documentEnd then skipEnds n

def isDirective : Token → Bool
  | .directive _ => true
  | _ => false

/-- The one document of a text of `size` tokens, if there is one. -/
def document (size : Nat) : Reading (Option Nat) := do
  let first ← peek
  if first == .textEnd then return none
  let fuel := 4 * size + 8
  let root ←
    if isDirective first || first == .documentStart then do
      directives false [] fuel
      expect .documentStart "the start of a document"
      let t ← peek
      if isDirective t || [.documentStart, .documentEnd, .textEnd].contains t then nothing
      else node true false fuel
    else node true false fuel
  skipEnds fuel
  if (← peek) == .textEnd then return some root
  directives false [] fuel
  fail .secondDocument

end Reading

def Graph.ofText (t : Text) : Except Stop (Option (Nat × Graph)) := do
  let (ts, stop) := tokens t
  let (root, s) ← Reading.document ts.length ⟨ts, stop, Tag.handles, [], .empty⟩
  return root.map fun id => (id, s.graph)

end ClassPurge.Yaml
