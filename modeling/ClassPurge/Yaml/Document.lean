import ClassPurge.Document
import ClassPurge.Yaml.Node

/-!
What the nodes of a text mean. Values are made from the outermost inwards: those in a list or a
map once it is its turn, and of a node that is met again no second one. What is wrong with a node
is only found when its turn has come.
-/

namespace ClassPurge.Yaml

/-! ### Keys -/

def keyNumber? (d : Document) : Option Int :=
  match d with
  | .bool b => some (if b then 1 else 0)
  | .int i => some i
  | .float x => if x.isWhole && !x.isInfinite then some x.toInt else none
  | _ => none

/-- Whether two keys are the same. Truth values and numbers are compared as numbers. -/
def sameKey (a b : Document) : Bool :=
  match a, b with
  | .null, .null | .notANumber, .notANumber => true
  | .text s, .text t => s == t
  | .bytes s, .bytes t => s == t
  | .moment m, .moment n => m.same n
  | a, b =>
    match keyNumber? a, keyNumber? b, a, b with
    | some i, some j, _, _ => i == j
    | none, none, .float x, .float y => x == y
    | _, _, _, _ => false

/-- Puts a value under a key. Of equal keys the first one stays, with the last value. -/
def putKey {α : Type} (k : Document) (v : α) : List (Document × α) → List (Document × α)
  | [] => [(k, v)]
  | e :: es => if sameKey e.1 k then (e.1, v) :: es else e :: putKey k v es

/-! ### Merging -/

/-- The first of the entries whose key has the tag, and the others. -/
def firstWith? (g : Graph) (tag : Tag) (es : List (Nat × Nat)) :
    Option ((Nat × Nat) × List (Nat × Nat)) :=
  (es.find? fun e => (g.node e.1).tag = tag).map fun e => (e, es.erase e)

/-- With `merged` before its own entries; keys that are the sign of a value are texts in a map. -/
def Graph.prepend (g : Graph) (id : Nat) (merged : List (Nat × Nat)) : Graph :=
  let own := g.entries id
  let g := own.foldl (fun g e =>
    let k := g.node e.1
    if k.tag = .value then g.put e.1 { k with tag := .text } else g) g
  g.put id { g.node id with content := .map (merged ++ own) }

/-- Takes the merging entries out of a map, and answers the entries that they stand for. The maps
that are merged are treated likewise first. -/
def Graph.merged (id : Nat) : Nat → Graph → Except Fault (List (Nat × Nat) × Graph)
  | 0, _ => .error .exhausted
  | n + 1, g =>
    match firstWith? g .merge (g.entries id) with
    | none => .ok ([], g)
    | some ((_, v), rest) => do
      let g := g.put id { g.node id with content := .map rest }
      let whole (g : Graph) (m : Nat) : Except Fault Graph :=
        match (g.node m).content with
        | .map _ => do
          let (first, g) ← Graph.merged m n g
          return g.prepend m first
        | _ => .error .badMerge
      let (first, g) ← match (g.node v).content with
        | .map _ => do
          let g ← whole g v
          pure (g.entries v, g)
        | .list items => do
          let (parts, g) ← items.foldlM (fun (parts, g) m => do
            let g ← whole g m
            return (g.entries m :: parts, g)) (([] : List (List (Nat × Nat))), g)
          pure (parts.flatten, g)
        | .scalar _ => throw .badMerge
      let (others, g) ← Graph.merged id n g
      return (first ++ others, g)

/-- With the entries of a map in place of those that merge other maps into it. There are no more
of these than nodes and references to nodes. -/
def Graph.flatten (g : Graph) (id : Nat) : Except Fault Graph := do
  let (first, g) ← g.merged id (g.nodes.size + g.references + 1)
  return g.prepend id first

/-! ### Values -/

inductive Shape
  | scalar (d : Document)
  | list (items : List Nat)
  | pairs (entries : List (Nat × Nat))
  | set (items : List Document)
  | map (entries : List (Document × Nat))

structure Building where
  graph : Graph
  /-- By the numbers of their nodes. -/
  shapes : Array (Option Shape)
  /-- The lists and maps of which nothing has been looked at yet. -/
  pending : List Nat

abbrev Build := StateT Building (Except Stop)

namespace Build

def fail {α : Type} (f : Fault) : Build α := throw (.fault f)

def lift {α : Type} : Except Fault α → Build α
  | .ok a => pure a
  | .error f => fail f

def node (id : Nat) : Build Node := do
  let s ← get
  return s.graph.node id

def setShape (id : Nat) (s : Shape) : Build Unit :=
  modify fun b => { b with shapes := b.shapes.setIfInBounds id (some s) }

def scalarText (g : Graph) (id : Nat) : Nat → Except Fault Text
  | 0 => .error .exhausted
  | n + 1 =>
    match (g.node id).content with
    | .scalar t => .ok t
    | .list _ => .error .notScalar
    | .map es =>
      match firstWith? g .value es with
      | some ((_, v), _) => scalarText g v n
      | none => .error .notScalar

def scalar (id : Nat) (n : Node) : Build Document := do
  let s ← get
  match n.tag.reader? with
  | none => fail (.unknownTag n.tag.uri)
  | some read =>
    let t ← lift (scalarText s.graph id (s.graph.nodes.size + 1))
    match n.tag, n.content with
    | .moment, .map _ => throw (.crash .momentMap)
    | _, _ =>
      match read t with
      | .ok d => return d
      | .error e => throw e

def shape (id : Nat) : Build Shape := do
  let s ← get
  match s.shapes.getD id none with
  | some found => return found
  | none =>
    let n ← node id
    let begun (s : Shape) : Build Shape := do
      setShape id s
      modify fun b => { b with pending := b.pending ++ [id] }
      return s
    match n.tag with
    | .list => begun (.list [])
    | .pairs => begun (.pairs [])
    | .set => begun (.set [])
    | .map => begun (.map [])
    | _ =>
      let d ← scalar id n
      setShape id (.scalar d)
      return .scalar d

def visit (id : Nat) : Build Unit := discard (shape id)

def key (id : Nat) : Build Document := do
  match ← shape id with
  | .scalar d => return d
  | _ => fail .compoundKey

def entries (id : Nat) : Build (List (Document × Nat)) := do
  let s ← get
  match (s.graph.node id).content with
  | .map _ =>
    let g ← lift (s.graph.flatten id)
    set { s with graph := g }
    (g.entries id).foldlM (fun found (k, v) => do
      let k ← key k
      visit v
      return putKey k v found) []
  | _ => fail .notMap

def pair (id : Nat) : Build (Nat × Nat) := do
  let n ← node id
  match n.content with
  | .map [(k, v)] =>
    visit k
    visit v
    return (k, v)
  | _ => fail .notPairs

def fill (id : Nat) : Build Unit := do
  let n ← node id
  match n.tag, n.content with
  | .list, .list items =>
    items.forM visit
    setShape id (.list items)
  | .list, _ => fail .notList
  | .pairs, .list items => setShape id (.pairs (← items.mapM pair))
  | .pairs, _ => fail .notPairs
  | .set, _ => setShape id (.set ((← entries id).map Prod.fst))
  | _, _ => setShape id (.map (← entries id))

def fillAll : Nat → Build Unit
  | 0 => pure ()
  | n + 1 => do
    let s ← get
    match s.pending with
    | [] => pure ()
    | id :: rest =>
      set { s with pending := rest }
      fill id
      fillAll n

end Build

/-- The values of the nodes, as far as they are part of the value of the node `root`. -/
def Graph.shapes (g : Graph) (root : Nat) : Except Stop (Array Shape) := do
  let build : Build Unit := do
    Build.visit root
    Build.fillAll (g.nodes.size + 1)
  let (_, b) ← build ⟨g, Array.replicate g.nodes.size none, []⟩
  return b.shapes.map fun s => s.getD (.scalar .null)

/-! ### Values in full -/

def Shape.document (value : Nat → Document) : Shape → Document
  | scalar d => d
  | list items => .list (items.map value)
  | pairs es => .list (es.map fun (k, v) => .tuple [value k, value v])
  | set items => .set items
  | map es => .map (es.map fun (k, v) => (k, value v))

def filled (marks : Bool) (shapes : Array Shape) (values : Array Document) : Array Document :=
  let whole (values : Array Document) (id : Nat) : Document :=
    match shapes.getD id (.scalar .null) with
    | .scalar d => d
    | s =>
      let d := s.document fun i => values.getD i .null
      if marks then .marked id d else d
  (List.range shapes.size).foldr (fun id values => values.setIfInBounds id (whole values id)) values

def filledTimes (marks : Bool) (shapes : Array Shape) : Nat → Array Document
  | 0 => shapes.map fun s => s.document fun _ => .null
  | n + 1 => filled marks shapes (filledTimes marks shapes n)

/-- How often a value that holds itself holds itself at least. -/
def rounds : Nat := 16

/-- The value that a text spells; an empty text spells nothing. A name that stands for an earlier
node takes another round to be filled in. -/
def read (t : Text) : Except Stop Document := do
  match ← Graph.ofText t with
  | none => return .null
  | some (root, g) =>
    let shapes ← g.shapes root
    let refers := g.references != 0
    let times := if refers then g.references + rounds else 1
    return (filledTimes refers shapes times).getD root .null

end ClassPurge.Yaml
