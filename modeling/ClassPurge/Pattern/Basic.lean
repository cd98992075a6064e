import ClassPurge.Text.Blank
import ClassPurge.Text.Case
import ClassPurge.Text.Word

/-!
Patterns that are searched for in texts: characters and sets of them, anchors, groups that
remember what they matched, alternatives, repetitions, references back to groups, and conditions
on what stands before or after.
-/

namespace ClassPurge.Pattern

/-- The modes of a pattern: letter case ignored, lines anchored, line feeds matched by the dot,
blanks and remarks skipped in the pattern itself, classes kept to ASCII. -/
structure Modes where
  ignoreCase : Bool
  multiLine : Bool
  dotAll : Bool
  verbose : Bool
  ascii : Bool
  deriving DecidableEq, Repr

def Modes.plain : Modes := ⟨false, false, false, false, false⟩

def Modes.letters (m : Modes) : String :=
  String.ofList ((if m.ignoreCase then ['i'] else []) ++ (if m.multiLine then ['m'] else []) ++
    (if m.dotAll then ['s'] else []) ++ (if m.verbose then ['x'] else []))

inductive Category
  | digit
  | blank
  | word
  deriving DecidableEq, Repr

def Category.has (ascii : Bool) (k : Category) (c : Char) : Bool :=
  (!ascii || c.toNat < 128) &&
    match k with
    | digit => Text.isDigit c
    | blank => Text.isBlank c && !(ascii && 0x1c ≤ c.toNat && c.toNat ≤ 0x1f)
    | word => Text.isWord c

/-- A member of a set: a character, the code points from one to another, or a category or its
opposite. -/
inductive Item
  | char (n : Nat)
  | range (first last : Nat)
  | category (k : Category) (negated : Bool)
  deriving DecidableEq, Repr

structure CharSet where
  items : List Item
  negated : Bool
  ignoreCase : Bool
  ascii : Bool
  deriving DecidableEq, Repr

/-- The last code point of the first plane. Letter case beyond it is looked at less closely. -/
def planeEnd : Nat := 0xffff

/-- Whether there are letters of two cases between two code points. -/
def anyTwoCases (ascii : Bool) (a b : Nat) : Bool :=
  ((0x41, 0x5a) :: (0x61, 0x7a) :: if ascii then [] else Text.twoCaseRanges).any fun r =>
    a ≤ r.2 && r.1 ≤ b

/-- Whether a character between two code points counts as equal to the small letter `c`. -/
def anyFolded (ascii : Bool) (c : Char) (a b : Nat) : Bool :=
  if ascii then
    (c :: if 'a' ≤ c ∧ c ≤ 'z' then [Char.ofNat (c.toNat - 0x20)] else []).any fun d =>
      a ≤ d.toNat && d.toNat ≤ b
  else (Text.mates c).any fun d => (Text.spellings d).any fun n => a ≤ n && n ≤ b

def Item.mindsCase (ascii : Bool) : Item → Bool
  | char n => anyTwoCases ascii n n || planeEnd < n
  | range a b => anyTwoCases ascii a b || planeEnd < b
  | category .. => false

def Item.has (ascii : Bool) (c : Char) : Item → Bool
  | char n => c.toNat == n
  | range a b => a ≤ c.toNat && c.toNat ≤ b
  | category k negated => k.has ascii c != negated

/-- Whether the item, one of several, has a member that counts as equal to the small letter `c`.
Beyond the first plane a single character counts for itself alone, and a range for what it has of
the small letter and its capital. -/
def Item.hasFolded (ascii : Bool) (c : Char) : Item → Bool
  | char n => if planeEnd < n then c.toNat == n else anyFolded ascii c n n
  | range a b =>
    anyFolded ascii c a (min b planeEnd) ||
      (planeEnd < b && [c, Text.capitalChar c].any fun d => a ≤ d.toNat && d.toNat ≤ b)
  | category k negated => k.has ascii c != negated

def CharSet.has (s : CharSet) (c : Char) : Bool :=
  let small := if s.ascii then c.toLower else Text.lowerChar c
  let within :=
    match s.items with
    | [.char n] =>
      if s.ignoreCase && anyTwoCases s.ascii n n then anyFolded s.ascii small n n else c.toNat == n
    | items =>
      if s.ignoreCase && items.any (Item.mindsCase s.ascii) then
        items.any (Item.hasFolded s.ascii small)
      else items.any (Item.has s.ascii c)
  within != s.negated

inductive Anchor
  | textStart
  | textEnd
  /-- The end of the text, or its last line feed. -/
  | lastLineEnd
  | lineStart
  | lineEnd
  | boundary (ascii : Bool)
  | noBoundary (ascii : Bool)
  deriving DecidableEq, Repr

inductive Greed
  | greedy
  | lazy
  | possessive
  deriving DecidableEq, Repr

inductive Node
  | empty
  | one (set : CharSet)
  | any (dotAll : Bool)
  | anchor (a : Anchor)
  | seq (first rest : Node)
  | alt (first rest : Node)
  /-- A group that remembers nothing. -/
  | plain (inner : Node)
  /-- The same with modes of its own, which its parts know. -/
  | scoped (inner : Node)
  | group (index : Nat) (inner : Node)
  | repeated (greed : Greed) (least : Nat) (most : Option Nat) (inner : Node)
  | back (index : Nat) (ignoreCase ascii : Bool)
  | ahead (negated : Bool) (inner : Node)
  | behind (negated : Bool) (width : Nat) (inner : Node)
  | atomic (inner : Node)
  | conditional (index : Nat) (yes no : Node)

/-- The least and the most characters that a pattern can match; no most if there is none. -/
structure Width where
  least : Nat
  most : Option Nat
  deriving DecidableEq, Repr

namespace Width

def zero : Width := ⟨0, some 0⟩

def one : Width := ⟨1, some 1⟩

def add (a b : Width) : Width :=
  ⟨a.least + b.least, do return (← a.most) + (← b.most)⟩

def join (a b : Width) : Width :=
  ⟨min a.least b.least, do return max (← a.most) (← b.most)⟩

def times (a : Width) (least : Nat) (most : Option Nat) : Width :=
  ⟨a.least * least,
    if a.most = some 0 ∨ most = some 0 then some 0 else do return (← a.most) * (← most)⟩

/-- Widths are counted up to here. -/
def limit : Nat := 18446744073709551616

def bounds (w : Width) : Nat × Nat := (min w.least limit, (w.most.map (min · limit)).getD limit)

end Width

def widthOf (groups : List Width) : Node → Width
  | .empty | .anchor _ | .ahead .. | .behind .. => .zero
  | .one _ | .any _ => .one
  | .seq a b => (widthOf groups a).add (widthOf groups b)
  | .alt a b => (widthOf groups a).join (widthOf groups b)
  | .plain n | .scoped n | .group _ n | .atomic n => widthOf groups n
  | .repeated _ least most n => (widthOf groups n).times least most
  | .back i .. => groups.getD (i - 1) .zero
  | .conditional _ a b => (widthOf groups a).join (widthOf groups b)

end ClassPurge.Pattern
