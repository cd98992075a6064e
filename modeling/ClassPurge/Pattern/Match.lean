import ClassPurge.Pattern.Basic

/-!
Matching with backtracking. A match is tried from a place on, with what has to match behind it
passed along; the first way through decides. A repetition whose last round matched nothing is
not tried for another round, so every repetition ends.
-/

namespace ClassPurge.Pattern

/-- Where a match stands, and where each group was entered and left last. -/
structure Cursor where
  offset : Nat
  entered : List (Nat × Nat)
  left : List (Nat × Nat)

namespace Cursor

/-- What a group has matched, from and to. A group that has been entered again further on has
matched nothing yet. -/
def group? (s : Cursor) (index : Nat) : Option (Nat × Nat) := do
  let start ← s.entered.lookup index
  let stop ← s.left.lookup index
  if start ≤ stop then some (start, stop) else none

def enter (s : Cursor) (index : Nat) : Cursor :=
  { s with entered := (index, s.offset) :: s.entered.filter fun g => g.1 != index }

def leave (s : Cursor) (index : Nat) : Cursor :=
  { s with left := (index, s.offset) :: s.left.filter fun g => g.1 != index }

def advance (s : Cursor) (n : Nat) : Cursor := { s with offset := s.offset + n }

end Cursor

/-- Tries to match from a cursor on and then to go on as told. -/
abbrev Matcher := Cursor → (Cursor → Option Cursor) → Option Cursor

section

variable (text : Array Char)

def isWordAt (ascii : Bool) (i : Nat) : Bool :=
  (text[i]?).any fun c => Category.word.has ascii c

def wordBefore (ascii : Bool) (i : Nat) : Bool := i ≠ 0 && isWordAt text ascii (i - 1)

/-- Whether the anchor holds before the character at `i`. In an empty text there are no word
boundaries, and no places that are none. -/
def Anchor.holds (i : Nat) : Anchor → Bool
  | textStart => i == 0
  | textEnd => i == text.size
  | lastLineEnd => i == text.size || (i + 1 == text.size && text[i]? == some '\n')
  | lineStart => i == 0 || text[i - 1]? == some '\n'
  | lineEnd => i == text.size || text[i]? == some '\n'
  | boundary ascii => text.size ≠ 0 && wordBefore text ascii i != isWordAt text ascii i
  | noBoundary ascii => text.size ≠ 0 && wordBefore text ascii i == isWordAt text ascii i

def sameChar (ignoreCase ascii : Bool) (a b : Char) : Bool :=
  if !ignoreCase then a == b
  else if ascii then a.toLower == b.toLower
  else Text.lowerChar a == Text.lowerChar b

/-- Whether the `n` characters from `i` on repeat those from `j` on. -/
def repeats (ignoreCase ascii : Bool) (i j : Nat) : Nat → Bool
  | 0 => true
  | n + 1 =>
    match text[i]?, text[j]? with
    | some a, some b => sameChar ignoreCase ascii a b && repeats ignoreCase ascii (i + 1) (j + 1) n
    | _, _ => false

end

/-- Rounds of `body`, as many as can be had, fewer if that helps what follows. -/
def greedyRounds (body : Matcher) (least : Nat) (most : Option Nat) :
    Nat → Nat → Option Nat → Matcher
  | 0, _, _, s, k => k s
  | fuel + 1, count, last, s, k =>
    if count < least then
      body s fun s' => greedyRounds body least most fuel (count + 1) last s' k
    else if most.all (count < ·) && last != some s.offset then
      match body s fun s' => greedyRounds body least most fuel (count + 1) (some s.offset) s' k with
      | some r => some r
      | none => k s
    else k s

/-- Rounds of `body`, as few as will do. -/
def lazyRounds (body : Matcher) (least : Nat) (most : Option Nat) :
    Nat → Nat → Option Nat → Matcher
  | 0, _, _, s, k => k s
  | fuel + 1, count, last, s, k =>
    if count < least then
      body s fun s' => lazyRounds body least most fuel (count + 1) last s' k
    else
      match k s with
      | some r => some r
      | none =>
        if most.all (count < ·) && last != some s.offset then
          body s fun s' => lazyRounds body least most fuel (count + 1) (some s.offset) s' k
        else none

def possessiveRounds (body : Matcher) (least : Nat) (most : Option Nat) :
    Nat → Nat → Cursor → Option Cursor
  | 0, _, s => some s
  | fuel + 1, count, s =>
    if count < least then
      (body s some).bind (possessiveRounds body least most fuel (count + 1))
    else if most.all (count < ·) then
      match body s some with
      | some s' =>
        if s'.offset == s.offset then some s'
        else possessiveRounds body least most fuel (count + 1) s'
      | none => some s
    else some s

def Node.run (text : Array Char) : Node → Matcher
  | .empty, s, k => k s
  | .one set, s, k =>
    match text[s.offset]? with
    | some c => if set.has c then k (s.advance 1) else none
    | none => none
  | .any dotAll, s, k =>
    match text[s.offset]? with
    | some c => if dotAll || c != '\n' then k (s.advance 1) else none
    | none => none
  | .anchor a, s, k => if a.holds text s.offset then k s else none
  | .seq a b, s, k => a.run text s fun s' => b.run text s' k
  | .alt a b, s, k =>
    match a.run text s k with
    | some r => some r
    | none => b.run text s k
  | .plain n, s, k | .scoped n, s, k => n.run text s k
  | .group i n, s, k => n.run text (s.enter i) fun s' => k (s'.leave i)
  | .repeated greed least most n, s, k =>
    let fuel := least + (text.size - s.offset) + 2
    match greed with
    | .greedy => greedyRounds (fun s k => n.run text s k) least most fuel 0 none s k
    | .lazy => lazyRounds (fun s k => n.run text s k) least most fuel 0 none s k
    | .possessive => (possessiveRounds (fun s k => n.run text s k) least most fuel 0 s).bind k
  | .back i ignoreCase ascii, s, k =>
    match s.group? i with
    | some (a, b) =>
      if repeats text ignoreCase ascii a s.offset (b - a) then k (s.advance (b - a)) else none
    | none => none
  | .ahead negated n, s, k =>
    match n.run text s some with
    | some s' => if negated then none else k { s' with offset := s.offset }
    | none => if negated then k s else none
  | .behind negated width n, s, k =>
    let inner :=
      if s.offset < width then none
      else n.run text { s with offset := s.offset - width } some
    match inner with
    | some s' => if negated then none else k { s' with offset := s.offset }
    | none => if negated then k s else none
  | .atomic n, s, k => (n.run text s some).bind k
  | .conditional i yes no, s, k =>
    if (s.group? i).isSome then yes.run text s k else no.run text s k

/-- Part of a text by its offsets, the second exclusive. -/
structure Span where
  start : Nat
  stop : Nat
  deriving DecidableEq, Repr

def Node.matchAt? (n : Node) (text : Array Char) (start : Nat) : Option Span :=
  (n.run text ⟨start, [], []⟩ some).map fun s => ⟨start, s.offset⟩

/-- The set that every match begins with, if the pattern begins with one. -/
def Node.firstSet? : Node → Option CharSet
  | .one s => some s
  | .seq n _ | .plain n | .scoped n | .group _ n => n.firstSet?
  | _ => none

/-- Whether letter case forbids to look for the item as it is written. -/
def Item.hidesCase (ascii : Bool) : Item → Bool
  | char n => anyTwoCases ascii n n
  | range a b => planeEnd < b || anyTwoCases ascii a b
  | category .. => false

/-- Whether a match is looked for at `i`. It is where the character is in the first set, the
categories of which are taken as they are for the whole pattern. -/
def Node.mayBeginAt (n : Node) (ascii : Bool) (text : Array Char) (i : Nat) : Bool :=
  match n.firstSet? with
  | none => true
  | some s =>
    (s.ignoreCase && s.items.any (Item.hidesCase s.ascii)) ||
      (text[i]?).any fun c =>
        s.items.any (fun m => m.has ascii c) != s.negated

/-- The first match at one of the `tries` places from `start` on. -/
def Node.searchWithin? (n : Node) (ascii : Bool) (text : Array Char) : Nat → Nat → Option Span
  | 0, _ => none
  | tries + 1, start =>
    (if n.mayBeginAt ascii text start then n.matchAt? text start else none).or
      (n.searchWithin? ascii text tries (start + 1))

/-- The leftmost match that begins at `start` or later; `ascii` is the mode of the whole pattern. -/
def Node.search? (n : Node) (ascii : Bool) (text : Array Char) (start : Nat) : Option Span :=
  n.searchWithin? ascii text (text.size + 1 - start) start

end ClassPurge.Pattern
