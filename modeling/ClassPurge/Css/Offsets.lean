import ClassPurge.Css.Declaration
import ClassPurge.Css.Rule
import ClassPurge.Loop

/-!
Stylesheet text read by offsets, in loops. Each loop goes on from an offset, by one character or
past a whole string or comment, and has a budget for the characters ahead of it.
-/

namespace ClassPurge.Css

/-! ### Strings, comments, blanks -/

/-- A backslash takes two places, whether or not a character follows it. -/
def stringRound (t : Text) (q : Char) (i : Nat) : Round Nat (Option Nat) :=
  match t[i]? with
  | none => .stop none
  | some c =>
    if c == '\\' then .next (i + 2)
    else if c == q then .stop (some (i + 1))
    else .next (i + 1)

def stringLoop (t : Text) (q : Char) (i : Nat) : Loop Nat (Option Nat) where
  round := stringRound t q
  start := i + 1
  ahead := t.length - (i + 1)
  spent _ := none

def opensComment (t : Text) (i : Nat) : Bool := ['/', '*'].isPrefixOf (t.drop i)

def blanksEndAt (t : Text) (i : Nat) : Nat :=
  i + ((t.drop i).takeWhile fun c => (Token.char c).isTrivia).length

def triviaRound (t : Text) (i : Nat) : Round Nat Nat :=
  let j := blanksEndAt t i
  if opensComment t j then .next (commentEndAt t j) else .stop j

def triviaLoop (t : Text) (i : Nat) : Loop Nat Nat where
  round := triviaRound t
  start := i
  ahead := t.length - i
  spent _ := t.length

inductive Sight
  | nothing
  | unclosed
  | string (stop : Nat)
  | comment (stop : Nat)
  | char (c : Char)
  deriving DecidableEq, Repr

noncomputable section

variable (l : Limit)

/-- Comments are seen as such only if `comments` is on. -/
def look (comments : Bool) (t : Text) (i : Nat) : Sight :=
  match t[i]? with
  | none => .nothing
  | some c =>
    if isQuote c then
      match (stringLoop t c i).run l with
      | none => .unclosed
      | some j => .string j
    else if comments && opensComment t i then .comment (commentEndAt t i)
    else .char c

/-! ### Rules -/

/-- The parentheses open, and the offset. -/
def preludeRound (t : Text) (statement : Bool) (s : Nat × Nat) :
    Round (Nat × Nat) (Option (Terminator × Nat)) :=
  match look l true t s.2 with
  | .nothing | .unclosed => .stop none
  | .string j | .comment j => .next (s.1, j)
  | .char c =>
    if c == '{' then .stop (some (.brace, s.2))
    else if c == '}' then .stop none
    else if c == ';' && statement && s.1 == 0 then .stop (some (.semicolon, s.2))
    else .next (parensAfter s.1 c, s.2 + 1)

/-- To what ends the prelude that begins at `i`. -/
def preludeLoop (t : Text) (i : Nat) : Loop (Nat × Nat) (Option (Terminator × Nat)) where
  round := preludeRound l t (t[i]? == some '@')
  start := (0, i)
  ahead := t.length - i
  spent _ := none

/-- The braces open, whether one has been met, and the offset. -/
structure BlockState where
  depth : Nat
  nested : Bool
  offset : Nat
  deriving DecidableEq, Repr

def blockRound (t : Text) (s : BlockState) : Round BlockState (Option (Nat × Bool)) :=
  match look l true t s.offset with
  | .nothing | .unclosed => .stop none
  | .string j | .comment j => .next { s with offset := j }
  | .char c =>
    if c == '{' then .next ⟨s.depth + 1, true, s.offset + 1⟩
    else if c == '}' then
      if s.depth - 1 == 0 then .stop (some (s.offset, s.nested))
      else .next ⟨s.depth - 1, s.nested, s.offset + 1⟩
    else .next { s with offset := s.offset + 1 }

/-- To the brace that closes the one at `i`. -/
def blockLoop (t : Text) (i : Nat) : Loop BlockState (Option (Nat × Bool)) where
  round := blockRound l t
  start := ⟨1, false, i + 1⟩
  ahead := t.length - (i + 1)
  spent _ := none

/-! ### Comments taken out -/

/-- What has been kept, from where on no decision has been made, and the offset. -/
structure CutState where
  kept : Text
  last : Nat
  offset : Nat
  deriving DecidableEq, Repr

def CutState.finish (t : Text) (s : CutState) : Text := s.kept ++ t.drop s.last

def cutRound (t : Text) (s : CutState) : Round CutState Text :=
  match look l true t s.offset with
  | .nothing | .unclosed => .stop (s.finish t)
  | .string j => .next { s with offset := j }
  | .comment j => .next ⟨s.kept ++ t.slice s.last s.offset, j, j⟩
  | .char _ => .next { s with offset := s.offset + 1 }

def cutLoop (t : Text) : Loop CutState Text where
  round := cutRound l t
  start := ⟨[], 0, 0⟩
  ahead := t.length
  spent := CutState.finish t

/-- Text that has no mark of a comment is not looked at any closer. -/
def uncomment (t : Text) : Text :=
  if Text.hasPiece ['/', '*'] t then (cutLoop l t).run l else t

/-! ### All rules of a text -/

def ruleFrom? (t : Text) (i : Nat) : Option Rule :=
  match (preludeLoop l t i).run l with
  | none => none
  | some (.semicolon, j) => some ⟨(t.slice i (j + 1 : Nat)).strip, [], i, j + 1, false, false⟩
  | some (.brace, j) =>
    match (blockLoop l t j).run l with
    | none => none
    | some (k, nested) =>
      some ⟨(uncomment l (t.slice i j)).strip, (uncomment l (t.slice (j + 1 : Nat) k)).strip, i, k + 1,
        true, nested⟩

def rulesRound (t : Text) (s : List Rule × Nat) : Round (List Rule × Nat) Parsed :=
  let i := (triviaLoop t s.2).run l
  if t.length ≤ i then .stop ⟨s.1, none⟩
  else
    match ruleFrom? l t i with
    | none => .stop ⟨s.1, some i⟩
    | some r => .next (s.1 ++ [r], r.stop)

def rulesLoop (t : Text) : Loop (List Rule × Nat) Parsed where
  round := rulesRound l t
  start := ([], 0)
  ahead := t.length
  spent s := ⟨s.1, none⟩

/-! ### Declarations -/

/-- The pieces so far, the parentheses open, where the next piece begins, and the offset. -/
structure PieceState where
  pieces : List Text
  parens : Nat
  last : Nat
  offset : Nat
  deriving DecidableEq, Repr

/-- The pieces stripped, the blank ones left out. -/
def stripped (pieces : List Text) : List Text :=
  (pieces.map Text.strip).filter fun d => !d.isEmpty

def PieceState.finish (t : Text) (s : PieceState) : List Text :=
  stripped (s.pieces ++ [t.drop s.last])

def declarationRound (t : Text) (s : PieceState) : Round PieceState (List Text) :=
  match look l false t s.offset with
  | .nothing | .unclosed => .stop (s.finish t)
  | .string j | .comment j => .next { s with offset := j }
  | .char c =>
    if c == ';' && s.parens == 0 then
      .next ⟨s.pieces ++ [t.slice s.last s.offset], 0, s.offset + 1, s.offset + 1⟩
    else .next { s with parens := parensAfter s.parens c, offset := s.offset + 1 }

def declarationLoop (t : Text) : Loop PieceState (List Text) where
  round := declarationRound l t
  start := ⟨[], 0, 0, 0⟩
  ahead := t.length
  spent := PieceState.finish t

/-! ### Strings blanked out -/

def blankRound (t : Text) (s : Text × Nat) : Round (Text × Nat) Text :=
  match Text.cut? isQuote (t.drop s.2) with
  | none => .stop (s.1 ++ t.drop s.2)
  | some (a, q, _) =>
    match (stringLoop t q (s.2 + a.length)).run l with
    | none => .stop (s.1 ++ a)
    | some j => .next (s.1 ++ a ++ emptyString, j)

def blankLoop (t : Text) : Loop (Text × Nat) Text where
  round := blankRound l t
  start := ([], 0)
  ahead := t.length
  spent s := s.1 ++ t.drop s.2

end

end ClassPurge.Css
