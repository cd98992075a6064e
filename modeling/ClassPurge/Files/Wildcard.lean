import ClassPurge.Text.Basic

/-!
Wildcards in names and paths. A star stands for any text, slashes included, a question mark for
any character, and brackets for one character out of a set. Brackets that do not close stand for
themselves.
-/

namespace ClassPurge.Files

inductive Wild
  | char (c : Char)
  | anyChar
  | anyText
  /-- One character in the ranges, or one that is in none of them. -/
  | oneOf (negated : Bool) (ranges : Ranges)
  deriving DecidableEq, Repr

/-! ### Sets of characters -/

/-- The inside of the brackets opened before `t`, and what follows them. A bracket that would
close an empty set is a member. -/
def setBody? (t : Text) : Option (Text × Text) :=
  let bang : Text := if t.head? == some '!' then ['!'] else []
  let r := t.drop bang.length
  let first : Text := if r.head? == some ']' then [']'] else []
  (Text.cut? (· == ']') (r.drop first.length)).map fun (a, _, b) => (bang ++ first ++ a, b)

inductive SetMark
  | char (c : Char)
  | hyphen
  deriving DecidableEq, Repr

/-- The chunks between hyphens that make ranges. The first chunk has at least `room` characters,
each later one but the last at least two. -/
def chunksWithin : Nat → Nat → Text → List Text
  | 0, _, t => [t]
  | n + 1, room, t =>
    match Text.cut? (· == '-') (t.drop room) with
    | none => [t]
    | some (a, _, b) => (t.take room ++ a) :: chunksWithin n 2 b

/-- A hyphen at the end of the set belongs to the chunk before it. -/
def closeChunks : List Text → List Text
  | [c, []] => [c ++ ['-']]
  | c :: cs => c :: closeChunks cs
  | [] => []

def chunks (body : Text) : List Text :=
  closeChunks (chunksWithin body.length (if body.head? == some '!' then 2 else 1) body)

/-- Two chunks that would make a range with no characters in it are joined without its ends. -/
def joinEmpty (a : Text) : List Text → List Text
  | [] => [a]
  | b :: cs =>
    match a.getLast?, b.head? with
    | some x, some y => if y.toNat < x.toNat then (a.dropLast ++ b.drop 1) :: cs else a :: b :: cs
    | _, _ => a :: b :: cs

def joinEmptyRanges : List Text → List Text
  | [] => []
  | c :: cs => joinEmpty c (joinEmptyRanges cs)

def marksOf : List Text → List SetMark
  | [] => []
  | [c] => c.map .char
  | c :: cs => c.map .char ++ .hyphen :: marksOf cs

def rangesOf : List SetMark → Ranges
  | [] => []
  | .char a :: .hyphen :: .char b :: ms => (a.toNat, b.toNat) :: rangesOf ms
  | .char a :: ms => (a.toNat, a.toNat) :: rangesOf ms
  | .hyphen :: ms => ('-'.toNat, '-'.toNat) :: rangesOf ms

/-- The set that stands between brackets. A first exclamation mark negates it. -/
def setOf (body : Text) : Wild :=
  match marksOf (joinEmptyRanges (chunks body)) with
  | .char '!' :: ms => .oneOf true (rangesOf ms)
  | ms => .oneOf false (rangesOf ms)

/-! ### Reading -/

theorem setBody?_length {t a b : Text} (h : setBody? t = some (a, b)) : b.length ≤ t.length := by
  obtain ⟨⟨x, y, z⟩, hc, he⟩ := Option.map_eq_some_iff.mp h
  have hl := congrArg List.length (Text.eq_of_cut? hc).2
  simp only [Prod.mk.injEq] at he
  simp only [List.length_drop, List.length_append, List.length_cons, he.2] at hl
  omega

def wilds : Text → List Wild
  | [] => []
  | c :: r =>
    if c = '*' then .anyText :: wilds r
    else if c = '?' then .anyChar :: wilds r
    else if c = '[' then
      match _h : setBody? r with
      | some (body, r') => setOf body :: wilds r'
      | none => .char '[' :: wilds r
    else .char c :: wilds r
  termination_by t => t.length
  decreasing_by
    · simp
    · simp
    · have := setBody?_length _h
      simp only [List.length_cons]; omega
    · simp
    · simp

/-! ### Matching -/

def Wild.accepts (c : Char) : Wild → Bool
  | .char d => c == d
  | .anyChar => true
  | .anyText => false
  | .oneOf negated ranges => ranges.has c.toNat != negated

def anySuffix (f : Text → Bool) : Text → Bool
  | [] => f []
  | c :: r => f (c :: r) || anySuffix f r

theorem anySuffix_iff {f : Text → Bool} {t : Text} :
    anySuffix f t = true ↔ ∃ a b, t = a ++ b ∧ f b = true := by
  induction t with
  | nil =>
    simp only [anySuffix]
    constructor
    · exact fun h => ⟨[], [], rfl, h⟩
    · rintro ⟨a, b, he, h⟩
      obtain ⟨rfl, rfl⟩ := List.append_eq_nil_iff.mp he.symm
      exact h
  | cons c r ih =>
    simp only [anySuffix, Bool.or_eq_true, ih]
    constructor
    · rintro (h | ⟨a, b, he, h⟩)
      · exact ⟨[], c :: r, rfl, h⟩
      · exact ⟨c :: a, b, by simp [he], h⟩
    · rintro ⟨a, b, he, h⟩
      cases a with
      | nil => exact .inl (by simpa [he] using h)
      | cons d a =>
        simp only [List.cons_append, List.cons.injEq] at he
        exact .inr ⟨a, b, he.2, h⟩

def wildMatch : List Wild → Text → Bool
  | [], t => t.isEmpty
  | .anyText :: ps, t => anySuffix (wildMatch ps) t
  | p :: ps, t =>
    match t with
    | [] => false
    | c :: r => p.accepts c && wildMatch ps r

@[simp] theorem wildMatch_nil (t : Text) : wildMatch [] t = t.isEmpty := rfl

@[simp] theorem wildMatch_anyText (ps : List Wild) (t : Text) :
    wildMatch (.anyText :: ps) t = anySuffix (wildMatch ps) t := rfl

@[simp] theorem wildMatch_char (d : Char) (ps : List Wild) (c : Char) (r : Text) :
    wildMatch (.char d :: ps) (c :: r) = (c == d && wildMatch ps r) := rfl

theorem wildMatch_rest (t : Text) : wildMatch [.anyText] t = true :=
  anySuffix_iff.mpr ⟨t, [], (List.append_nil t).symm, rfl⟩

def matchesWild (pattern t : Text) : Bool := wildMatch (wilds pattern) t

def ignores (pattern path : Text) : Bool :=
  matchesWild pattern path || matchesWild pattern ('/' :: path)

/-- Whether one of the patterns stands for the path, or for the path with a slash before it. -/
def isIgnored (patterns : List Text) (path : Text) : Bool :=
  patterns.any fun p => ignores p path

end ClassPurge.Files
