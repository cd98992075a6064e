import ClassPurge.Pattern.Match
import Mathlib.Tactic.Common

/-!
Matching never goes back and never leaves the text: whatever has to match behind a pattern is
tried at places that lie behind the place where the pattern was tried, and in the text. So what a
search finds lies in the text, behind the place where the search began.
-/

namespace ClassPurge.Pattern

variable {text : Array Char} {size : Nat}

@[simp] lemma Cursor.advance_offset (s : Cursor) (n : Nat) :
    (s.advance n).offset = s.offset + n := rfl

/-! ### One match -/

/-- What follows is tried no earlier than the matcher was, and within `size` characters. -/
def Moves (size : Nat) (m : Matcher) : Prop :=
  ∀ s k r, s.offset ≤ size → m s k = some r →
    ∃ s', k s' = some r ∧ s.offset ≤ s'.offset ∧ s'.offset ≤ size

lemma moves_skip : Moves size fun s k => k s :=
  fun s _ _ hs h => ⟨s, h, Nat.le_refl _, hs⟩

lemma Moves.then {a b : Matcher} (ha : Moves size a) (hb : Moves size b) :
    Moves size fun s k => a s fun s' => b s' k := by
  intro s k r hs h
  obtain ⟨s₁, h₁, hle₁, hs₁⟩ := ha s _ r hs h
  obtain ⟨s₂, h₂, hle₂, hs₂⟩ := hb s₁ k r hs₁ h₁
  exact ⟨s₂, h₂, Nat.le_trans hle₁ hle₂, hs₂⟩

lemma Moves.settled {a : Matcher} (ha : Moves size a) {s s' : Cursor} (hs : s.offset ≤ size)
    (h : a s some = some s') : s.offset ≤ s'.offset ∧ s'.offset ≤ size := by
  obtain ⟨s₁, h₁, hle, hs₁⟩ := ha s some s' hs h
  obtain rfl := Option.some.inj h₁
  exact ⟨hle, hs₁⟩

lemma moves_greedyRounds {body : Matcher} (hb : Moves size body) (least : Nat) (most : Option Nat)
    (fuel : Nat) : ∀ count last, Moves size (greedyRounds body least most fuel count last) := by
  induction fuel with
  | zero => exact fun _ _ => moves_skip
  | succ fuel ih =>
    intro count last s k r hs h
    rw [greedyRounds] at h
    split at h
    · exact (hb.then (ih (count + 1) last)) s k r hs h
    split at h
    · split at h
      · rename_i r' hr
        obtain rfl := Option.some.inj h
        exact (hb.then (ih (count + 1) (some s.offset))) s k r' hs hr
      · exact moves_skip s k r hs h
    · exact moves_skip s k r hs h

lemma moves_lazyRounds {body : Matcher} (hb : Moves size body) (least : Nat) (most : Option Nat)
    (fuel : Nat) : ∀ count last, Moves size (lazyRounds body least most fuel count last) := by
  induction fuel with
  | zero => exact fun _ _ => moves_skip
  | succ fuel ih =>
    intro count last s k r hs h
    rw [lazyRounds] at h
    split at h
    · exact (hb.then (ih (count + 1) last)) s k r hs h
    split at h
    · rename_i r' hr
      exact moves_skip s k r hs (hr.trans h)
    split at h
    · exact (hb.then (ih (count + 1) (some s.offset))) s k r hs h
    · cases h

lemma possessiveRounds_bounds {body : Matcher} (hb : Moves size body) (least : Nat)
    (most : Option Nat) (fuel : Nat) : ∀ count s s', s.offset ≤ size →
      possessiveRounds body least most fuel count s = some s' →
        s.offset ≤ s'.offset ∧ s'.offset ≤ size := by
  induction fuel with
  | zero =>
    rintro count s s' hs ⟨⟩
    exact ⟨Nat.le_refl _, hs⟩
  | succ fuel ih =>
    intro count s s' hs h
    have hgoes {s₁ : Cursor} (h₁ : body s some = some s₁)
        (h₂ : possessiveRounds body least most fuel (count + 1) s₁ = some s') :
        s.offset ≤ s'.offset ∧ s'.offset ≤ size := by
      obtain ⟨hle₁, hs₁⟩ := hb.settled hs h₁
      obtain ⟨hle₂, hs₂⟩ := ih (count + 1) s₁ s' hs₁ h₂
      exact ⟨Nat.le_trans hle₁ hle₂, hs₂⟩
    rw [possessiveRounds] at h
    split at h
    · obtain ⟨s₁, h₁, h₂⟩ := Option.bind_eq_some_iff.mp h
      exact hgoes h₁ h₂
    split at h
    · split at h
      · rename_i s₁ h₁
        split at h
        · obtain rfl := Option.some.inj h
          exact hb.settled hs h₁
        · exact hgoes h₁ h
      · obtain rfl := Option.some.inj h
        exact ⟨Nat.le_refl _, hs⟩
    · obtain rfl := Option.some.inj h
      exact ⟨Nat.le_refl _, hs⟩

lemma le_size_of_repeats {ignoreCase ascii : Bool} {i j n : Nat} (hi : i ≤ text.size)
    (h : repeats text ignoreCase ascii j i n) : i + n ≤ text.size := by
  induction n generalizing i j with
  | zero => exact hi
  | succ n ih =>
    rw [repeats] at h
    split at h
    · rename_i hb
      obtain ⟨hlt, -⟩ := Array.getElem?_eq_some_iff.mp hb
      have := ih (i := i + 1) hlt (Bool.and_eq_true_iff.mp h).2
      omega
    · cases h

lemma moves_char (has : Char → Bool) : Moves text.size fun s k =>
    match text[s.offset]? with
    | some c => if has c then k (s.advance 1) else none
    | none => none := by
  intro s k r hs h
  simp only at h
  split at h
  · rename_i hc
    obtain ⟨hlt, -⟩ := Array.getElem?_eq_some_iff.mp hc
    split at h
    · exact ⟨_, h, Nat.le_succ _, hlt⟩
    · cases h
  · cases h

lemma moves_look (inner : Cursor → Option Cursor) (negated : Bool) : Moves size fun s k =>
    match inner s with
    | some s' => if negated then none else k { s' with offset := s.offset }
    | none => if negated then k s else none := by
  intro s k r hs h
  simp only at h
  split at h <;> split at h
  · cases h
  · exact ⟨_, h, Nat.le_refl _, hs⟩
  · exact moves_skip s k r hs h
  · cases h

/-- **Matching never goes back and never leaves the text.** -/
theorem moves_run (text : Array Char) (n : Node) : Moves text.size (n.run text) := by
  induction n with
  | empty => exact moves_skip
  | one set => exact moves_char set.has
  | any dotAll => exact moves_char fun c => dotAll || c != '\n'
  | anchor a =>
    intro s k r hs h
    rw [Node.run] at h
    split at h
    · exact moves_skip s k r hs h
    · cases h
  | seq a b iha ihb => exact iha.then ihb
  | alt a b iha ihb =>
    intro s k r hs h
    rw [Node.run] at h
    split at h
    · rename_i r' hr
      exact iha s k r hs (hr.trans h)
    · exact ihb s k r hs h
  | plain n ih => exact ih
  | «scoped» n ih => exact ih
  | group i n ih =>
    intro s k r hs h
    obtain ⟨s', h', hle, hs'⟩ := ih (s.enter i) _ r hs h
    exact ⟨s'.leave i, h', hle, hs'⟩
  | repeated greed least most n ih =>
    intro s k r hs h
    cases greed with
    | greedy => exact moves_greedyRounds ih least most _ 0 none s k r hs h
    | lazy => exact moves_lazyRounds ih least most _ 0 none s k r hs h
    | possessive =>
      obtain ⟨s', h', hk⟩ := Option.bind_eq_some_iff.mp h
      exact ⟨s', hk, possessiveRounds_bounds ih least most _ 0 s s' hs h'⟩
  | back i ignoreCase ascii =>
    intro s k r hs h
    rw [Node.run] at h
    split at h
    · split at h
      · rename_i hr
        exact ⟨_, h, Nat.le_add_right .., le_size_of_repeats hs hr⟩
      · cases h
    · cases h
  | ahead negated n => exact moves_look (fun s => n.run text s some) negated
  | behind negated width n =>
    exact moves_look (fun s => if s.offset < width then none
      else n.run text { s with offset := s.offset - width } some) negated
  | atomic n ih =>
    intro s k r hs h
    obtain ⟨s', h', hk⟩ := Option.bind_eq_some_iff.mp h
    exact ⟨s', hk, ih.settled hs h'⟩
  | conditional i yes no ihy ihn =>
    intro s k r hs h
    rw [Node.run] at h
    split at h
    · exact ihy s k r hs h
    · exact ihn s k r hs h

lemma matchAt?_bounds {n : Node} {i : Nat} {m : Span} (hi : i ≤ text.size)
    (h : n.matchAt? text i = some m) : m.start = i ∧ i ≤ m.stop ∧ m.stop ≤ text.size := by
  obtain ⟨s, hs, rfl⟩ := Option.map_eq_some_iff.mp h
  exact ⟨rfl, (moves_run text n).settled hi hs⟩

/-! ### The first match -/

/-- What a search finds lies in a text of `size` characters, behind the place where the search
began. -/
def StaysInside (search : Nat → Option Span) (size : Nat) : Prop :=
  ∀ pos ≤ size, ∀ m ∈ search pos, pos ≤ m.start ∧ m.start ≤ m.stop ∧ m.stop ≤ size

/-- A search finds the match at the first place that has one; `at? i` is where the match at `i`
ends. -/
structure FindsFirst (at? : Nat → Option Nat) (search : Nat → Option Span) (size : Nat) : Prop where
  found : ∀ pos ≤ size, ∀ m ∈ search pos,
    at? m.start = some m.stop ∧ ∀ i, pos ≤ i → i < m.start → at? i = none
  missed : ∀ pos ≤ size, search pos = none → ∀ i, pos ≤ i → i ≤ size → at? i = none

/-- Where the match at `i` ends, if one is looked for there. -/
def Node.stopAt? (n : Node) (ascii : Bool) (text : Array Char) (i : Nat) : Option Nat :=
  (if n.mayBeginAt ascii text i then n.matchAt? text i else none).map Span.stop

lemma searchWithin?_succ (n : Node) (ascii : Bool) (tries start : Nat) :
    n.searchWithin? ascii text (tries + 1) start =
      ((n.stopAt? ascii text start).map (Span.mk start)).or
        (n.searchWithin? ascii text tries (start + 1)) := by
  rw [Node.searchWithin?, Node.stopAt?]
  congr 1
  split
  · simp [Node.matchAt?, Function.comp_def]
  · rfl

lemma stopAt?_bounds {n : Node} {ascii : Bool} {i j : Nat} (hi : i ≤ text.size)
    (h : n.stopAt? ascii text i = some j) : i ≤ j ∧ j ≤ text.size := by
  rw [Node.stopAt?] at h
  obtain ⟨m, hm, rfl⟩ := Option.map_eq_some_iff.mp h
  split at hm
  · exact (matchAt?_bounds hi hm).2
  · cases hm

lemma searchWithin?_eq_some {n : Node} {ascii : Bool} {tries start : Nat} {m : Span}
    (h : n.searchWithin? ascii text tries start = some m) :
    start ≤ m.start ∧ m.start < start + tries ∧ n.stopAt? ascii text m.start = some m.stop ∧
      ∀ i, start ≤ i → i < m.start → n.stopAt? ascii text i = none := by
  induction tries generalizing start with
  | zero => cases h
  | succ tries ih =>
    rw [searchWithin?_succ] at h
    rcases hat : n.stopAt? ascii text start with _ | j
    · simp only [hat, Option.map_none, Option.none_or] at h
      obtain ⟨hle, hlt, hm, hbefore⟩ := ih h
      refine ⟨by omega, by omega, hm, fun i hi him => ?_⟩
      rcases Nat.eq_or_lt_of_le hi with rfl | hlt
      · exact hat
      · exact hbefore i hlt him
    · simp only [hat, Option.map_some, Option.some_or, Option.some.injEq] at h
      subst h
      exact ⟨Nat.le_refl _, by simp only; omega, hat, fun i hi him => by simp only at him; omega⟩

lemma searchWithin?_eq_none {n : Node} {ascii : Bool} {tries start : Nat}
    (h : n.searchWithin? ascii text tries start = none) :
    ∀ i, start ≤ i → i < start + tries → n.stopAt? ascii text i = none := by
  induction tries generalizing start with
  | zero => omega
  | succ tries ih =>
    rw [searchWithin?_succ, Option.or_eq_none_iff, Option.map_eq_none_iff] at h
    intro i hi hlt
    rcases Nat.eq_or_lt_of_le hi with rfl | hlt'
    · exact h.1
    · exact ih h.2 i hlt' (by omega)

/-- **Searching stays inside the text**, for every pattern and every text. -/
theorem staysInside_search? (n : Node) (ascii : Bool) (text : Array Char) :
    StaysInside (n.search? ascii text) text.size := by
  intro pos hpos m hm
  obtain ⟨hle, hlt, hat, -⟩ := searchWithin?_eq_some hm
  exact ⟨hle, stopAt?_bounds (by omega) hat⟩

/-- **Searching finds the leftmost match.** -/
theorem findsFirst_search? (n : Node) (ascii : Bool) (text : Array Char) :
    FindsFirst (n.stopAt? ascii text) (n.search? ascii text) text.size where
  found pos _ m hm := by
    obtain ⟨-, -, hat, hbefore⟩ := searchWithin?_eq_some hm
    exact ⟨hat, hbefore⟩
  missed pos hpos h i hi hsize := searchWithin?_eq_none h i hi (by omega)

end ClassPurge.Pattern
