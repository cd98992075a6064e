import ClassPurge.Pattern.Iterate
import ClassPurge.Proofs.Css.Blanking
import ClassPurge.Proofs.Css.Offsets
import ClassPurge.Proofs.Pattern.Scanning
import Mathlib

/-!
Strings found by a pattern. The pattern of a closed string, with its alternatives and its escaped
characters, is matched with backtracking; but at each place one way at most leads on, so it finds
the strings that are read character by character, and replacing what it finds blanks them.
-/

namespace ClassPurge.Css

open Pattern (Node Cursor Span Scans NeverEmpty)

/-- The pattern of a closed string with quotes of either kind. -/
def quotedPattern : Text := "\"(?:\\\\.|[^\"\\\\])*\"|'(?:\\\\.|[^'\\\\])*'".toList

/-- A line feed is a character like others. -/
def quotedModes : Pattern.Modes := { Pattern.Modes.plain with dotAll := true }

/-! ### What the pattern spells -/

def charNode (c : Char) : Node := .one ⟨[.char c.toNat], false, false, false⟩

/-- A character that is neither the quote `q` nor a backslash. -/
def otherNode (q : Char) : Node :=
  .one ⟨[.char q.toNat, .char ('\\' : Char).toNat], true, false, false⟩

/-- A backslash with the character behind it, or another character. -/
def innerNode (q : Char) : Node :=
  .plain (.alt (.seq (charNode '\\') (.any true)) (otherNode q))

/-- A closed string between quotes `q`. -/
def stringNode (q : Char) : Node :=
  .seq (.seq (charNode q) (.repeated .greedy 0 none (innerNode q))) (charNode q)

def quotedNode : Node := .alt (stringNode '"') (stringNode '\'')

lemma ofText_quotedPattern :
    Pattern.ofText quotedPattern quotedModes = .ok ⟨quotedPattern, quotedModes, quotedNode⟩ := by
  cbv

/-! ### Matching a string -/

variable {t : Text} {q : Char} {i : Nat}

lemma has_char (ascii : Bool) (c d : Char) :
    Pattern.Item.has ascii d (.char c.toNat) = decide (d = c) := by
  simp only [Pattern.Item.has, beq_eq_decide, Char.toNat_inj]

lemma run_charNode (c : Char) (s : Cursor) (k : Cursor → Option Cursor) :
    (charNode c).run t.toArray s k = if t[s.offset]? = some c then k (s.advance 1) else none := by
  have hhas (d : Char) : Pattern.CharSet.has ⟨[.char c.toNat], false, false, false⟩ d =
      decide (d = c) := by
    simp [Pattern.CharSet.has, ← has_char false, Pattern.Item.has]
  simp only [charNode, Node.run, List.getElem?_toArray, hhas]
  rcases t[s.offset]? with _ | d <;> simp

lemma run_any (s : Cursor) (k : Cursor → Option Cursor) :
    (Node.any true).run t.toArray s k = (t[s.offset]?).bind fun _ => k (s.advance 1) := by
  simp only [Node.run, List.getElem?_toArray, Bool.true_or, if_true]
  rcases t[s.offset]? with _ | c <;> rfl

lemma run_otherNode (q : Char) (s : Cursor) (k : Cursor → Option Cursor) :
    (otherNode q).run t.toArray s k =
      (t[s.offset]?).bind fun c => if c = q ∨ c = '\\' then none else k (s.advance 1) := by
  have hhas (c : Char) : Pattern.CharSet.has
      ⟨[.char q.toNat, .char ('\\' : Char).toNat], true, false, false⟩ c =
        !decide (c = q ∨ c = '\\') := by
    simp only [Pattern.CharSet.has, List.any_cons, List.any_nil, has_char]
    simp
  simp only [otherNode, Node.run, List.getElem?_toArray, hhas]
  rcases t[s.offset]? with _ | c
  · rfl
  · by_cases hc : c = q ∨ c = '\\' <;> simp [hc]

/-- How many characters are taken together inside a string: a backslash takes one along, and the
quote is not taken. -/
def innerWidth? (q : Char) : Text → Option Nat
  | [] => none
  | c :: r => if c = '\\' then (if r = [] then none else some 2) else if c = q then none else some 1

/-- There is one way at most to go on inside a string. -/
lemma run_innerNode (s : Cursor) (k : Cursor → Option Cursor) :
    (innerNode q).run t.toArray s k =
      (innerWidth? q (t.drop s.offset)).bind fun n => k (s.advance n) := by
  rw [innerNode, Node.run, Node.run, Node.run, run_charNode, run_otherNode]
  rcases h : t[s.offset]? with _ | c
  · rw [List.drop_eq_nil_of_le (List.getElem?_eq_none_iff.mp h)]
    rfl
  rw [drop_cons h, innerWidth?]
  by_cases hc : c = '\\'
  · have hadvance : (s.advance 1).advance 1 = s.advance 2 := rfl
    rw [hc, if_pos rfl, if_pos rfl, run_any, hadvance, Cursor.advance_offset]
    rcases hn : t[s.offset + 1]? with _ | d
    · rw [if_pos (List.drop_eq_nil_of_le (List.getElem?_eq_none_iff.mp hn))]
      simp
    · rw [drop_cons hn, if_neg (List.cons_ne_nil _ _)]
      rcases hk : k (s.advance 2) <;> simp [hk]
  · rw [if_neg (by simpa using hc), if_neg hc]
    by_cases hq : c = q
    · simp [hq]
    · simp [hc, hq]

/-- What is taken together is not the end of the string. -/
lemma afterString?_of_innerWidth? (hq : q ≠ '\\') {r : Text} {n : Nat}
    (h : innerWidth? q r = some n) :
    0 < n ∧ r.head? ≠ some q ∧ afterString? q r = afterString? q (r.drop n) := by
  cases r with
  | nil => cases h
  | cons c r =>
    rw [innerWidth?] at h
    rw [List.head?_cons, ne_eq, Option.some.injEq]
    split at h
    · rename_i hc
      subst hc
      split at h
      · cases h
      · rename_i hr
        obtain rfl := Option.some.inj h
        obtain ⟨d, r, rfl⟩ := List.exists_cons_of_ne_nil hr
        exact ⟨by decide, hq.symm, afterString?.eq_3 ..⟩
    · rename_i hc
      split at h
      · cases h
      · rename_i hcq
        obtain rfl := Option.some.inj h
        refine ⟨by decide, hcq, ?_⟩
        rw [afterString?_cons hc, if_neg (by simpa using hcq)]
        rfl

/-- Where nothing is taken the string ends, or does not close. -/
lemma afterString?_of_innerWidth?_none (hq : q ≠ '\\') {r : Text} (h : innerWidth? q r = none) :
    afterString? q r = if r.head? = some q then some r.tail else none := by
  cases r with
  | nil => rw [afterString?_nil, if_neg (by simp)]
  | cons c r =>
    rw [innerWidth?] at h
    simp only [List.head?_cons, Option.some.injEq, List.tail_cons]
    split at h
    · rename_i hc
      subst hc
      split at h
      · rename_i hr
        rw [hr, afterString?.eq_2, if_neg hq.symm]
      · cases h
    · rename_i hc
      split at h
      · rename_i hcq
        rw [afterString?_cons hc, if_pos (by simpa using hcq), if_pos hcq]
      · cases h

/-- **All rounds inside a string.** They lead to its closing quote, or to no match. -/
lemma run_rounds (hq : q ≠ '\\') {fuel : Nat} (count : Nat) (last : Option Nat) (s : Cursor)
    (hfuel : t.length < s.offset + fuel) (hlast : last ≠ some s.offset) :
    Pattern.greedyRounds (fun s k => (innerNode q).run t.toArray s k) 0 none fuel count last s
        (fun s => (charNode q).run t.toArray s some) =
      (afterString? q (t.drop s.offset)).map fun r => { s with offset := offsetOf t r } := by
  induction fuel generalizing count last s with
  | zero =>
    have hget : t[s.offset]? = none := List.getElem?_eq_none (by omega)
    rw [Pattern.greedyRounds, run_charNode, hget, List.drop_eq_nil_of_le (by omega),
      afterString?_nil, if_neg (by simp), Option.map_none]
  | succ fuel ih =>
    have hgo : ((none : Option Nat).all (count < ·) && last != some s.offset) = true := by
      simpa using hlast
    rw [Pattern.greedyRounds, if_neg (Nat.not_lt_zero _), if_pos hgo, run_innerNode]
    rcases hw : innerWidth? q (t.drop s.offset) with _ | n
    · -- no round is left: the quote, or no match
      rw [afterString?_of_innerWidth?_none hq hw, List.head?_drop, List.tail_drop, Option.bind_none]
      simp only [run_charNode]
      by_cases hget : t[s.offset]? = some q
      · have hlt := lt_of_getElem? hget
        have hoff : offsetOf t (t.drop (s.offset + 1)) = s.offset + 1 := by
          rw [offsetOf, List.length_drop]
          omega
        rw [if_pos hget, if_pos hget, Option.map_some, hoff]
        rfl
      · rw [if_neg hget, if_neg hget, Option.map_none]
    · -- what stands here is no quote, so no round can be given back
      obtain ⟨hn, hhead, hafter⟩ := afterString?_of_innerWidth? hq hw
      rw [List.head?_drop] at hhead
      have hrest := ih (count + 1) (some s.offset) (s.advance n)
        (by rw [Cursor.advance_offset]; omega) (by simp; omega)
      have hquote : (charNode q).run t.toArray s some = none := by
        rw [run_charNode, if_neg hhead]
      simp only [Option.bind_some]
      rw [hrest, hafter, List.drop_drop, Cursor.advance_offset]
      rcases afterString? q (t.drop (s.offset + n)) with _ | r
      · exact hquote
      · rfl

/-- A string as it is matched. -/
lemma run_stringNode (hq : q ≠ '\\') (s : Cursor) :
    (stringNode q).run t.toArray s some =
      if t[s.offset]? = some q then
        (afterString? q (t.drop (s.offset + 1))).map fun r => { s with offset := offsetOf t r }
      else none := by
  rw [stringNode, Node.run, Node.run, run_charNode]
  split
  · rename_i h
    have hlt := lt_of_getElem? h
    rw [Node.run]
    simp only [List.size_toArray]
    refine run_rounds hq 0 none (s.advance 1) ?_ (by simp)
    rw [Cursor.advance_offset]
    omega
  · rfl

/-- Where the string that begins at `i` ends, if one does. -/
def stringStop? (t : Text) (i : Nat) : Option Nat :=
  (t[i]?).bind fun q =>
    if isQuote q then (afterString? q (t.drop (i + 1))).map (offsetOf t) else none

/-- **The pattern matches the strings that are read character by character.** -/
lemma matchAt?_quotedNode (t : Text) (i : Nat) :
    quotedNode.matchAt? t.toArray i = (stringStop? t i).map (Span.mk i) := by
  rw [Node.matchAt?, quotedNode, Node.run, run_stringNode (by decide), run_stringNode (by decide),
    stringStop?]
  simp only
  rcases t[i]? with _ | q
  · rfl
  by_cases hdouble : q = '"'
  · subst hdouble
    rcases h : afterString? '"' (t.drop (i + 1)) with _ | r <;> simp [isQuote, h]
  by_cases hsingle : q = '\''
  · subst hsingle
    rcases h : afterString? '\'' (t.drop (i + 1)) with _ | r <;> simp [isQuote, h]
  · have hq : ¬ isQuote q := fun hq => (isQuote_iff.mp hq).elim hdouble hsingle
    simp [hdouble, hsingle, hq]

lemma stopAt?_quotedNode (t : Text) : quotedNode.stopAt? false t.toArray = stringStop? t := by
  funext i
  have hstop : quotedNode.stopAt? false t.toArray i =
    (quotedNode.matchAt? t.toArray i).map Span.stop := rfl
  rw [hstop, matchAt?_quotedNode, Option.map_map]
  exact Option.map_id'

/-! ### Replacing all strings -/

lemma exists_of_stringStop? {j : Nat} (h : stringStop? t i = some j) :
    ∃ q, t[i]? = some q ∧ isQuote q ∧ (afterString? q (t.drop (i + 1))).map (offsetOf t) = some j := by
  obtain ⟨q, hget, hq⟩ := Option.bind_eq_some_iff.mp h
  split at hq
  · rename_i hquote
    exact ⟨q, hget, hquote, hq⟩
  · cases hq

lemma blankStrings_of_stringStop? {j : Nat} (h : stringStop? t i = some j) :
    i < j ∧ j ≤ t.length ∧ blankStrings (t.drop i) = emptyString ++ blankStrings (t.drop j) := by
  obtain ⟨q, hget, hquote, hstop⟩ := exists_of_stringStop? h
  obtain ⟨hlt, hle, hafter⟩ := stringEnd_bounds hget hstop
  exact ⟨hlt, hle, by rw [drop_cons hget, blankStrings_closed hquote hafter]⟩

lemma blankStrings_of_stringStop?_none {c : Char} (h : stringStop? t i = none)
    (hc : t[i]? = some c) : blankStrings (t.drop i) = c :: blankStrings (t.drop (i + 1)) := by
  rw [drop_cons hc]
  by_cases hq : isQuote c
  · refine blankStrings_unclosed ?_
    simpa [stringStop?, hc, hq] using h
  · exact blankStrings_char hq _

lemma blankStrings_skip {j : Nat} (hij : i ≤ j) (hj : j ≤ t.length)
    (h : ∀ k, i ≤ k → k < j → stringStop? t k = none) :
    blankStrings (t.drop i) = t.slice i j ++ blankStrings (t.drop j) := by
  induction hn : j - i generalizing i with
  | zero =>
    obtain rfl : i = j := by omega
    rw [slice_self, List.nil_append]
  | succ n ih =>
    have hget : t[i]? = some t[i] := List.getElem?_eq_getElem (by omega)
    rw [blankStrings_of_stringStop?_none (h i (Nat.le_refl _) (by omega)) hget,
      ih (by omega) (fun k hk hlt => h k (by omega) hlt) (by omega), Text.slice_eq, Text.slice_eq,
      drop_cons hget, hn, List.take_succ_cons, List.cons_append]
    congr 3
    omega

variable {search : Nat → Option Span} {ms : List Span} {e : Pattern.ScanEnd}

/-- **Replacing what a scan finds blanks the strings**, round by round. -/
lemma replaceAll_of_scans (hf : Pattern.FindsFirst (stringStop? t) search t.length)
    (h : Scans search t.length i ms e) (hn : NeverEmpty search t.length) :
    Pattern.replaceAll emptyString t i ms = blankStrings (t.drop i) := by
  induction h with
  | @done i hi h =>
    have hskip := blankStrings_skip hi (Nat.le_refl _)
      fun k hk hlt => hf.missed i hi h k hk (Nat.le_of_lt hlt)
    rw [Pattern.replaceAll, hskip, Text.slice_end, List.drop_length, blankStrings.eq_1,
      List.append_nil]
  | stalled hi h => exact absurd (hn _ hi _ h) (Nat.lt_irrefl _)
  | @next i m ms e hi h hstart hlt hms ih =>
    obtain ⟨hat, hbefore⟩ := hf.found i hi m h
    obtain ⟨hlt', hle, hblank⟩ := blankStrings_of_stringStop? hat
    rw [Pattern.replaceAll, blankStrings_skip hstart.1 (by omega) hbefore, hblank, ih,
      List.append_assoc]

/-- The pattern as it was read. -/
def quoted : Pattern := ⟨quotedPattern, quotedModes, quotedNode⟩

lemma substitute?_quoted (t : Text) : quoted.substitute? emptyString t = some (blankStrings t) := by
  have hf := Pattern.findsFirst_search? quotedNode false t.toArray
  rw [stopAt?_quotedNode, List.size_toArray] at hf
  have hn : NeverEmpty (quotedNode.search? false t.toArray) t.length := by
    intro pos hpos m hm
    exact (blankStrings_of_stringStop? (hf.found pos hpos m hm).1).1
  have hscan := Pattern.scans_scan (Pattern.staysInside_search? quotedNode false t.toArray)
  rw [List.size_toArray] at hscan
  have hall : quoted.matches? t = some _ := hscan.allMatches? hn rfl
  rw [Pattern.substitute?, hall, Option.map_some, replaceAll_of_scans hf hscan hn, List.drop_zero]

/-- **Strings are the same to the pattern and to the loop.** At every quote the loop ends where
the pattern matches up to, and finds no end just where the pattern does not match. Replacing what
the pattern matches blanks a text as selectors are blanked; and this is the text in which the
strings are dropped one by one, just if every quote that is met there opens a string that
closes. -/
theorem quoted_agrees :
    Pattern.ofText quotedPattern quotedModes = .ok quoted ∧
    (∀ t i q, t[i]? = some q → isQuote q → ∃ r, stringEndAt? t i = some r ∧
      (∀ l, (stringLoop t q i).run l = r) ∧
      (∀ j, r = some j ↔ quoted.node.matchAt? t.toArray i = some ⟨i, j⟩) ∧
      (r = none ↔ quoted.node.matchAt? t.toArray i = none)) ∧
    (∀ t, quoted.substitute? emptyString t = some (blankStrings t)) ∧
    ∀ t, quoted.substitute? emptyString t = some (dropQuoted t) ↔
      ∀ k ∈ quoteTokens t, ¬ k.IsUnclosed := by
  refine ⟨ofText_quotedPattern, fun t i q hget hq => ?_, substitute?_quoted, fun t => ?_⟩
  · have hmatch : quoted.node.matchAt? t.toArray i = (stringStop? t i).map (Span.mk i) :=
      matchAt?_quotedNode t i
    have hstop : stringStop? t i = (afterString? q (t.drop (i + 1))).map (offsetOf t) := by
      rw [stringStop?, hget, Option.bind_some, if_pos hq]
    refine ⟨stringStop? t i, ?_, fun l => ?_, fun j => ?_, ?_⟩
    · rw [stringEndAt?, drop_cons hget, hstop]
    · rw [stringLoop_run hget, hstop]
    · rw [hmatch]
      rcases stringStop? t i with _ | j' <;> simp
    · rw [hmatch, Option.map_eq_none_iff]
  · rw [substitute?_quoted, Option.some.injEq, eq_comm, dropQuoted_eq_blankStrings_iff]

end ClassPurge.Css
