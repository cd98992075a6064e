import ClassPurge.Proofs.Css.Branches

/-!
Strings blanked out in two ways. One stops at a quote whose string does not close, the other
takes it for an ordinary character; where every string closes they write the same text.
-/

namespace ClassPurge.Css

variable {t : Text}

@[simp] lemma dropQuoted_nil : dropQuoted [] = [] := by
  rw [dropQuoted, quoteTokens_nil, blankTokens]

lemma dropQuoted_char {c : Char} (hc : ¬ isQuote c) (t : Text) :
    dropQuoted (c :: t) = c :: dropQuoted t := by
  rw [dropQuoted, quoteTokens, scan_char hc (by simp)]
  rfl

lemma dropQuoted_append {a : Text} (ha : ∀ x ∈ a, ¬ isQuote x) (t : Text) :
    dropQuoted (a ++ t) = a ++ dropQuoted t := by
  induction a with
  | nil => rfl
  | cons x a ih =>
    obtain ⟨hx, ha⟩ := List.forall_mem_cons.mp ha
    rw [List.cons_append, dropQuoted_char hx, ih ha, List.cons_append]

lemma dropQuoted_string {q : Char} {r : Text} (hq : isQuote q) (h : afterString? q t = some r) :
    dropQuoted (q :: t) = emptyString ++ dropQuoted r := by
  obtain ⟨b, hb, rfl⟩ := stringBody_of_afterString? h
  rw [dropQuoted, quoteTokens, scan_string false hq hb]
  rfl

lemma dropQuoted_unclosed {q : Char} (hq : isQuote q) (h : afterString? q t = none) :
    dropQuoted (q :: t) = [] := by
  rw [dropQuoted, quoteTokens, scan_unclosed false hq h]
  rfl

lemma blankStrings_closed {q : Char} {r : Text} (hq : isQuote q) (h : afterString? q t = some r) :
    blankStrings (q :: t) = emptyString ++ blankStrings r := by
  obtain ⟨b, hb, rfl⟩ := stringBody_of_afterString? h
  exact blankStrings_string hq hb r

lemma blankStrings_unclosed {q : Char} (h : afterString? q t = none) :
    blankStrings (q :: t) = q :: blankStrings t := by
  rw [blankStrings.eq_2]
  split
  · split
    · simp_all
    · rfl
  · rfl

/-- **The two ways agree just where every string closes.** -/
theorem dropQuoted_eq_blankStrings_iff (t : Text) :
    dropQuoted t = blankStrings t ↔ ∀ k ∈ quoteTokens t, ¬ k.IsUnclosed := by
  unfold quoteTokens
  fun_induction scan false t with
  | case1 => simp [blankStrings.eq_1]
  | case2 c r hc h =>
    -- the one stops here, the other goes on
    rw [dropQuoted_unclosed hc h, blankStrings_unclosed h]
    simp [Token.IsUnclosed]
  | case3 c r hc r' h ih =>
    rw [dropQuoted_string hc h, blankStrings_closed hc h, List.append_cancel_left_eq, ih]
    simp [Token.IsUnclosed]
  | case4 c r _ h => simp at h
  | case5 c r hc _ ih =>
    rw [dropQuoted_char hc, blankStrings_char hc, List.cons_inj_right, ih]
    simp [Token.IsUnclosed]

/-- Behind a quote whose string does not close, a string is blanked or dropped. -/
example : blankStrings "a'b\"c\"".toList = "a'b\"\"".toList ∧
    dropQuoted "a'b\"c\"".toList = "a".toList := by cbv

end ClassPurge.Css
