import ClassPurge.Css.Offsets
import ClassPurge.Proofs.Css.Lexing
import ClassPurge.Proofs.Text.Parts

/-!
What a loop over offsets sees is the next token of the text from there on.
-/

namespace ClassPurge.Css

variable {t : Text} {i j : Nat}

/-! ### Places in a text -/

lemma drop_cons {c : Char} (h : t[i]? = some c) : t.drop i = c :: t.drop (i + 1) := by
  obtain ⟨hi, rfl⟩ := List.getElem?_eq_some_iff.mp h
  exact List.drop_eq_getElem_cons hi

lemma lt_of_getElem? {c : Char} (h : t[i]? = some c) : i < t.length :=
  (List.getElem?_eq_some_iff.mp h).1

lemma drop_offsetOf {r : Text} (h : r <:+ t) : t.drop (offsetOf t r) = r := by
  obtain ⟨a, rfl⟩ := h
  have hlen : offsetOf (a ++ r) r = a.length := by
    rw [offsetOf, List.length_append, Nat.add_sub_cancel]
  rw [hlen, List.drop_left]

lemma offsetOf_le (t r : Text) : offsetOf t r ≤ t.length := Nat.sub_le ..

lemma lt_offsetOf {r : Text} (hi : i ≤ t.length) (h : r.length < (t.drop i).length) :
    i < offsetOf t r := by
  rw [List.length_drop] at h
  rw [offsetOf]
  omega

lemma slice_append_drop (hij : i ≤ j) : t.slice i j ++ t.drop j = t.drop i := by
  have hdrop : t.drop j = (t.drop i).drop (j - i) := by
    rw [List.drop_drop]
    congr 1
    omega
  rw [Text.slice_eq, hdrop, List.take_append_drop]

lemma length_slice (hij : i ≤ j) (hj : j ≤ t.length) : (t.slice i j).length = j - i := by
  rw [Text.slice_eq, List.length_take, List.length_drop]
  omega

lemma slice_self (t : Text) (i : Nat) : t.slice i i = [] := by
  rw [Text.slice_eq, Nat.sub_self, List.take_zero]

lemma slice_append_slice {k : Nat} (hij : i ≤ j) (hjk : j ≤ k) :
    t.slice i j ++ t.slice j k = t.slice i k := by
  have h : t.slice i j ++ t.slice j k ++ t.drop k = t.slice i k ++ t.drop k := by
    rw [List.append_assoc, slice_append_drop hjk, slice_append_drop hij,
      slice_append_drop (Nat.le_trans hij hjk)]
  exact List.append_cancel_right h

/-! ### Strings -/

lemma afterString?_nil (q : Char) : afterString? q [] = none := afterString?.eq_1 q

/-- The loop may step over the end of the text, behind a backslash that is the last character. -/
def AtMostBehind (t : Text) (i : Nat) : Prop :=
  i ≤ t.length ∨ i = t.length + 1 ∧ t.getLast? = some '\\'

lemma stringRound_settles (q : Char) (i : Nat) :
    (stringRound t q i).Settles (AtMostBehind t) (t.length + 1 - ·)
      (fun i => (afterString? q (t.drop i)).map (offsetOf t)) i := by
  rw [stringRound]
  split
  · rename_i h
    have hdrop : t.drop i = [] := List.drop_eq_nil_of_le (List.getElem?_eq_none_iff.mp h)
    simp [Round.Settles, hdrop, afterString?_nil]
  rename_i c h
  have hlt := lt_of_getElem? h
  have hdrop := drop_cons h
  by_cases hs : c = '\\'
  · subst hs
    rw [if_pos (by decide)]
    simp only [Round.Settles]
    rcases hn : t[i + 1]? with _ | d
    · -- the backslash is the last character
      have hend : i + 1 = t.length := by
        have := List.getElem?_eq_none_iff.mp hn
        omega
      have hlast : t.getLast? = some '\\' := by
        rw [List.getLast?_eq_getElem?, ← hend, Nat.add_sub_cancel, h]
      have hnil : t.drop (i + 1) = [] := List.drop_eq_nil_of_le (by omega)
      have hnil' : t.drop (i + 2) = [] := List.drop_eq_nil_of_le (by omega)
      refine ⟨.inr ⟨by omega, hlast⟩, by omega, ?_⟩
      rw [hdrop, hnil, hnil', afterString?_nil, afterString?.eq_2]
    · have hlt' := lt_of_getElem? hn
      refine ⟨.inl (by omega), by omega, ?_⟩
      rw [hdrop, drop_cons hn, afterString?.eq_3]
  · rw [if_neg (by simpa using hs)]
    have hstep := afterString?_cons (q := q) hs (t.drop (i + 1))
    by_cases hq : c = q
    · have hoff : offsetOf t (t.drop (i + 1)) = i + 1 := by
        rw [offsetOf, List.length_drop]
        omega
      rw [if_pos (by simpa using hq)]
      simp only [Round.Settles]
      rw [hdrop, hstep, if_pos (by simpa using hq), Option.map_some, hoff]
    · rw [if_neg (by simpa using hq)]
      simp only [Round.Settles]
      refine ⟨.inl hlt, by omega, ?_⟩
      rw [hdrop, hstep, if_neg (by simpa using hq)]

/-- **The loop over a string.** It steps over the end of the text only where the string does not
close. -/
lemma unhindered_stringLoop {q : Char} (hq : t[i]? = some q) {r : Option Nat}
    (hr : stringEndAt? t i = some r) : Unhindered (fun _ => stringLoop t q i)
      (fun j => j ≤ t.length ∨ j = t.length + 1 ∧ t.getLast? = some '\\' ∧ r = none) r := by
  have hlt := lt_of_getElem? hq
  have hans : (afterString? q (t.drop (i + 1))).map (offsetOf t) = r := by
    rw [stringEndAt?, drop_cons hq] at hr
    simpa using hr
  refine unhindered (fun _ i _ => stringRound_settles q i) (fun _ => ⟨.inl hlt, hans⟩) ?_ ?_
  · simp only [stringLoop, budget]
    omega
  · rintro j (hj | ⟨rfl, hlast⟩) ha
    · exact .inl hj
    · refine .inr ⟨rfl, hlast, ?_⟩
      rw [← ha, List.drop_eq_nil_of_le (Nat.le_succ _), afterString?_nil, Option.map_none]

lemma stringLoop_run {q : Char} (hq : t[i]? = some q) (l : Limit) :
    (stringLoop t q i).run l = (afterString? q (t.drop (i + 1))).map (offsetOf t) := by
  refine (unhindered_stringLoop hq ?_).run_eq l
  rw [stringEndAt?, drop_cons hq]

lemma stringEnd_bounds {q : Char} (hq : t[i]? = some q)
    (h : (afterString? q (t.drop (i + 1))).map (offsetOf t) = some j) :
    i < j ∧ j ≤ t.length ∧ afterString? q (t.drop (i + 1)) = some (t.drop j) := by
  obtain ⟨r, hr, rfl⟩ := Option.map_eq_some_iff.mp h
  have hlt := lt_of_getElem? hq
  have hlen := afterString?_length hr
  rw [List.length_drop] at hlen
  refine ⟨?_, offsetOf_le t r, ?_⟩
  · rw [offsetOf]
    omega
  · rw [hr, drop_offsetOf ((afterString?_suffix hr).trans (List.drop_suffix _ _))]

/-! ### The next token -/

/-- The token `k` stands at `i`, and `j` is the offset after it. -/
structure Stands (comments : Bool) (t : Text) (i : Nat) (k : Token) (j : Nat) : Prop where
  lt : i < j
  le : j ≤ t.length
  text : k.text = t.slice i j
  scan : scan comments (t.drop i) = k :: scan comments (t.drop j)

/-- What is seen at an offset is what the text has there. -/
inductive Sees (comments : Bool) (t : Text) (i : Nat) : Sight → Prop
  | nothing (h : t.length ≤ i) : Sees comments t i .nothing
  | unclosed (h : scan comments (t.drop i) = [.unclosed (t.drop i)]) : Sees comments t i .unclosed
  | string {s : Text} {j : Nat} (h : Stands comments t i (.string s) j) : Sees comments t i (.string j)
  | comment {s : Text} {j : Nat} (h : Stands comments t i (.comment s) j) : Sees comments t i (.comment j)
  | char {c : Char} (h : Stands comments t i (.char c) (i + 1)) : Sees comments t i (.char c)

lemma opensComment_iff : opensComment t i = true ↔ ∃ r, t.drop i = '/' :: '*' :: r := by
  rw [opensComment, List.isPrefixOf_iff_prefix]
  constructor
  · rintro ⟨r, hr⟩
    exact ⟨r, hr.symm⟩
  · rintro ⟨r, hr⟩
    exact ⟨r, hr.symm⟩

/-- Where a comment opens it is the next token, the comments being looked for. -/
lemma stands_comment (h : opensComment t i) :
    ∃ s, Stands true t i (.comment s) (commentEndAt t i) := by
  obtain ⟨r, hr⟩ := opensComment_iff.mp h
  have hlt : i < t.length := by
    have := congrArg List.length hr
    simp only [List.length_drop, List.length_cons] at this
    omega
  have hr' : t.drop (i + 2) = r := by
    rw [← List.drop_drop, hr]
    rfl
  have hsuffix : afterComment r <:+ t :=
    (afterComment_suffix r).trans (hr' ▸ List.drop_suffix (i + 2) t)
  have hstop : t.drop (commentEndAt t i) = afterComment r := by
    rw [commentEndAt, hr', drop_offsetOf hsuffix]
  have hle : i < commentEndAt t i := by
    refine lt_offsetOf (Nat.le_of_lt hlt) ?_
    have := afterComment_length r
    rw [hr', hr, List.length_cons, List.length_cons]
    omega
  refine ⟨Text.upTo (t.drop i) (afterComment r), hle, offsetOf_le _ _, ?_, ?_⟩
  · refine (List.append_left_inj (t.drop (commentEndAt t i))).mp ?_
    have hend : afterComment r <:+ t.drop i := by
      rw [hr]
      exact (afterComment_suffix r).trans ⟨['/', '*'], rfl⟩
    rw [slice_append_drop (Nat.le_of_lt hle), hstop, Token.text, Text.upTo_append hend]
  · rw [hstop, hr]
    exact tokens_comment r

lemma stands_char {c : Char} (hc : t[i]? = some c) (hq : ¬ isQuote c) {comments : Bool}
    (ho : comments = true → ¬ opensComment t i) : Stands comments t i (.char c) (i + 1) := by
  have hdrop := drop_cons hc
  refine ⟨Nat.lt_succ_self i, lt_of_getElem? hc, ?_, ?_⟩
  · refine (List.append_left_inj (t.drop (i + 1))).mp ?_
    rw [slice_append_drop (Nat.le_succ i), hdrop]
    rfl
  · rw [hdrop]
    refine scan_char hq fun hcom hslash hstar => ho hcom ?_
    obtain ⟨r, hr⟩ := List.head?_eq_some_iff.mp hstar
    exact opensComment_iff.mpr ⟨r, by rw [hdrop, hslash, hr]⟩

lemma stands_string {q : Char} (hq : t[i]? = some q) (hquote : isQuote q) (comments : Bool)
    (h : (afterString? q (t.drop (i + 1))).map (offsetOf t) = some j) :
    ∃ s, Stands comments t i (.string s) j := by
  obtain ⟨hij, hj, hr⟩ := stringEnd_bounds hq h
  obtain ⟨b, hb, hcut⟩ := stringBody_of_afterString? hr
  refine ⟨q :: (b ++ [q]), hij, hj, ?_, ?_⟩
  · refine (List.append_left_inj (t.drop j)).mp ?_
    rw [slice_append_drop (Nat.le_of_lt hij), drop_cons hq, hcut]
    simp [Token.text]
  · rw [drop_cons hq, hcut, scan_string comments hquote hb]

lemma sees_look (l : Limit) (comments : Bool) (t : Text) (i : Nat) :
    Sees comments t i (look l comments t i) := by
  rw [look]
  split
  · rename_i h
    exact .nothing (List.getElem?_eq_none_iff.mp h)
  rename_i c hc
  by_cases hq : isQuote c
  · rw [if_pos hq, stringLoop_run hc]
    split
    · rename_i h
      have hnone : afterString? c (t.drop (i + 1)) = none := by simpa using h
      refine .unclosed ?_
      rw [drop_cons hc, scan_unclosed comments hq hnone]
    · rename_i h
      obtain ⟨s, hs⟩ := stands_string hc hq comments h
      exact .string hs
  rw [if_neg hq]
  by_cases ho : comments && opensComment t i
  · rw [if_pos ho]
    obtain ⟨rfl, ho⟩ := Bool.and_eq_true_iff.mp ho
    obtain ⟨s, hs⟩ := stands_comment ho
    exact .comment hs
  · rw [if_neg ho]
    refine .char (stands_char hc hq fun hcom hopen => ho ?_)
    rw [hcom, hopen, Bool.and_self]

end ClassPurge.Css
