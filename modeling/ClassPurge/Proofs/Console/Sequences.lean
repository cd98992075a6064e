import ClassPurge.Console.Ansi
import ClassPurge.Proofs.Text.Digits
import Mathlib.Data.List.Infix
import Mathlib.Data.List.TakeWhile

/-!
What is left of a text where there is no terminal. Sequences are dropped wherever they stand, and
nothing else is; so a text is left as it is exactly if no sequence stands in it.
-/

namespace ClassPurge.Console

/-- An escape character and a bracket, parameters, and the letter that ends them. -/
inductive IsSequence : Text → Prop
  | mk {ps : Text} {c : Char} (hps : ∀ p ∈ ps, isParameter p = true) (hc : c.isAlpha = true) :
    IsSequence ('\x1b' :: '[' :: (ps ++ [c]))

/-- No sequence stands in the text. -/
def SequenceFree (t : Text) : Prop := ∀ s, IsSequence s → ¬ s <:+: t

variable {s t : Text} {c : Char}

lemma not_isParameter_of_isAlpha (h : c.isAlpha = true) : isParameter c = false := by
  refine Bool.eq_false_iff.mpr fun hparam => ?_
  simp only [isParameter, Bool.or_eq_true, beq_iff_eq] at hparam
  rcases hparam with (rfl | rfl) | hdigit
  · exact absurd h (by decide)
  · exact absurd h (by decide)
  · exact not_isDigit_of_isAlpha h hdigit

lemma IsSequence.sequenceLength (h : IsSequence s) (r : Text) :
    sequenceLength (s ++ r) = s.length := by
  obtain ⟨hps, hc⟩ := h
  rename_i ps c
  have hrun : (ps ++ c :: r).takeWhile isParameter = ps := by
    rw [List.takeWhile_append_of_pos hps,
      List.takeWhile_cons_of_neg (by simp [not_isParameter_of_isAlpha hc]), List.append_nil]
  simp [Console.sequenceLength, hrun, hc]

lemma exists_isSequence (h : sequenceLength t ≠ 0) : ∃ s, IsSequence s ∧ s <+: t := by
  rw [sequenceLength.eq_def] at h
  split at h
  · rename_i r
    dsimp only at h
    split at h
    · rename_i c rest hrest
      split at h
      · rename_i hc
        have hr : r.takeWhile isParameter ++ c :: rest = r := by
          rw [← hrest]
          exact List.prefix_iff_eq_append.mp (List.takeWhile_prefix _)
        exact ⟨'\x1b' :: '[' :: (r.takeWhile isParameter ++ [c]),
          .mk (fun _ hp => List.mem_takeWhile_imp hp) hc, rest, by simp [hr]⟩
      · exact absurd rfl h
    · exact absurd rfl h
  · exact absurd rfl h

lemma sequenceLength_eq_zero_iff :
    sequenceLength t = 0 ↔ ∀ s, IsSequence s → ¬ s <+: t := by
  constructor
  · rintro h s hs ⟨r, rfl⟩
    rw [hs.sequenceLength, List.length_eq_zero_iff] at h
    cases hs
    cases h
  · intro h
    by_contra hlen
    obtain ⟨s, hs, hpre⟩ := exists_isSequence hlen
    exact h s hs hpre

lemma sequenceFree_cons_iff :
    SequenceFree (c :: t) ↔ sequenceLength (c :: t) = 0 ∧ SequenceFree t := by
  simp only [SequenceFree, sequenceLength_eq_zero_iff, List.infix_cons_iff, not_or, imp_and,
    forall_and]

/-- A sequence begins with an escape character. -/
lemma sequenceFree_of_not_mem (h : '\x1b' ∉ t) : SequenceFree t := by
  rintro _ ⟨-, -⟩ hwithin
  exact h (hwithin.subset List.mem_cons_self)

/-! ### What is dropped -/

lemma dropSequencesFrom_eq (n : Nat) (t : Text) :
    dropSequencesFrom n t = dropSequences (t.drop n) := by
  induction t generalizing n with
  | nil => simp [dropSequences, dropSequencesFrom]
  | cons c t ih =>
    cases n with
    | zero => rfl
    | succ n =>
      rw [dropSequencesFrom]
      exact ih n

lemma IsSequence.dropSequences_append (hs : IsSequence s) (r : Text) :
    dropSequences (s ++ r) = dropSequences r := by
  have hlen := hs.sequenceLength r
  cases s with
  | nil => cases hs
  | cons c s =>
    rw [List.cons_append, List.length_cons] at hlen
    rw [dropSequences, List.cons_append, dropSequencesFrom, hlen]
    dsimp only
    rw [dropSequencesFrom_eq, List.drop_left]

lemma dropSequences_cons (h : sequenceLength (c :: t) = 0) :
    dropSequences (c :: t) = c :: dropSequences t := by
  rw [dropSequences, dropSequencesFrom, h]
  rfl

lemma length_dropSequences_le (t : Text) : (dropSequences t).length ≤ t.length := by
  have hfrom (n : Nat) : (dropSequencesFrom n t).length ≤ t.length := by
    induction t generalizing n with
    | nil => simp [dropSequencesFrom]
    | cons c t ih =>
      unfold dropSequencesFrom
      split
      · exact (ih _).trans (Nat.le_succ _)
      · split
        · simpa using ih 0
        · exact (ih _).trans (Nat.le_succ _)
  exact hfrom 0

/-- **A text is left as it is exactly if no sequence stands in it.** -/
theorem dropSequences_eq_self_iff : dropSequences t = t ↔ SequenceFree t := by
  induction t with
  | nil => exact iff_of_true rfl (sequenceFree_of_not_mem List.not_mem_nil)
  | cons c t ih =>
    rw [sequenceFree_cons_iff, ← ih]
    by_cases hlen : sequenceLength (c :: t) = 0
    · simp [dropSequences_cons hlen, hlen]
    · refine iff_of_false (fun heq => ?_) fun h => hlen h.1
      obtain ⟨s, hs, r, hr⟩ := exists_isSequence hlen
      -- What is left after the sequence is shorter than the text.
      have hshort := length_dropSequences_le r
      rw [← hs.dropSequences_append, hr, heq, ← hr, List.length_append] at hshort
      obtain rfl : s = [] := List.length_eq_zero_iff.mp (by omega)
      cases hs

end ClassPurge.Console
