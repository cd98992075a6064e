import ClassPurge.Number.Binary64
import ClassPurge.Text.Quoted
import Mathlib.Tactic.Common

/-!
The codes of digits and letters, and the characters with which numbers are written: digits of their
base, and around them signs, points and marks of exponents.
-/

namespace ClassPurge

variable {P : Char → Prop} {n : Nat} {c : Char}

lemma toNat_of_isDigit (h : c.isDigit) : 48 ≤ c.toNat ∧ c.toNat ≤ 57 := Char.isDigit_iff_toNat.mp h

lemma toNat_of_isAlpha (h : c.isAlpha) :
    (65 ≤ c.toNat ∧ c.toNat ≤ 90) ∨ (97 ≤ c.toNat ∧ c.toNat ≤ 122) := by
  change (decide (c.val ≥ 65 ∧ c.val ≤ 90) || (decide (c.val ≥ 97) && decide (c.val ≤ 122))) =
    true at h
  simp only [Bool.or_eq_true, Bool.and_eq_true, decide_eq_true_eq, ge_iff_le,
    UInt32.le_iff_toNat_le] at h
  exact h

lemma not_isDigit_of_isAlpha (h : c.isAlpha) : ¬ c.isDigit := by
  intro hd
  have halpha := toNat_of_isAlpha h
  have hdigit := toNat_of_isDigit hd
  omega

/-! ### Written numbers -/

lemma exists_digitChar_of_mem_toDigits {b : Nat} (hb : 1 < b) (h : c ∈ Nat.toDigits b n) :
    ∃ k < b, c = k.digitChar := by
  induction n using Nat.strongRecOn with
  | ind n ih =>
    rw [Nat.toDigits_eq_if hb] at h
    split at h
    · exact ⟨n, ‹_›, List.mem_singleton.mp h⟩
    · rename_i hn
      rcases List.mem_append.mp h with h | h
      · exact ih _ (Nat.div_lt_self (by omega) hb) h
      · exact ⟨_, Nat.mod_lt n (by omega), List.mem_singleton.mp h⟩

lemma forall_mem_hex (hP : ∀ k < 16, P k.digitChar) (width n : Nat) :
    ∀ c ∈ Text.hex width n, P c := by
  intro c hc
  rcases List.mem_append.mp hc with hc | hc
  · rw [List.eq_of_mem_replicate hc]
    exact hP 0 (by decide)
  · obtain ⟨k, hk, rfl⟩ := exists_digitChar_of_mem_toDigits (by decide) hc
    exact hP k hk

lemma forall_mem_digits (hP : ∀ c : Char, c.isDigit → P c) (n : Nat) :
    ∀ c ∈ Nat.toDigits 10 n, P c :=
  fun c hc => hP c (Nat.isDigit_of_mem_toDigits (by decide) (by decide) hc)

lemma forall_mem_toString_nat (hP : ∀ c : Char, c.isDigit → P c) (n : Nat) :
    ∀ c ∈ (toString n).toList, P c := by
  rw [Nat.toString_eq_ofList_toDigits, String.toList_ofList]
  exact forall_mem_digits hP n

namespace Binary64

end Binary64

end ClassPurge
