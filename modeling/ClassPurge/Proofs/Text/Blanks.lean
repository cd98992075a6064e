import ClassPurge.Proofs.Text.Parts
import ClassPurge.Text.Blank
import ClassPurge.Text.Word

/-!
Blank characters one by one, and the words between them.
-/

namespace ClassPurge

namespace Ranges

/-- No range of the one overlaps a range of the other. -/
def apart (rs bs : Ranges) : Bool := rs.all fun r => bs.all fun b => r.2.blt b.1 || b.2.blt r.1

lemma not_has_of_apart {rs bs : Ranges} (h : rs.apart bs) {n : Nat} (hn : bs.has n) :
    ¬ rs.has n := by
  intro hn'
  obtain ⟨b, hb, hin⟩ := List.any_eq_true.mp hn
  obtain ⟨r, hr, hin'⟩ := List.any_eq_true.mp hn'
  have hapart := List.all_eq_true.mp (List.all_eq_true.mp h r hr) b hb
  simp only [Bool.and_eq_true, decide_eq_true_eq] at hin hin'
  simp only [Bool.or_eq_true, Nat.blt_eq] at hapart
  omega

end Ranges

namespace Text

/-- All blank characters. -/
def blanks : Text :=
  blankRanges.flatMap fun r => (List.range' r.1 (r.2 + 1 - r.1)).map Char.ofNat

lemma mem_blanks {x : Char} (h : isBlank x) : x ∈ blanks := by
  obtain ⟨r, hr, hx⟩ := List.any_eq_true.mp h
  simp only [Bool.and_eq_true, decide_eq_true_eq] at hx
  have hrange : x.toNat ∈ List.range' r.1 (r.2 + 1 - r.1) := List.mem_range'_1.mpr (by omega)
  exact List.mem_flatMap.mpr ⟨r, hr, List.mem_map.mpr ⟨_, hrange, Char.ofNat_toNat x⟩⟩

lemma not_isBlank_of_kind {p : Char → Bool} (hp : Avoids p blanks) {x : Char} (h : p x) :
    ¬ isBlank x := fun hx => hp x (mem_blanks hx) h

lemma not_isBlank_of_isName {x : Char} (h : isName x) : ¬ isBlank x := by
  have hapart : wordRanges.apart blankRanges := by decide +kernel
  have hascii : Avoids (fun x => x.isAlphanum || x == '_') blanks := by decide +kernel
  intro hx
  rw [isName, isWord, Bool.or_eq_true] at h
  rcases h with h | h
  · split at h
    · exact hascii x (mem_blanks hx) h
    · exact Ranges.not_has_of_apart hapart hx h
  · obtain rfl : x = '-' := by simpa using h
    exact absurd hx (by decide)

/-! ### Words -/

lemma isInfix_of_mem_words {w t : Text} (h : w ∈ words t) : w <:+: t :=
  isInfix_of_mem_splitOn (List.mem_filter.mp h).1

lemma noBlank_of_mem_words {w t : Text} (h : w ∈ words t) : Avoids isBlank w :=
  avoids_of_mem_splitOn (List.mem_filter.mp h).1

end Text

end ClassPurge
