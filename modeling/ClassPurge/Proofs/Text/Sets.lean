import ClassPurge.Text.Order
import Mathlib.Data.List.Sort

/-!
Sets of texts by their members. A set is a list in strictly increasing order, that of lists of
characters, so the members tell which list it is, and putting texts in depends neither on their
order nor on their number.
-/

namespace ClassPurge

lemma Text.before_iff_lt {s t : Text} : Text.before s t = true ↔ s < t := by
  induction s generalizing t with
  | nil => cases t <;> simp [Text.before]
  | cons a s ih =>
    cases t with
    | nil => simp [Text.before]
    | cons b t =>
      rw [Text.before, List.cons_lt_cons_iff]
      split
      · subst b
        simp [ih]
      · rename_i hne
        rw [decide_eq_true_iff, or_iff_left fun h => hne h.1]
        exact Iff.rfl

namespace TextSet

variable {s u : TextSet} {ts us : List Text}

instance : Std.Irrefl fun a b : Text => Text.before a b = true :=
  ⟨fun a => by simp [Text.before_irrefl a]⟩

instance : Std.Antisymm fun a b : Text => Text.before a b = true :=
  ⟨fun a b hab hba => absurd (Text.before_trans hab hba) (by simp [Text.before_irrefl a])⟩

lemma pairwise_lt (s : TextSet) : s.toList.Pairwise (· < ·) :=
  s.ordered.imp fun h => Text.before_iff_lt.mp h

/-- **Two sets with the same members are equal.** -/
@[ext] lemma ext (h : ∀ t, t ∈ s ↔ t ∈ u) : s = u := by
  have hlist : s.toList = u.toList := s.ordered.eq_of_mem_iff u.ordered h
  cases s
  cases u
  simpa using hlist

lemma insertAll_congr (h : ∀ t, t ∈ ts ↔ t ∈ us) : s.insertAll ts = s.insertAll us := by
  ext t
  rw [mem_insertAll, mem_insertAll, h t]

lemma insertAll_append : s.insertAll (ts ++ us) = (s.insertAll ts).insertAll us := by
  rw [insertAll, insertAll, insertAll, List.foldl_append]

@[simp] lemma insertAll_nil : s.insertAll [] = s := rfl

end TextSet

end ClassPurge
