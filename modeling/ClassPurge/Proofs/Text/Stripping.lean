import ClassPurge.Text.Blank
import Mathlib.Data.List.DropRight
import Mathlib.Data.List.TakeWhile

/-!
Blanks at the ends of a text do not count when it is stripped, and a text with none is stripped
already.
-/

namespace ClassPurge.Text

def AllBlank (t : Text) : Prop := ∀ x ∈ t, isBlank x

instance (t : Text) : Decidable (AllBlank t) := List.decidableBAll _ t

/-- Neither the first character nor the last is blank. -/
def Trimmed (t : Text) : Prop := (∀ x ∈ t.head?, ¬ isBlank x) ∧ ∀ x ∈ t.getLast?, ¬ isBlank x

instance (t : Text) : Decidable (Trimmed t) :=
  have (o : Option Char) : Decidable (∀ x ∈ o, ¬ isBlank x) := Option.decidableForallMem o
  inferInstanceAs (Decidable (_ ∧ _))

lemma stripStart_of_head {t : Text} (h : ∀ x ∈ t.head?, ¬ isBlank x) : stripStart t = t := by
  cases t with
  | nil => rfl
  | cons x t =>
    have hx : ¬ isBlank x := h x rfl
    simp [stripStart, hx]

lemma stripEnd_of_getLast {t : Text} (h : ∀ x ∈ t.getLast?, ¬ isBlank x) : stripEnd t = t := by
  have hr : stripStart t.reverse = t.reverse := stripStart_of_head (by simpa using h)
  rw [stripEnd, ← stripStart, hr, List.reverse_reverse]

lemma strip_of_trimmed {t : Text} (h : Trimmed t) : strip t = t := by
  rw [strip, stripStart_of_head h.1, stripEnd_of_getLast h.2]

lemma stripStart_blank_append {a : Text} (ha : AllBlank a) (t : Text) :
    stripStart (a ++ t) = stripStart t := List.dropWhile_append_of_pos ha

lemma strip_blank_append {a : Text} (ha : AllBlank a) (t : Text) : strip (a ++ t) = strip t := by
  rw [strip, stripStart_blank_append ha, ← strip]

lemma allBlank_reverse {t : Text} : AllBlank t.reverse ↔ AllBlank t := by
  simp [AllBlank]

lemma strip_append_blank {b : Text} (hb : AllBlank b) (t : Text) : strip (t ++ b) = strip t := by
  have hend (u : Text) : stripEnd (u ++ b) = stripEnd u := by
    rw [stripEnd, List.reverse_append, List.dropWhile_append_of_pos (allBlank_reverse.mpr hb),
      ← stripEnd]
  rw [strip, stripStart, List.dropWhile_append, ← stripStart, ← stripStart]
  split
  · rename_i h
    rw [List.isEmpty_iff] at h
    have hnil : stripStart b = [] := List.dropWhile_eq_nil_iff.mpr hb
    rw [strip, h, hnil]
  · rw [hend, strip]

/-- Every list begins with all the elements that count for nothing and that it can begin with. -/
lemma exists_lead {α : Type} (p : α → Bool) (l : List α) :
    ∃ a b, l = a ++ b ∧ (∀ x ∈ a, p x) ∧ ∀ x ∈ b.head?, ¬ p x := by
  refine ⟨l.takeWhile p, l.dropWhile p, List.takeWhile_append_dropWhile.symm,
    fun x => List.mem_takeWhile_imp, fun x hx => ?_⟩
  have h := List.head?_dropWhile_not p l
  rw [Option.mem_def.mp hx] at h
  simpa using h

/-- What is neither at the beginning of a list nor at its end among the elements that count for
nothing. -/
lemma exists_trim {α : Type} (p : α → Bool) (l : List α) :
    ∃ a m b, l = a ++ (m ++ b) ∧ (∀ x ∈ a, p x) ∧ (∀ x ∈ b, p x) ∧
      (∀ x ∈ m.head?, ¬ p x) ∧ ∀ x ∈ m.getLast?, ¬ p x := by
  obtain ⟨a, t, rfl, ha, ht⟩ := exists_lead p l
  refine ⟨a, t.rdropWhile p, t.rtakeWhile p, ?_, ha, fun x => List.mem_rtakeWhile_imp,
    fun x hx => ht x ?_, fun x hx => ?_⟩
  · rw [List.rdropWhile_append_rtakeWhile]
  · obtain ⟨b, hb⟩ := List.rdropWhile_prefix p t
    rw [← hb, List.head?_append, Option.mem_def.mp hx]
    rfl
  · obtain ⟨hne, rfl⟩ := List.mem_getLast?_eq_getLast hx
    exact List.rdropWhile_last_not p _ hne

lemma exists_tail (t : Text) : ∃ a b, t = a ++ b ∧ AllBlank b ∧ ∀ x ∈ a.getLast?, ¬ isBlank x := by
  obtain ⟨b, a, hcut, hb, ha⟩ := exists_lead isBlank t.reverse
  refine ⟨a.reverse, b.reverse, ?_, allBlank_reverse.mpr hb, by simpa using ha⟩
  rw [← List.reverse_append, ← hcut, List.reverse_reverse]

lemma head?_append_cons {c : Char} (hc : ¬ isBlank c) {t : Text}
    (ht : ∀ x ∈ t.head?, ¬ isBlank x) (u : Text) : ∀ x ∈ (t ++ c :: u).head?, ¬ isBlank x := by
  cases t with
  | nil => simpa using hc
  | cons y t => exact ht

lemma getLast?_append_cons {c : Char} (hc : ¬ isBlank c) {u : Text}
    (hu : ∀ x ∈ u.getLast?, ¬ isBlank x) (t : Text) :
    ∀ x ∈ (t ++ c :: u).getLast?, ¬ isBlank x := by
  rw [List.getLast?_append_of_ne_nil _ (List.cons_ne_nil c u), List.getLast?_cons]
  cases h : u.getLast? with
  | none => simpa using hc
  | some y => simpa using hu y h

lemma trimmed_strip (t : Text) : Trimmed (strip t) := by
  obtain ⟨a, m, b, rfl, ha, hb, hm⟩ := exists_trim isBlank t
  rw [strip_blank_append ha, strip_append_blank hb, strip_of_trimmed hm]
  exact hm

lemma strip_isInfix (t : Text) : strip t <:+: t := by
  obtain ⟨a, m, b, rfl, ha, hb, hm⟩ := exists_trim isBlank t
  rw [strip_blank_append ha, strip_append_blank hb, strip_of_trimmed hm]
  exact ⟨a, b, by simp⟩

lemma strip_eq_nil {t : Text} (h : AllBlank t) : strip t = [] := by
  rw [← List.append_nil t, strip_blank_append h, strip_nil]

lemma head?_strip {c : Char} (hc : ¬ isBlank c) (t : Text) : (strip (c :: t)).head? = some c := by
  have hstart : stripStart (c :: t) = c :: t := stripStart_of_head (by simpa using hc)
  have hne : (c :: t).rdropWhile isBlank ≠ [] := fun h =>
    hc (List.rdropWhile_eq_nil_iff.mp h c List.mem_cons_self)
  obtain ⟨b, hb⟩ := List.rdropWhile_prefix isBlank (c :: t)
  rw [strip, hstart]
  change ((c :: t).rdropWhile isBlank).head? = some c
  rw [← List.head?_append_of_ne_nil _ hne, hb, List.head?_cons]

lemma head?_strip_eq (t : Text) : (strip t).head? = (stripStart t).head? := by
  cases h : stripStart t with
  | nil => rw [strip, h]; rfl
  | cons c r =>
    have hc : ¬ isBlank c := by
      have := List.head?_dropWhile_not isBlank t
      rw [← stripStart, h] at this
      simpa using this
    have hstrip : strip t = strip (c :: r) := by
      rw [strip, h, strip, stripStart_of_head (by simpa using hc)]
    rw [hstrip, head?_strip hc, List.head?_cons]

end ClassPurge.Text
