import ClassPurge.Text.Basic

/-!
Texts in the order of their code points, and finite sets of texts kept in that order. A set has
one form, so two sets with the same members are equal.
-/

namespace ClassPurge

namespace Text

/-- Whether the first text comes strictly before the second. -/
def before : Text → Text → Bool
  | _, [] => false
  | [], _ :: _ => true
  | a :: s, b :: t => if a = b then before s t else a.toNat < b.toNat

theorem before_irrefl (t : Text) : before t t = false := by
  induction t with
  | nil => rfl
  | cons a s ih => simp [before, ih]

theorem before_trans {s t u : Text} (h : before s t) (h' : before t u) : before s u := by
  induction s generalizing t u with
  | nil =>
    cases t with
    | nil => simp [before] at h
    | cons b t => cases u <;> simp_all [before]
  | cons a s ih =>
    cases t with
    | nil => simp [before] at h
    | cons b t =>
      cases u with
      | nil => simp [before] at h'
      | cons c u =>
        simp only [before] at h h' ⊢
        split at h
        · subst a
          split at h'
          · subst b
            simpa using ih h h'
          · rename_i hne
            simpa [hne] using h'
        · split at h'
          · subst b
            rename_i hne
            simpa [hne] using h
          · have hlt : a.toNat < c.toNat := by
              simp only [decide_eq_true_eq] at h h'
              omega
            have hne : a ≠ c := fun e => by simp [e] at hlt
            simpa [hne] using hlt

theorem before_or_before_of_ne {s t : Text} (h : s ≠ t) : before s t ∨ before t s := by
  induction s generalizing t with
  | nil =>
    cases t with
    | nil => exact absurd rfl h
    | cons b t => simp [before]
  | cons a s ih =>
    cases t with
    | nil => simp [before]
    | cons b t =>
      by_cases hab : a = b
      · subst a
        have := ih (t := t) fun e => h (by rw [e])
        simpa [before] using this
      · have hn : a.toNat ≠ b.toNat := fun e => hab (Char.toNat_inj.mp e)
        simp only [before, hab, Ne.symm hab, if_false, decide_eq_true_eq]
        omega

/-- Puts a text into a list in increasing order, unless it is there. -/
def insertOrdered (t : Text) : List Text → List Text
  | [] => [t]
  | u :: us =>
    if t = u then u :: us else if before t u then t :: u :: us else u :: insertOrdered t us

@[simp] theorem mem_insertOrdered {s t : Text} {us : List Text} :
    s ∈ insertOrdered t us ↔ s = t ∨ s ∈ us := by
  induction us with
  | nil => simp [insertOrdered]
  | cons u us ih =>
    unfold insertOrdered
    split
    · subst t; simp
    · split
      · simp
      · simp only [List.mem_cons, ih]
        constructor <;> (intro h; rcases h with h | h | h <;> simp [h])

theorem pairwise_insertOrdered {t : Text} {us : List Text}
    (h : us.Pairwise fun a b => before a b) :
    (insertOrdered t us).Pairwise fun a b => before a b := by
  induction us with
  | nil => simp [insertOrdered]
  | cons u us ih =>
    obtain ⟨hu, hus⟩ := List.pairwise_cons.mp h
    unfold insertOrdered
    split
    · exact h
    · rename_i hne
      split
      · rename_i hb
        refine List.pairwise_cons.mpr ⟨fun a ha => ?_, h⟩
        rcases List.mem_cons.mp ha with rfl | ha
        · exact hb
        · exact before_trans hb (hu a ha)
      · rename_i hb
        refine List.pairwise_cons.mpr ⟨fun a ha => ?_, ih hus⟩
        rcases mem_insertOrdered.mp ha with rfl | ha
        · exact (before_or_before_of_ne hne).resolve_left hb
        · exact hu a ha

end Text

/-- A finite set of texts. -/
structure TextSet where
  /-- The members, in increasing order. -/
  toList : List Text
  ordered : toList.Pairwise fun a b => Text.before a b

namespace TextSet

def empty : TextSet := ⟨[], .nil⟩

instance : Membership Text TextSet := ⟨fun s t => t ∈ s.toList⟩

theorem mem_iff {s : TextSet} {t : Text} : t ∈ s ↔ t ∈ s.toList := Iff.rfl

def contains (s : TextSet) (t : Text) : Bool := s.toList.contains t

def size (s : TextSet) : Nat := s.toList.length

def insert (s : TextSet) (t : Text) : TextSet :=
  ⟨Text.insertOrdered t s.toList, Text.pairwise_insertOrdered s.ordered⟩

/-- The set with every text of the list put in. -/
def insertAll (s : TextSet) (ts : List Text) : TextSet := ts.foldl insert s

def ofList (ts : List Text) : TextSet := empty.insertAll ts

@[simp] theorem not_mem_empty (t : Text) : t ∉ empty := List.not_mem_nil

@[simp] theorem contains_iff {s : TextSet} {t : Text} : s.contains t = true ↔ t ∈ s := by
  simp [contains, mem_iff]

@[simp] theorem mem_insert {s : TextSet} {t u : Text} : u ∈ s.insert t ↔ u = t ∨ u ∈ s :=
  Text.mem_insertOrdered

@[simp] theorem mem_insertAll {s : TextSet} {ts : List Text} {u : Text} :
    u ∈ s.insertAll ts ↔ u ∈ ts ∨ u ∈ s := by
  induction ts generalizing s with
  | nil => simp [insertAll]
  | cons t ts ih =>
    have := ih (s := s.insert t)
    simp only [insertAll, List.foldl_cons] at this ⊢
    rw [this, mem_insert, List.mem_cons, or_left_comm, ← or_assoc]

@[simp] theorem mem_ofList {ts : List Text} {u : Text} : u ∈ ofList ts ↔ u ∈ ts := by
  simp [ofList]

end TextSet

end ClassPurge
