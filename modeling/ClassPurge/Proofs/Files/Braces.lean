import ClassPurge.Files.Braces
import ClassPurge.Proofs.Text.Parts
import Mathlib.Data.List.Basic

/-!
The expansion of braces, one group at a time. The first group is the one that ends first, so it has
no braces inside. Replacing it leaves a text with fewer opening braces: expansion ends, and leaves
no group.
-/

namespace ClassPurge.Files

def isBrace (c : Char) : Bool := c == '{' || c == '}'

/-- An opening brace and a closing one with no brace between them. -/
def HasGroup (t : Text) : Prop := ∃ h a b, t = h ++ '{' :: (a ++ '}' :: b) ∧ Avoids isBrace a

/-- Expanding `t` asks for expanding `u`: the first group is replaced by one of its alternatives. -/
def Asks (u t : Text) : Prop :=
  ∃ h a b, firstGroup? t = some (h, a, b) ∧ ∃ w ∈ alternatives a, u = h ++ w ++ b

/-! ### The first group -/

section

variable {h a b t u w : Text}

lemma not_mem_of_avoids (ha : Avoids isBrace a) : '{' ∉ a ∧ '}' ∉ a :=
  ⟨fun hmem => ha _ hmem rfl, fun hmem => ha _ hmem rfl⟩

lemma group?_eq_some : group? t = some (a, b) ↔ t = '{' :: (a ++ '}' :: b) ∧ Avoids isBrace a := by
  constructor
  · intro hg
    unfold group? at hg
    split at hg
    · rename_i r
      split at hg
      · rename_i x d y hcut
        split at hg
        · rename_i hd
          cases hg
          obtain rfl := beq_iff_eq.mp hd
          exact ⟨congrArg _ (Text.eq_of_cut? hcut).2, Text.not_marked_of_cut? hcut⟩
        · cases hg
      · cases hg
    · cases hg
  · rintro ⟨rfl, ha⟩
    have hcut : Text.cut? isBrace (a ++ '}' :: b) = some (a, '}', b) := Text.cut?_append ha rfl b
    unfold isBrace at hcut
    rw [group?, hcut]
    rfl

/-- The first group is the one that ends first. -/
lemma firstGroup?_append (hh : '}' ∉ h) (ha : Avoids isBrace a) :
    firstGroup? (h ++ '{' :: (a ++ '}' :: b)) = some (h, a, b) := by
  induction h with
  | nil =>
    rw [List.nil_append, firstGroup?, group?_eq_some.mpr ⟨rfl, ha⟩]
  | cons c h ih =>
    have hnone : group? (c :: (h ++ '{' :: (a ++ '}' :: b))) = none := by
      refine Option.eq_none_iff_forall_ne_some.mpr fun ⟨a', b'⟩ hg => ?_
      obtain ⟨hlist, ha'⟩ := group?_eq_some.mp hg
      -- The inside of such a group would reach past the brace that opens the next one.
      rcases List.append_eq_append_iff.mp (List.cons.inj hlist).2 with
        ⟨x, rfl, hx⟩ | ⟨x, rfl, hx⟩
      · cases x with
        | nil => exact absurd (List.cons.inj hx).1 (by decide)
        | cons d x =>
          obtain ⟨rfl, -⟩ := List.cons.inj hx
          exact (not_mem_of_avoids ha').1 (by simp)
      · cases x with
        | nil => exact absurd (List.cons.inj hx).1 (by decide)
        | cons d x =>
          obtain ⟨rfl, -⟩ := List.cons.inj hx
          exact hh (by simp)
    rw [List.cons_append, firstGroup?, hnone, ih fun hmem => hh (List.mem_cons_of_mem c hmem)]
    rfl

lemma eq_of_firstGroup? (hg : firstGroup? t = some (h, a, b)) :
    t = h ++ '{' :: (a ++ '}' :: b) ∧ Avoids isBrace a := by
  induction t generalizing h with
  | nil => cases hg
  | cons c t ih =>
    rw [firstGroup?] at hg
    split at hg
    · rename_i a' b' hgroup
      cases hg
      exact group?_eq_some.mp hgroup
    · obtain ⟨⟨h', a', b'⟩, hrest, he⟩ := Option.map_eq_some_iff.mp hg
      cases he
      obtain ⟨rfl, ha⟩ := ih hrest
      exact ⟨rfl, ha⟩

lemma firstGroup?_eq_none : firstGroup? t = none ↔ ¬ HasGroup t := by
  constructor
  · rintro hnone ⟨h, a, b, rfl, ha⟩
    induction h with
    | nil =>
      rw [List.nil_append, firstGroup?, group?_eq_some.mpr ⟨rfl, ha⟩] at hnone
      cases hnone
    | cons c h ih =>
      rw [List.cons_append, firstGroup?] at hnone
      split at hnone
      · cases hnone
      · exact ih (Option.map_eq_none_iff.mp hnone)
  · intro hfree
    refine Option.eq_none_iff_forall_ne_some.mpr fun ⟨h, a, b⟩ hg => hfree ?_
    obtain ⟨ht, ha⟩ := eq_of_firstGroup? hg
    exact ⟨h, a, b, ht, ha⟩

/-! ### Expansion ends -/

lemma mem_alternatives (hw : w ∈ alternatives a) : w <:+: a := Text.isInfix_of_mem_splitOn hw

lemma count_of_asks (hu : Asks u t) : t.count '{' = u.count '{' + 1 := by
  obtain ⟨h, a, b, hg, w, hw, rfl⟩ := hu
  obtain ⟨rfl, ha⟩ := eq_of_firstGroup? hg
  have hnone : '{' ∉ a := (not_mem_of_avoids ha).1
  have hnone' : '{' ∉ w := fun hmem => hnone ((mem_alternatives hw).mem hmem)
  simp only [List.count_append, List.count_cons, beq_iff_eq, List.count_eq_zero_of_not_mem hnone,
    List.count_eq_zero_of_not_mem hnone']
  simp
  omega

/-- **Expansion ends.** What it asks for has fewer opening braces. -/
lemma wellFounded_asks : WellFounded Asks := by
  refine Subrelation.wf (fun {u t} hu => ?_) (measure fun t : Text => t.count '{').wf
  change u.count '{' < t.count '{'
  rw [count_of_asks hu]
  exact Nat.lt_succ_self _

lemma expandBraces_of_none (hg : firstGroup? t = none) : expandBraces t = [t] := by
  rw [expandBraces]
  cases t.count '{' with
  | zero => rfl
  | succ n => rw [expandWithin, hg]

lemma expandBraces_of_avoids (hw : Avoids isBrace w) : expandBraces w = [w] := by
  refine expandBraces_of_none (firstGroup?_eq_none.mpr ?_)
  rintro ⟨h, a, b, rfl, -⟩
  exact (not_mem_of_avoids hw).1 (by simp)

lemma expandBraces_of_some (hg : firstGroup? t = some (h, a, b)) :
    expandBraces t = (alternatives a).flatMap fun w => expandBraces (h ++ w ++ b) := by
  have hcount : ∀ w ∈ alternatives a, t.count '{' = (h ++ w ++ b).count '{' + 1 := fun w hw =>
    count_of_asks ⟨h, a, b, hg, w, hw, rfl⟩
  obtain ⟨w, hw⟩ := List.exists_mem_of_ne_nil _ (Text.splitOn_ne_nil (· == ',') a)
  rw [expandBraces, hcount w hw, expandWithin, hg]
  refine List.flatMap_congr fun v hv => ?_
  rw [expandBraces]
  congr 1
  have := hcount w hw
  have := hcount v hv
  omega

lemma not_hasGroup_of_mem (hu : u ∈ expandBraces t) : ¬ HasGroup u := by
  induction t using wellFounded_asks.induction with
  | _ t ih =>
    cases hg : firstGroup? t with
    | none =>
      rw [expandBraces_of_none hg, List.mem_singleton] at hu
      exact hu ▸ firstGroup?_eq_none.mp hg
    | some g =>
      obtain ⟨h, a, b⟩ := g
      rw [expandBraces_of_some hg, List.mem_flatMap] at hu
      obtain ⟨w, hw, hu⟩ := hu
      exact ih _ ⟨h, a, b, hg, w, hw, rfl⟩ hu

lemma expandBraces_of_mem (hu : u ∈ expandBraces t) : expandBraces u = [u] :=
  expandBraces_of_none (firstGroup?_eq_none.mpr (not_hasGroup_of_mem hu))

end

end ClassPurge.Files
