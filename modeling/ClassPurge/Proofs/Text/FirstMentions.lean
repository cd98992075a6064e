import Mathlib.Tactic.Common

/-!
Lists with their repetitions left out, in the order of first mention. Leaving them out in a part
first does not change what is left of the whole.
-/

namespace ClassPurge

variable {α : Type} [BEq α]

/-- An induction that leaves out the repetitions of the first element at each step, as
`List.eraseDups` does. -/
lemma eraseDups_induction {P : List α → Prop} (nil : P [])
    (cons : ∀ x l, P (l.filter fun y => !y == x) → P (x :: l)) : ∀ l, P l
  | [] => nil
  | x :: l => cons x l (eraseDups_induction nil cons _)
  termination_by l => l.length
  decreasing_by
    have := List.length_filter_le (fun y => !y == x) l
    simp only [List.length_cons]
    omega

variable [LawfulBEq α]

lemma eraseDups_filter (p : α → Bool) (l : List α) :
    (l.filter p).eraseDups = l.eraseDups.filter p := by
  induction l using eraseDups_induction with
  | nil => rfl
  | cons x l ih =>
    rw [List.eraseDups_cons, List.filter_cons, List.filter_cons]
    split
    · rw [List.eraseDups_cons, ← ih, List.filter_filter, List.filter_filter]
      simp only [Bool.and_comm]
    · rename_i hx
      have hsame : l.filter p = (l.filter fun y => !y == x).filter p := by
        rw [List.filter_filter]
        refine List.filter_congr fun y _ => ?_
        by_cases hy : y = x
        · subst hy
          simp [hx]
        · simp [hy]
      rw [hsame, ih]

lemma eraseDups_eraseDups (l : List α) : l.eraseDups.eraseDups = l.eraseDups := by
  induction l using eraseDups_induction with
  | nil => rfl
  | cons x l ih =>
    rw [List.eraseDups_cons, List.eraseDups_cons, ← eraseDups_filter, List.filter_filter]
    simpa using ih

lemma nodup_eraseDups (l : List α) : l.eraseDups.Nodup := by
  induction l using eraseDups_induction with
  | nil => simp
  | cons x l ih =>
    rw [List.eraseDups_cons, List.nodup_cons]
    refine ⟨fun hx => ?_, ih⟩
    rw [List.mem_eraseDups, List.mem_filter] at hx
    simp at hx

/-- What is mentioned later stands behind what is mentioned before. -/
lemma isPrefix_eraseDups (a b : List α) : a.eraseDups <+: (a ++ b).eraseDups := by
  rw [List.eraseDups_append]
  exact List.prefix_append _ _

/-- Where something is first mentioned, there it stands. -/
lemma eraseDups_append_cons {a : List α} {x : α} (h : x ∉ a) (b : List α) :
    ∃ c, (a ++ x :: b).eraseDups = a.eraseDups ++ x :: c := by
  have hnew : (x :: b).removeAll a = x :: b.removeAll a := by
    rw [List.removeAll, List.removeAll, List.filter_cons_of_pos (by simpa using h)]
  rw [List.eraseDups_append, hnew, List.eraseDups_cons]
  exact ⟨_, rfl⟩

lemma eraseDups_append_congr {a a' b b' : List α} (ha : a.eraseDups = a'.eraseDups)
    (hb : b.eraseDups = b'.eraseDups) : (a ++ b).eraseDups = (a' ++ b').eraseDups := by
  have hmem : ∀ x, x ∈ a ↔ x ∈ a' := fun x => by
    rw [← List.mem_eraseDups, ha, List.mem_eraseDups]
  have hremove : b.eraseDups.filter (fun x => !a.elem x) =
      b'.eraseDups.filter (fun x => !a'.elem x) := by
    rw [hb]
    exact List.filter_congr fun x _ => by simp [hmem x]
  rw [List.eraseDups_append, List.eraseDups_append, List.removeAll, List.removeAll,
    eraseDups_filter, eraseDups_filter, ha, hremove]

end ClassPurge
