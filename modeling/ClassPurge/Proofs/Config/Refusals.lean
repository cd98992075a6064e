import ClassPurge.Proofs.Config.Fields

/-!
What is said of a section that is no configuration. If none of its fields breaks off the reading,
a refused section is told with all that is wrong, each thing in one of the fields.
-/

namespace ClassPurge

namespace Config

open Check Extract

/-! ### Refusals -/

/-- If the value is refused, something is said to be wrong, and all of it in a field that goes by
one of the names. -/
def Tells {α : Type} (ns : List String) (c : Checked α) : Prop :=
  ∀ is, c = .error is → is ≠ [] ∧ ∀ i ∈ is, ∃ n ∈ ns, i.loc.head? = some n

section

variable {α β : Type} {ns loc : List String} {n : String} {d : Document}

lemma tells_ok (ns : List String) (a : α) : Tells ns (.ok a : Checked α) := fun _ h => by cases h

lemma tells_error {is : List Issue} (hne : is ≠ [])
    (h : ∀ i ∈ is, ∃ n ∈ ns, i.loc.head? = some n) : Tells ns (.error is : Checked α) := by
  intro _ heq
  cases heq
  exact ⟨hne, h⟩

lemma Tells.issues {c : Checked α} (h : Tells ns c) :
    (issues c = [] ↔ ∃ a, c = .ok a) ∧ ∀ i ∈ issues c, ∃ n ∈ ns, i.loc.head? = some n := by
  cases c with
  | ok a => exact ⟨⟨fun _ => ⟨a, rfl⟩, fun _ => rfl⟩, by simp [Check.issues]⟩
  | error is =>
    obtain ⟨hne, hloc⟩ := h is rfl
    refine ⟨⟨fun h => absurd h hne, ?_⟩, hloc⟩
    rintro ⟨_, ⟨⟩⟩

lemma Tells.map {c : Checked α} (h : Tells ns c) (f : α → β) : Tells ns (c.map f) := by
  cases c with
  | ok a => exact tells_ok ns _
  | error is => exact tells_error (h is rfl).1 (h is rfl).2

lemma Tells.apply {f : Checked (α → β)} {a : Checked α} (hf : Tells ns f) (ha : Tells ns a) :
    Tells ns (apply f a) := by
  have hsaid : ∀ i ∈ Check.issues f ++ Check.issues a, ∃ n ∈ ns, i.loc.head? = some n :=
    List.forall_mem_append.mpr ⟨hf.issues.2, ha.issues.2⟩
  cases f with
  | error is => exact tells_error (fun h => (hf is rfl).1 (List.append_eq_nil_iff.mp h).1) hsaid
  | ok g =>
    cases a with
    | error is => exact tells_error (fun h => (ha is rfl).1 (List.append_eq_nil_iff.mp h).2) hsaid
    | ok b => exact tells_ok ns _

variable {fields : List (Document × Document)} {catalogue : Catalogue}

end

/-! ### Sections that are refused -/

/-- What is wrong lies in a field. -/
def Located (i : Issue) : Prop := ∃ f : Field, ∃ n ∈ f.names, i.loc.head? = some n

variable {catalogue : Catalogue} {fields : List (Document × Document)}

end Config

end ClassPurge
