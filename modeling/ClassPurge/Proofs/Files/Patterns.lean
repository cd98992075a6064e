import ClassPurge.Files.Discovery
import ClassPurge.Proofs.Except
import ClassPurge.Proofs.Files.Braces
import ClassPurge.Proofs.Text.Sets

/-!
The files of several patterns. Each pattern finds its files by itself, and the set of what is found
tells neither their order nor which pattern found a file. So lists of patterns that are joined find
the union, a pattern may stand for its expansions, and what is ignored is only taken away at the end.
-/

namespace ClassPurge

namespace TextSet

def union (s u : TextSet) : TextSet := s.insertAll u.toList

def filter (s : TextSet) (p : Text → Bool) : TextSet := ⟨s.toList.filter p, s.ordered.filter p⟩

@[simp] lemma mem_union {s u : TextSet} {w : Text} : w ∈ s.union u ↔ w ∈ s ∨ w ∈ u := by
  rw [union, mem_insertAll, ← mem_iff, or_comm]

@[simp] lemma mem_filter {s : TextSet} {p : Text → Bool} {w : Text} :
    w ∈ s.filter p ↔ w ∈ s ∧ p w = true :=
  List.mem_filter

end TextSet

namespace Files

/-! ### The files of a list of patterns -/

section

variable {t : Tree} {root : Path} {ps qs is js : List Text} {found : TextSet}

/-- Discovery comes to something if each pattern does, and then finds what any of them finds and
nothing ignores. -/
lemma discover_eq_ok : discover t root ps is = .ok found ↔
    (∀ e ∈ ps.flatMap expandBraces, ∃ fs, filesOf t root e = .ok fs) ∧
      ∀ w, w ∈ found ↔ isIgnored is w = false ∧
        ∃ e ∈ ps.flatMap expandBraces, ∃ fs, filesOf t root e = .ok fs ∧ w ∈ fs := by
  rw [← exists_mapM_eq_ok, discover]
  cases hall : (ps.flatMap expandBraces).mapM (filesOf t root) with
  | error e => simp [Except.map]
  | ok fss =>
    have hmem (w : Text) : w ∈ TextSet.ofList (fss.flatten.filter fun p => !isIgnored is p) ↔
        isIgnored is w = false ∧
          ∃ e ∈ ps.flatMap expandBraces, ∃ fs, filesOf t root e = .ok fs ∧ w ∈ fs := by
      rw [TextSet.mem_ofList, List.mem_filter, Bool.not_eq_true', and_comm, List.mem_flatten]
      simp only [mem_of_mapM_eq_ok hall]
      tauto
    constructor
    · intro h
      cases h
      exact ⟨⟨fss, rfl⟩, hmem⟩
    · rintro ⟨-, hfound⟩
      exact congrArg Except.ok (TextSet.ext fun w => (hmem w).trans (hfound w).symm)

lemma isIgnored_append (is js : List Text) (w : Text) :
    isIgnored (is ++ js) w = (isIgnored is w || isIgnored js w) := List.any_append

/-- Joined lists find the union; a pattern of the second list is not looked at if the first fails. -/
lemma discover_append (t : Tree) (root : Path) (ps qs is : List Text) :
    discover t root (ps ++ qs) is = do
      let a ← discover t root ps is
      let b ← discover t root qs is
      return a.union b := by
  rw [discover, discover, discover, List.flatMap_append, List.mapM_append]
  cases (ps.flatMap expandBraces).mapM (filesOf t root) with
  | error e => rfl
  | ok fs =>
    cases (qs.flatMap expandBraces).mapM (filesOf t root) with
    | error e => rfl
    | ok gs =>
      refine congrArg Except.ok (TextSet.ext fun w => ?_)
      simp only [TextSet.mem_union, TextSet.mem_ofList, List.flatten_append, List.filter_append,
        List.mem_append]

/-- The patterns tell what is found, not their order nor how often each is there. -/
lemma discover_congr (h : ∀ p, p ∈ qs ↔ p ∈ ps) :
    discover t root qs is = .ok found ↔ discover t root ps is = .ok found := by
  have hexp (e : Text) : e ∈ qs.flatMap expandBraces ↔ e ∈ ps.flatMap expandBraces := by
    simp only [List.mem_flatMap, h]
  simp only [discover_eq_ok, hexp]

lemma discover_expandBraces (t : Tree) (root : Path) (ps qs is : List Text) (p : Text) :
    discover t root (ps ++ expandBraces p ++ qs) is = discover t root (ps ++ p :: qs) is := by
  have hexp : (expandBraces p).flatMap expandBraces = expandBraces p := by
    rw [List.flatMap_congr fun e he => expandBraces_of_mem he, List.flatMap_singleton']
  simp only [discover, List.flatMap_append, List.flatMap_cons, hexp, List.append_assoc]

lemma discover_ignore (t : Tree) (root : Path) (ps is js : List Text) :
    discover t root ps (is ++ js) =
      (discover t root ps is).map (TextSet.filter · fun w => !isIgnored js w) := by
  rw [discover, discover]
  cases (ps.flatMap expandBraces).mapM (filesOf t root) with
  | error e => rfl
  | ok fs =>
    refine congrArg Except.ok (TextSet.ext fun w => ?_)
    simp only [TextSet.mem_filter, TextSet.mem_ofList, List.mem_filter, isIgnored_append,
      Bool.not_or, Bool.and_eq_true, and_assoc]

end

/-- **Discovery is an operation on sets.** Joined lists of patterns find the union of what each
finds, in increasing order; only which patterns there are makes a difference, and a pattern may be
replaced by its expansions; more to ignore takes away just what it ignores. -/
theorem discover_sets (t : Tree) (root : Path) (ps qs is js : List Text) :
    (discover t root (ps ++ qs) is = do
        let a ← discover t root ps is
        let b ← discover t root qs is
        return a.union b) ∧
      (∀ found, discover t root ps is = .ok found → found.toList.Pairwise (· < ·)) ∧
      (∀ others : List Text, (∀ p, p ∈ others ↔ p ∈ ps) →
        ∀ found, discover t root others is = .ok found ↔ discover t root ps is = .ok found) ∧
      (∀ p, discover t root (ps ++ expandBraces p ++ qs) is =
        discover t root (ps ++ p :: qs) is) ∧
      discover t root ps (is ++ js) =
        (discover t root ps is).map (TextSet.filter · fun w => !isIgnored js w) :=
  ⟨discover_append t root ps qs is, fun found _ => found.pairwise_lt,
    fun _ h _ => discover_congr h, discover_expandBraces t root ps qs is,
    discover_ignore t root ps is js⟩

end Files

end ClassPurge
