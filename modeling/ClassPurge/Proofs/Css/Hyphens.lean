import ClassPurge.Proofs.Css.Relaying
import ClassPurge.Retention

/-!
Hyphens that stand side by side. A body has them exactly if one of its declarations has them: the
declarations are cut off at semicolons and stripped of blanks, and neither of these is a hyphen.
-/

namespace ClassPurge.Css

/-- No two hyphens stand side by side. -/
def SingleHyphens (t : Text) : Prop := t.IsChain fun x y => x = '-' → y ≠ '-'

lemma SingleHyphens.append {t u : Text} (ht : SingleHyphens t) (hu : SingleHyphens u)
    (h : t.getLast? = some '-' → u.head? ≠ some '-') : SingleHyphens (t ++ u) := by
  refine List.isChain_append.mpr ⟨ht, hu, ?_⟩
  rintro x hx y hy rfl rfl
  exact h hx hy

lemma singleHyphens_append {t u : Text} : SingleHyphens (t ++ u) ↔
    SingleHyphens t ∧ SingleHyphens u ∧ (t.getLast? = some '-' → u.head? ≠ some '-') := by
  refine ⟨fun h => ?_, fun ⟨ht, hu, h⟩ => ht.append hu h⟩
  obtain ⟨ht, hu, hseam⟩ := List.isChain_append.mp h
  exact ⟨ht, hu, fun hx hy => hseam _ hx _ hy rfl rfl⟩

lemma singleHyphens_iff {t : Text} :
    SingleHyphens t ↔ Text.hasPiece Config.customPropertyMark t = false := by
  induction t with
  | nil => simp [SingleHyphens, Text.hasPiece, Config.customPropertyMark]
  | cons x t ih =>
    rw [Text.hasPiece, Bool.or_eq_false_iff, ← ih, SingleHyphens, List.isChain_cons]
    refine and_congr ?_ Iff.rfl
    rw [← Bool.not_eq_true, List.isPrefixOf_iff_prefix, Config.customPropertyMark,
      List.cons_prefix_cons, List.singleton_prefix_iff_head?_eq_some, not_and]
    constructor
    · rintro h rfl ht
      exact h _ ht rfl rfl
    · rintro h y hy rfl rfl
      exact h rfl hy

/-! ### Bodies -/

lemma singleHyphens_of_not_mem {t : Text} (h : '-' ∉ t) : SingleHyphens t := by
  refine List.Pairwise.isChain (List.pairwise_of_forall_mem_list fun x hx y hy => ?_)
  rintro rfl
  exact absurd hx h

lemma not_mem_of_allBlank {t : Text} (h : Text.AllBlank t) : '-' ∉ t :=
  fun hm => absurd (h _ hm) (by decide)

/-- Stripping takes no hyphens away, and brings none together. -/
lemma singleHyphens_strip {t : Text} : SingleHyphens t.strip ↔ SingleHyphens t := by
  refine ⟨fun h => ?_, fun h => List.IsChain.infix h (Text.strip_isInfix t)⟩
  obtain ⟨a, m, b, rfl, ha, hb, hm⟩ := Text.exists_trim Text.isBlank t
  rw [Text.strip_blank_append ha, Text.strip_append_blank hb, Text.strip_of_trimmed hm] at h
  have ha' := not_mem_of_allBlank ha
  have hb' := not_mem_of_allBlank hb
  refine (singleHyphens_of_not_mem ha').append (h.append (singleHyphens_of_not_mem hb') ?_) ?_
  · exact fun _ hx => hb' (List.mem_of_mem_head? hx)
  · exact fun hx _ => ha' (List.mem_of_mem_getLast? hx)

lemma singleHyphens_join {us : List Text} :
    SingleHyphens (Text.join [';'] us) ↔ ∀ u ∈ us, SingleHyphens u := by
  induction us with
  | nil => simp [Text.join, SingleHyphens]
  | cons u us ih =>
    cases us with
    | nil => simp [Text.join]
    | cons v us =>
      rw [Text.join.eq_3 _ _ _ (by simp), singleHyphens_append, singleHyphens_append, ih,
        List.forall_mem_cons]
      simp [SingleHyphens]

/-- A body has hyphens side by side exactly if one of its declarations has. -/
lemma singleHyphens_body (body : Text) :
    SingleHyphens body ↔ ∀ d ∈ splitDeclarations body, SingleHyphens d := by
  conv_lhs => rw [← spell_quoteTokens body, ← join_piecesAt 0, singleHyphens_join]
  simp only [splitDeclarations, List.mem_filter, List.mem_map, and_imp, forall_exists_index,
    forall_apply_eq_imp_iff₂, singleHyphens_strip]
  refine forall₂_congr fun p _ => ⟨fun h _ => h, fun h => ?_⟩
  cases he : (spell p).strip with
  | nil =>
    rw [← singleHyphens_strip, he]
    exact .nil
  | cons x t => exact h (by simp [he])

end ClassPurge.Css
