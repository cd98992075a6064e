import ClassPurge.Proofs.Css.Hyphens
import ClassPurge.Proofs.Retention

/-!
The three settings that keep a kind of rule. Each is meant for one kind: rules for animation steps,
rules for a font, and rules that declare a custom property. A rule is told by a mark in its text,
though, wherever the mark stands. So each setting takes its own kind away, and besides every rule
that has the mark in another place: the decisions go by the kinds exactly where no rule has.
-/

namespace ClassPurge

open Css (Rule parseRules selectorClasses splitDeclarations)

namespace Css

/-- What a declaration sets: the text before its colon. -/
def propertyName (d : Text) : Text := d.takeWhile (· != ':')

/-- Letters, digits and hyphens. -/
def isKeywordPart (c : Char) : Bool := Text.isName c && c != '_'

/-- The `@` that a selector begins with, and the letters, digits and hyphens after it. -/
def atKeyword : Text → Text
  | '@' :: t => '@' :: t.takeWhile isKeywordPart
  | _ => []

end Css

namespace Config

/-- Some declaration of the rule is one of a custom property. -/
def declaresCustomProperty (r : Rule) : Bool :=
  (splitDeclarations r.body).any fun d => customPropertyMark.isPrefixOf (Css.propertyName d)

/-- The kinds of rules that a setting can drop. -/
inductive Kind
  | keyframes
  | fontFace
  | customProperties
  deriving DecidableEq, Repr

namespace Kind

def isKept (c : Config) : Kind → Bool
  | keyframes => c.keepKeyframes
  | fontFace => c.keepFontFace
  | customProperties => c.keepCustomProperties

/-- The rule is of the kind. -/
def Has (r : Rule) : Kind → Prop
  | keyframes => r.isAt = true ∧ Css.atKeyword r.selector = keyframesMark
  | fontFace => r.isAt = true ∧ Css.atKeyword r.selector = fontFaceMark
  | customProperties =>
    r.isAt = false ∧ r.nested = false ∧ declaresCustomProperty r = true

instance (r : Rule) : (k : Kind) → Decidable (k.Has r)
  | keyframes | fontFace | customProperties => inferInstanceAs (Decidable (_ ∧ _))

/-- The rule has the mark of the kind in its text. -/
def isMarked (r : Rule) : Kind → Bool
  | keyframes => r.isAt && Text.hasPiece keyframesMark r.selector
  | fontFace => r.isAt && Text.hasPiece fontFaceMark r.selector
  | customProperties => !r.isAt && mentionsCustomProperty r

end Kind

/-- The settings differ at most in the kinds that they keep. -/
def SameButKinds (c d : Config) : Prop :=
  d = { c with
    keepKeyframes := d.keepKeyframes
    keepFontFace := d.keepFontFace
    keepCustomProperties := d.keepCustomProperties }

/-- The rule has the mark of a kind only if it is of that kind. -/
structure OwnMarks (r : Rule) : Prop where
  keyframes : r.isAt = true → Text.hasPiece keyframesMark r.selector = true →
    Css.atKeyword r.selector = keyframesMark
  fontFace : r.isAt = true → Text.hasPiece fontFaceMark r.selector = true →
    Css.atKeyword r.selector = fontFaceMark
  /-- A style rule that declares no custom property has no two hyphens side by side: not in its
  selector, not where its body follows the selector, and not in a declaration. -/
  customProperties : r.isAt = false → ¬ (r.nested = false ∧ declaresCustomProperty r = true) →
    Text.hasPiece customPropertyMark r.selector = false ∧
      (r.selector.getLast? = some '-' → r.body.head? ≠ some '-') ∧
      ∀ d ∈ splitDeclarations r.body, Text.hasPiece customPropertyMark d = false

section

variable {c d : Config} {used : TextSet} {r : Rule}

/-! ### What a setting takes away -/

/-- A rule stays if it would with all kinds kept, and has the mark of none that is dropped. -/
lemma keeps_iff_marks : c.keeps used r = true ↔
    (r.isAt = true ∨ c.keepsClasses used (selectorClasses r.selector) = true) ∧
      ∀ k : Kind, k.isMarked r = true → k.isKept c = true := by
  have hkinds : (∀ k : Kind, k.isMarked r = true → k.isKept c = true) ↔
      (Kind.keyframes.isMarked r = true → c.keepKeyframes = true) ∧
      (Kind.fontFace.isMarked r = true → c.keepFontFace = true) ∧
      (Kind.customProperties.isMarked r = true → c.keepCustomProperties = true) := by
    refine ⟨fun h => ⟨h .keyframes, h .fontFace, h .customProperties⟩, fun ⟨hk, hf, hp⟩ k => ?_⟩
    cases k with
    | keyframes => exact hk
    | fontFace => exact hf
    | customProperties => exact hp
  rw [hkinds, keeps]
  cases hat : r.isAt with
  | true =>
    simp only [Kind.isMarked, hat, keepsAt]
    cases c.keepKeyframes <;> cases c.keepFontFace <;> simp
  | false =>
    simp only [Kind.isMarked, hat]
    cases c.keepCustomProperties <;> cases mentionsCustomProperty r <;> simp

/-- A rule that stays goes with other kinds kept exactly if it has the mark of one that is not. -/
lemma SameButKinds.keeps_eq_false_iff (h : SameButKinds c d) (hc : c.keeps used r = true) :
    d.keeps used r = false ↔ ∃ k : Kind, k.isKept d = false ∧ k.isMarked r = true := by
  have hclasses : d.keepsClasses used (selectorClasses r.selector) =
      c.keepsClasses used (selectorClasses r.selector) := by
    rw [h]
    rfl
  rw [← Bool.not_eq_true, keeps_iff_marks, hclasses,
    and_iff_right (keeps_iff_marks.mp hc).1, not_forall]
  refine exists_congr fun k => ?_
  rw [Classical.not_imp, Bool.not_eq_true, and_comm]

/-! ### Marks and kinds -/

lemma atKeyword_isPrefix (selector : Text) : Css.atKeyword selector <+: selector := by
  unfold Css.atKeyword
  split
  · exact (List.prefix_cons_inj _).mpr (List.takeWhile_prefix _)
  · exact List.nil_prefix

/-- Two hyphens side by side are in the selector, where the body follows it, or in a declaration. -/
lemma mentionsCustomProperty_eq_false_iff : mentionsCustomProperty r = false ↔
    Text.hasPiece customPropertyMark r.selector = false ∧
      (r.selector.getLast? = some '-' → r.body.head? ≠ some '-') ∧
      ∀ d ∈ splitDeclarations r.body, Text.hasPiece customPropertyMark d = false := by
  simp only [mentionsCustomProperty, ← Css.singleHyphens_iff]
  rw [Css.singleHyphens_append, Css.singleHyphens_body r.body]
  exact and_congr_right fun _ => and_comm

lemma mentionsCustomProperty_of_declares (h : declaresCustomProperty r = true) :
    mentionsCustomProperty r = true := by
  rw [declaresCustomProperty, List.any_eq_true] at h
  obtain ⟨d, hd, hname⟩ := h
  have hmark : customPropertyMark <:+: d :=
    ((List.isPrefixOf_iff_prefix.mp hname).trans (List.takeWhile_prefix _)).isInfix
  by_contra hno
  rw [Bool.not_eq_true, mentionsCustomProperty_eq_false_iff] at hno
  have hfree := hno.2.2 d hd
  rw [Text.hasPiece_iff.mpr hmark] at hfree
  cases hfree

lemma Kind.Has.isMarked {k : Kind} (h : k.Has r) : k.isMarked r = true := by
  cases k with
  | keyframes =>
    rw [Kind.isMarked, h.1, Bool.true_and, Text.hasPiece_iff, ← h.2]
    exact (atKeyword_isPrefix _).isInfix
  | fontFace =>
    rw [Kind.isMarked, h.1, Bool.true_and, Text.hasPiece_iff, ← h.2]
    exact (atKeyword_isPrefix _).isInfix
  | customProperties =>
    rw [Kind.isMarked, h.1, mentionsCustomProperty_of_declares h.2.2]
    rfl

lemma ownMarks_iff : OwnMarks r ↔ ∀ k : Kind, k.isMarked r = true → k.Has r := by
  constructor
  · intro h k hk
    cases k with
    | keyframes =>
      obtain ⟨hat, hmark⟩ := Bool.and_eq_true_iff.mp hk
      exact ⟨hat, h.keyframes hat hmark⟩
    | fontFace =>
      obtain ⟨hat, hmark⟩ := Bool.and_eq_true_iff.mp hk
      exact ⟨hat, h.fontFace hat hmark⟩
    | customProperties =>
      obtain ⟨hat, hmark⟩ := Bool.and_eq_true_iff.mp hk
      rw [Bool.not_eq_true'] at hat
      refine ⟨hat, ?_⟩
      by_contra hno
      rw [mentionsCustomProperty_eq_false_iff.mpr (h.customProperties hat hno)] at hmark
      cases hmark
  · intro h
    refine ⟨fun hat hmark => ?_, fun hat hmark => ?_, fun hat hno => ?_⟩
    · exact (h .keyframes (by rw [Kind.isMarked, hat, hmark]; rfl)).2
    · exact (h .fontFace (by rw [Kind.isMarked, hat, hmark]; rfl)).2
    · rw [← mentionsCustomProperty_eq_false_iff, ← Bool.not_eq_true]
      intro hmark
      exact hno (h .customProperties (by rw [Kind.isMarked, hat, hmark]; rfl)).2

end

/-- The settings that keep all kinds but one, and are else those of no settings file. -/
def dropping : Kind → Config
  | .keyframes => { Config.default with keepKeyframes := false }
  | .fontFace => { Config.default with keepFontFace := false }
  | .customProperties => { Config.default with keepCustomProperties := false }

lemma isKept_dropping {k l : Kind} : l.isKept (dropping k) = false ↔ l = k := by
  cases k <;> cases l <;> simp [Kind.isKept, dropping, Config.default]

lemma sameButKinds_dropping (k : Kind) : SameButKinds Config.default (dropping k) := by
  cases k <;> rfl

lemma keeps_default (r : Rule) :
    Config.default.keeps (TextSet.ofList (selectorClasses r.selector)) r = true := by
  refine keeps_iff_marks.mpr ⟨.inr ?_, fun k _ => by cases k <;> rfl⟩
  rw [keepsClasses, Bool.or_eq_true, Bool.and_eq_true]
  cases hcs : selectorClasses r.selector with
  | nil => exact .inl rfl
  | cons w ws =>
    refine .inr ⟨by simp [isBlocked, Config.default], List.any_eq_true.mpr ⟨w, by simp, ?_⟩⟩
    exact isWanted_iff.mpr (.inl (by simp))

/-- **The settings go by the kinds of rules exactly where no rule has the mark of another kind.**
Then a rule that stays goes with other settings exactly if it is of a kind that these do not keep. -/
theorem keeps_by_kind_iff (r : Rule) :
    (∀ c d used, SameButKinds c d → c.keeps used r = true →
      (d.keeps used r = false ↔ ∃ k : Kind, k.isKept d = false ∧ k.Has r)) ↔ OwnMarks r := by
  rw [ownMarks_iff]
  constructor
  · intro h k hk
    -- Where only the kind `k` is dropped the mark takes the rule away, so it is of that kind.
    have hsame := sameButKinds_dropping k
    have hgone := (hsame.keeps_eq_false_iff (keeps_default r)).mpr ⟨k, isKept_dropping.mpr rfl, hk⟩
    obtain ⟨l, hl, hhas⟩ := (h _ _ _ hsame (keeps_default r)).mp hgone
    rwa [← isKept_dropping.mp hl]
  · intro h c d used hsame hc
    rw [hsame.keeps_eq_false_iff hc]
    exact exists_congr fun k => and_congr_right fun _ => ⟨h k, Kind.Has.isMarked⟩

/-- **A mark elsewhere takes a rule of no kind away**: hyphens in the name of a class or in a value,
or a keyword in parentheses. -/
theorem marks_elsewhere_go :
    let css : Text :=
      (".btn--primary\x7bcolor:red\x7d.a\x7bcolor:var(--x)\x7d" ++
        "@supports at-rule(@font-face)\x7bp\x7b\x7d\x7d").toList
    let used : TextSet := TextSet.ofList ["btn--primary".toList, ['a']]
    (∀ k : Kind, ∀ r ∈ parseRules css, ¬ k.Has r) ∧
      (parseRules css).map (Config.default.keeps used) = [true, true, true] ∧
      (parseRules css).map ((dropping .customProperties).keeps used) = [false, false, true] ∧
      (parseRules css).map ((dropping .fontFace).keeps used) = [true, true, false] := by
  intro css used
  have hrules : parseRules css =
      [⟨".btn--primary".toList, "color:red".toList, 0, 24, true, false⟩,
        ⟨".a".toList, "color:var(--x)".toList, 24, 42, true, false⟩,
        ⟨"@supports at-rule(@font-face)".toList, "p{}".toList, 42, 76, true, true⟩] := by
    decide +kernel
  rw [hrules]
  refine ⟨fun k => ?_, by decide +kernel, by decide +kernel, by decide +kernel⟩
  cases k <;> decide +kernel

end Config

end ClassPurge
