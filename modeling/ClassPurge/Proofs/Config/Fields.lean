import ClassPurge.Config.Basic
import Mathlib.Tactic.Common

/-!
A configuration field by field. A section is a configuration exactly if each field, looked at
alone, is one; what a field is depends on the section only through the first of its names that is
there.
-/

namespace ClassPurge

namespace Config

open Check Extract

/-- The fields of a configuration. -/
inductive Field
  | enabled
  | content
  | safelist
  | blocklist
  | keepKeyframes
  | keepFontFace
  | keepCustomProperties
  | extractors
  | ignore
  deriving DecidableEq, Repr

namespace Field

/-- The names that a section may use for the field. The first that is there counts. -/
def names : Field → List String
  | enabled => ["enabled"]
  | content => ["content"]
  | safelist => ["safelist"]
  | blocklist => ["blocklist"]
  | keepKeyframes => ["keyframes", "keep_keyframes"]
  | keepFontFace => ["fontFace", "keep_font_face"]
  | keepCustomProperties => ["variables", "keep_custom_properties"]
  | extractors => ["extractors"]
  | ignore => ["ignore"]

/-- Two configurations have the same value in the field. -/
def Same (c d : Config) : Field → Prop
  | enabled => c.enabled = d.enabled
  | content => c.content = d.content
  | safelist => c.safelist = d.safelist
  | blocklist => c.blocklist = d.blocklist
  | keepKeyframes => c.keepKeyframes = d.keepKeyframes
  | keepFontFace => c.keepFontFace = d.keepFontFace
  | keepCustomProperties => c.keepCustomProperties = d.keepCustomProperties
  | extractors => c.extractors = d.extractors
  | ignore => c.ignore = d.ignore

/-- The section gives the field the value that it has in `c`. -/
def Gives (catalogue : Catalogue) (fields : List (Document × Document)) (c : Config) :
    Field → Prop
  | enabled => flag fields (names enabled) = .ok c.enabled
  | content => texts fields "content" [] = .ok c.content
  | safelist => matchers fields "safelist" = .ok (.ok c.safelist)
  | blocklist => matchers fields "blocklist" = .ok (.ok c.blocklist)
  | keepKeyframes => flag fields (names keepKeyframes) = .ok c.keepKeyframes
  | keepFontFace => flag fields (names keepFontFace) = .ok c.keepFontFace
  | keepCustomProperties => flag fields (names keepCustomProperties) = .ok c.keepCustomProperties
  | extractors => extractorsOf catalogue fields = .ok (.ok c.extractors)
  | ignore => texts fields "ignore" defaultIgnore = .ok c.ignore

end Field

variable {catalogue : Catalogue} {fields others : List (Document × Document)} {c d : Config}
  {f : Field}

/-! ### Field by field -/

/-- **A section is a configuration exactly if each field is that of one.** -/
lemma ofFields_eq_ok_iff :
    ofFields catalogue fields = .ok c ↔ ∀ f : Field, f.Gives catalogue fields c := by
  constructor
  · intro h
    rw [ofFields] at h
    cases hs : matchers fields "safelist" with
    | error k => rw [hs] at h; cases h
    | ok s =>
    cases hb : matchers fields "blocklist" with
    | error k => rw [hs, hb] at h; cases h
    | ok b =>
    cases hx : extractorsOf catalogue fields with
    | error k => rw [hs, hb, hx] at h; cases h
    | ok x =>
    rw [hs, hb, hx] at h
    dsimp only [bind, Except.bind, pure, Except.pure] at h
    split at h
    · rename_i he ht hk ha hp hi
      cases h
      intro f
      cases f with
      | enabled => exact he
      | content => exact ht
      | safelist => exact hs
      | blocklist => exact hb
      | keepKeyframes => exact hk
      | keepFontFace => exact ha
      | keepCustomProperties => exact hp
      | extractors => exact hx
      | ignore => exact hi
    · cases h
  · intro h
    have he : flag fields ["enabled"] = _ := h .enabled
    have ht : texts fields "content" [] = _ := h .content
    have hs : matchers fields "safelist" = _ := h .safelist
    have hb : matchers fields "blocklist" = _ := h .blocklist
    have hk : flag fields ["keyframes", "keep_keyframes"] = _ := h .keepKeyframes
    have ha : flag fields ["fontFace", "keep_font_face"] = _ := h .keepFontFace
    have hp : flag fields ["variables", "keep_custom_properties"] = _ := h .keepCustomProperties
    have hx : extractorsOf catalogue fields = _ := h .extractors
    have hi : texts fields "ignore" defaultIgnore = _ := h .ignore
    rw [ofFields, he, ht, hs, hb, hk, ha, hp, hx, hi]
    rfl

namespace Field

/-- A field goes by the first of its names that is there. -/
lemma gives_congr (h : valueOf? fields f.names = valueOf? others f.names) :
    f.Gives catalogue fields c ↔ f.Gives catalogue others c := by
  cases f <;>
    simp only [names] at h <;>
    simp only [Gives, names, flag, texts, matchers, extractorsOf, h]

lemma gives_of_same (hc : f.Gives catalogue fields c) (h : f.Same c d) :
    f.Gives catalogue fields d := by
  cases f <;> exact hc.trans (by rw [show _ = _ from h])

lemma Gives.same (hc : f.Gives catalogue fields c) (hd : f.Gives catalogue fields d) :
    f.Same c d := by
  cases f <;> simpa [Same] using hc.symm.trans hd

end Field

end Config

end ClassPurge
