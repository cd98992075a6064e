import ClassPurge.Proofs.OutputClasses
import ClassPurge.Proofs.Retention
import Mathlib.Logic.Relation

/-!
The blocklist and nested rules. A rule is judged by its own selector and stays as a whole: none of
the rules that stay has a blocked class in its selector, but the rules in their blocks are not
judged, and a blocked class that one of these has is a class of the output.
-/

namespace ClassPurge

open Css (Rule parseRules selectorClasses classNames)

namespace Css

/-- Style rules, with style rules in their blocks down to `room` levels. -/
def StylesWithin : Nat → Text → Prop
  | 0, css => AllStyles css ∧ ∀ r ∈ parseRules css, r.nested = false
  | room + 1, css =>
    AllStyles css ∧ ∀ r ∈ parseRules css, r.nested = true → StylesWithin room r.body

instance decidableStylesWithin : (room : Nat) → (css : Text) → Decidable (StylesWithin room css)
  | 0, css => inferInstanceAs (Decidable (AllStyles css ∧ ∀ r ∈ parseRules css, r.nested = false))
  | room + 1, css =>
    have (r : Rule) : Decidable (StylesWithin room r.body) := decidableStylesWithin room r.body
    inferInstanceAs (Decidable
      (AllStyles css ∧ ∀ r ∈ parseRules css, r.nested = true → StylesWithin room r.body))

/-- The rule `q` stands in the block of `r`, with no other rule around it there. -/
def Rule.Encloses (r q : Rule) : Prop := r.nested = true ∧ q ∈ parseRules r.body

lemma StylesWithin.allStyles {room : Nat} {css : Text} (h : StylesWithin room css) :
    AllStyles css := by
  cases room with
  | zero => exact h.1
  | succ room => exact h.1

lemma nested_of_transGen {r q : Rule} (h : Relation.TransGen Rule.Encloses r q) :
    r.nested = true := by
  obtain ⟨p, hp, -⟩ := Relation.TransGen.head'_iff.mp h
  exact hp.1

/-- The classes inside a rule are those of the rules in its block, of the rules in their blocks, and
so on. -/
lemma mem_innerClasses {room : Nat} {css : Text} (h : StylesWithin room css) {r : Rule}
    (hr : r ∈ parseRules css) {w : Text} : w ∈ innerClasses room r ↔
      ∃ q, Relation.TransGen Rule.Encloses r q ∧ w ∈ selectorClasses q.selector := by
  induction room generalizing css r with
  | zero =>
    refine iff_of_false List.not_mem_nil ?_
    rintro ⟨q, hq, -⟩
    have hn := h.2 r hr
    rw [nested_of_transGen hq] at hn
    cases hn
  | succ room ih =>
    cases hn : r.nested with
    | false =>
      refine iff_of_false (by simp [innerClasses, hn]) ?_
      rintro ⟨q, hq, -⟩
      rw [nested_of_transGen hq] at hn
      cases hn
    | true =>
      have hbody : StylesWithin room r.body := h.2 r hr hn
      have hlevel : w ∈ classNamesWithin room r.body ↔ ∃ p ∈ parseRules r.body,
          w ∈ selectorClasses p.selector ∨ w ∈ innerClasses room p :=
        mem_classNamesWithin hbody.allStyles.rules
          (looseClasses_of_void (allBlank_tokens hbody.allStyles.tail).void)
      rw [innerClasses, hn, if_pos rfl, hlevel]
      constructor
      · rintro ⟨p, hp, hw | hw⟩
        · exact ⟨p, .single ⟨hn, hp⟩, hw⟩
        · obtain ⟨q, hq, hw⟩ := (ih hbody hp).mp hw
          exact ⟨q, .head ⟨hn, hp⟩ hq, hw⟩
      · rintro ⟨q, hq, hw⟩
        obtain ⟨p, ⟨-, hp⟩, hpq⟩ := Relation.TransGen.head'_iff.mp hq
        refine ⟨p, hp, ?_⟩
        rcases Relation.reflTransGen_iff_eq_or_transGen.mp hpq with rfl | hpq
        · exact .inl hw
        · exact .inr ((ih hbody hp).mpr ⟨q, hpq, hw⟩)

end Css

open Css Purge

/-- **A blocked class is in the output only inside a rule that stays.** No rule of the output has
one in its own selector. -/
theorem blocked_inside {c : Config} {used : TextSet} {css : Text} (hon : c.enabled = true)
    (hcss : StylesWithin nestingLimit css) (hfree : CommentFree css) :
    (∀ r ∈ parseRules (c.purge used css), ∀ w ∈ selectorClasses r.selector,
      c.isBlocked w = false) ∧
    ∀ w, c.isBlocked w = true → (w ∈ classNames (c.purge used css) ↔
      ∃ r ∈ kept c used (parseRules css), ∃ q, Relation.TransGen Rule.Encloses r q ∧
        w ∈ selectorClasses q.selector) := by
  have hstyles := hcss.allStyles
  have hrew : ∀ r ∈ kept c used (parseRules css), Rewritable css r := fun r hr =>
    rewritable_of_commentFree hfree (mem_kept hr).1 (mem_kept hr).2
      (by simp [(hstyles.rules r (mem_kept hr).1).style])
  have hclear : ∀ r ∈ kept c used (parseRules css), ∀ w ∈ selectorClasses r.selector,
      c.isBlocked w = false := by
    intro r hr w hw
    have hstays := (Config.keeps_style_iff (hstyles.rules r (mem_kept hr).1).style).mp
      (keeps_of_mem_kept hr)
    rw [← Bool.not_eq_true]
    exact fun hblocked => hstays.1 (.inl ⟨w, hw, hblocked⟩)
  refine ⟨fun r' hr' w hw => ?_, fun w hblocked => ?_⟩
  · obtain ⟨r, hr, hsame⟩ := exists_of_forall₂ (forall₂_sameClasses hon hstyles hrew).1.flip hr'
    rw [hsame.selector] at hw
    exact hclear r hr w hw
  · rw [mem_classNames_output hon hstyles hrew]
    refine exists_congr fun r => and_congr_right fun hr => ?_
    rw [mem_innerClasses hcss (mem_kept hr).1, or_iff_right]
    intro hw
    rw [hclear r hr w hw] at hblocked
    cases hblocked

def blocksB : Config := { Config.default with blocklist := [.exact ['b']] }

/-- The rule of `b` goes; those inside the rule of `a` stay with it. -/
theorem blocked_inside_used :
    let css : Text := ".a{.c{.b{}}}.b{}".toList
    let used : TextSet := TextSet.ofList [['a'], ['b']]
    let outer : Rule := ⟨['.', 'a'], ".c{.b{}}".toList, 0, 12, true, true⟩
    StylesWithin nestingLimit css ∧ CommentFree css ∧ blocksB.isBlocked ['b'] = true ∧
      Purge.kept blocksB used (parseRules css) = [outer] ∧
      (∀ r ∈ parseRules (blocksB.purge used css), ∀ w ∈ selectorClasses r.selector,
        blocksB.isBlocked w = false) ∧
      ['b'] ∈ classNames (blocksB.purge used css) := by
  intro css used outer
  let middle : Rule := ⟨['.', 'c'], ".b{}".toList, 0, 8, true, true⟩
  let inner : Rule := ⟨['.', 'b'], [], 0, 4, true, false⟩
  have hcss : StylesWithin nestingLimit css := by decide +kernel
  have hfree : CommentFree css := by decide +kernel
  have hblocked : blocksB.isBlocked ['b'] = true := by decide +kernel
  have hkept : Purge.kept blocksB used (parseRules css) = [outer] := by decide +kernel
  have houter : Rule.Encloses outer middle := ⟨rfl, by decide +kernel⟩
  have hmiddle : Rule.Encloses middle inner := ⟨rfl, by decide +kernel⟩
  have hon : blocksB.enabled = true := rfl
  obtain ⟨hclear, hinside⟩ := @blocked_inside blocksB used css hon hcss hfree
  refine ⟨hcss, hfree, hblocked, hkept, hclear, (hinside _ hblocked).mpr ?_⟩
  exact ⟨outer, by simp [hkept], inner, .tail (.single houter) hmiddle, by decide +kernel⟩

/-- **The blocklist does not reach into a rule that stays.** The class `b` is blocked and is a class
of the output. -/
theorem blocked_nested_stays :
    let css : Text := ".a{.b{}}".toList
    StylesWithin nestingLimit css ∧ CommentFree css ∧ blocksB.enabled = true ∧
      blocksB.isBlocked ['b'] = true ∧
      ['b'] ∈ classNames (blocksB.purge (TextSet.ofList [['a']]) css) := by
  decide +kernel

end ClassPurge
