import ClassPurge.Css.ClassNames
import ClassPurge.Proofs.Css.Seams
import ClassPurge.Proofs.KeptRules

/-!
Selector and body as texts of their own. They are cut out of the stylesheet, their comments are
taken out and they are stripped, and then they are read again where comments mean nothing. Their
strings close there as they did in the stylesheet, and their braces stand as the rule has them. Where
comments are known the same is read, unless taking them out has made a new one: that one can reach
into a string of the rule and leave its last quote open.
-/

namespace ClassPurge.Purge

open Css

/-- The strings of selector and body close, and braces outside them are found only in a nested body,
where they pair up. -/
structure WellBraced (r : Rule) : Prop where
  selector_closed : Closed (quoteTokens r.selector)
  selector_braceFree : BraceFree (quoteTokens r.selector)
  body_closed : Closed (quoteTokens r.body)
  body_flat : r.nested = false → BraceFree (quoteTokens r.body)
  body_nested : r.nested = true → Balanced 0 (quoteTokens r.body) ∧
    .char '{' ∈ quoteTokens r.body ∧ .char '}' ∈ quoteTokens r.body

/-- The rule is the text `prelude` and, in braces, the text `block`, each read to its end. -/
structure IsCut (css : Text) (r : Rule) (prelude block : Text) : Prop where
  source : r.source css = prelude ++ '{' :: (block ++ ['}'])
  selector : r.selector = (stripComments prelude).strip
  body : r.body = (stripComments block).strip
  prelude_closed : Closed (tokens prelude)
  block_closed : Closed (tokens block)

/-! ### Read again -/

section

variable {css : Text} {r : Rule} {p b : List Token}

lemma IsRead.wellBraced (h : IsRead css r p b) : WellBraced r := by
  obtain ⟨hp, hb⟩ := h.block.allSealed
  obtain ⟨m, hm⟩ := exists_leaves hp
  obtain ⟨n, hn⟩ := exists_leaves hb
  have hselector : quoteTokens r.selector = m := by rw [h.selector, selectorOf, hm.text, hm.reread]
  have hbody : quoteTokens r.body = n := by rw [h.body, hn.text, hn.reread]
  have hbalanced : Balanced 0 n := by
    rw [← balanced_essence, hn.essence, balanced_essence]
    exact h.block.balanced
  have hopen : .char '{' ∈ n ↔ .char '{' ∈ b := by
    rw [← mem_essence (by decide), hn.essence, mem_essence (by decide)]
  refine ⟨?_, ?_, ?_, fun hflat => ?_, fun hnested => ?_⟩
  · rw [hselector]
    exact hm.sealed.closed
  · rw [hselector]
    exact fun k hk => h.block.braceFree k (hm.subset hk)
  · rw [hbody]
    exact hn.sealed.closed
  · rw [h.nested, decide_eq_false_iff_not, ← hopen] at hflat
    rw [hbody]
    exact braceFree_of_balanced hbalanced hflat
  · rw [h.nested, decide_eq_true_iff, ← hopen] at hnested
    rw [hbody]
    refine ⟨hbalanced, hnested, List.count_pos_iff.mp ?_⟩
    have hcount := List.count_pos_iff.mpr hnested
    have hpairs := hbalanced.1
    omega

lemma IsRead.solid_prelude (h : IsRead css r p b) : Solid p :=
  h.block.solid.of_isInfix (List.prefix_append _ _).isInfix

lemma IsRead.solid_block (h : IsRead css r p b) : Solid b :=
  h.block.solid.of_isInfix ⟨p ++ [.char '{'], [.char '}'], by simp [Item.tokens]⟩

lemma IsRead.isCut (h : IsRead css r p b) : IsCut css r (spell p) (spell b) := by
  have hp := h.solid_prelude
  have hb := h.solid_block
  refine ⟨?_, ?_, ?_, ?_, ?_⟩
  · simp [h.source, Item.tokens, Token.text]
  · rw [stripComments, hp.tokens_spell, h.selector, selectorOf]
  · rw [stripComments, hb.tokens_spell, h.body]
  · rw [hp.tokens_spell]
    exact hp.closed
  · rw [hb.tokens_spell]
    exact hb.closed

end

/-- **The text of a rule is read again as it was read in the stylesheet**, by every reader to which
comments mean nothing, and its strings close also for one that knows comments if taking them out
has made no new one. -/
theorem wellBraced_of_mem {css : Text} {r : Rule} (hr : r ∈ parseRules css)
    (hb : r.hasBlock = true) : WellBraced r ∧
      (∃ prelude block, IsCut css r prelude block ∧
        (CommentFree r.selector ↔ Apart (dropComments (tokens prelude))) ∧
        (CommentFree r.body ↔ Apart (dropComments (tokens block)))) ∧
      (CommentFree r.selector → Closed (tokens r.selector)) ∧
      (CommentFree r.body → Closed (tokens r.body)) := by
  obtain ⟨p, b, h⟩ := exists_read hr hb
  have hbraced := h.wellBraced
  have hcut := h.isCut
  refine ⟨hbraced, ⟨spell p, spell b, hcut, ?_, ?_⟩, fun hfree => ?_, fun hfree => ?_⟩
  · rw [hcut.selector]
    exact commentFree_strip_iff (by rw [h.solid_prelude.tokens_spell]; exact h.solid_prelude.sealed)
  · rw [hcut.body]
    exact commentFree_strip_iff (by rw [h.solid_block.tokens_spell]; exact h.solid_block.sealed)
  · rw [hfree.tokens_eq]
    exact hbraced.selector_closed
  · rw [hfree.tokens_eq]
    exact hbraced.body_closed

/-- A rule with braces in its strings and its comments, one of which stands between two stars, and a
rule inside. -/
theorem wellBraced_of_mem_nested :
    let css : Text := ".a/*\x7b*/[b='\x7d'] \x7bx:\"\x7b\";*/*\x7d*/*.c\x7b\x7d \x7d".toList
    let r : Rule := ⟨".a[b='\x7d']".toList, "x:\"\x7b\";**.c\x7b\x7d".toList, 0, 35, true, true⟩
    r ∈ parseRules css ∧ r.hasBlock = true ∧ CommentFree r.selector ∧ CommentFree r.body ∧
      WellBraced r ∧ Closed (tokens r.selector) ∧ Closed (tokens r.body) := by
  intro css r
  have hr : r ∈ parseRules css := by decide +kernel
  have hselector : CommentFree r.selector := by decide +kernel
  have hbody : CommentFree r.body := by decide +kernel
  obtain ⟨hbraced, -, hs, hb⟩ := wellBraced_of_mem hr rfl
  exact ⟨hr, rfl, hselector, hbody, hbraced, hs hselector, hb hbody⟩

/-- **A string of a rule may be left open** where comments are known: with the comment of `//**/*"*/"`
taken out, a new one reaches into the string, and the class behind it is not found. -/
theorem string_left_open :
    let css : Text := ".a\x7b//**/*\"*/\".b\x7b\x7d\x7d".toList
    let r : Rule := ⟨".a".toList, "/*\"*/\".b\x7b\x7d".toList, 0, 18, true, true⟩
    parseRules css = [r] ∧ Closed (tokens css) ∧ ¬ Closed (tokens r.body) ∧
      parseRules r.body = [] ∧ classNames css = [['a']] := by
  decide +kernel

end ClassPurge.Purge
