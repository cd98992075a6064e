import ClassPurge.Proofs.KeptRules

/-!
A rule that stays, as one piece of the output. What is written for it is a block rule with the same
selector; only a rule without a selector has a space before it. A rule with blocks inside keeps its
tokens, any other has its declarations on lines of their own.
-/

namespace ClassPurge.Purge

open Css

/-- What keeps a rule in one piece when it is written: no comment comes about in it, its selector
does not end in the middle, and no comment before it becomes a comment between rules. -/
structure Rewritable (css : Text) (r : Rule) : Prop where
  seamless : Seamless r
  semicolons : r.isAt → SemicolonFree 0 (quoteTokens r.selector)
  lead : r.nested = true → ¬ commentMark <+: (r.source css).strip

/-- The rule `r` is written as the piece `k`. -/
structure Rewritten (css : Text) (r : Rule) (k : Piece) : Prop where
  solid : Solid k.tokens
  blank : AllBlank k.gap
  format : r.format css = spell k.tokens
  hasBlock : k.item.hasBlock = true
  selector : k.item.selector = r.selector
  nested : k.item.nested = r.nested
  whole : r.nested = true → k.gap = [] ∧ k.item.body = r.body
  lines : r.nested = false → k.item.body = (spell (bodyTokens (splitDeclarations r.body))).strip
  declarations : r.nested = false → parensAfterTokens 0 (quoteTokens r.body) = 0 →
    splitDeclarations k.item.body = splitDeclarations r.body

/-! ### Rules with blocks inside -/

/-- A prelude that neither a blank nor a comment begins is a rule's from its first token on. -/
lemma startsRule_block {q b : List Token} (hs : AllSealed (Item.block q b).tokens)
    (hblank : ∀ k ∈ q.head?, ¬ k.isBlank)
    (hcomment : ¬ commentMark <+: spell (Item.block q b).tokens) :
    StartsRule (Item.block q b).tokens := by
  refine startsRule_prelude (fun k hk htrivia => ?_) _
  obtain ⟨q, rfl⟩ := List.head?_eq_some_iff.mp hk
  rcases isTrivia_cases htrivia with hc | hb
  · have hk := (allSealed_cons.mp hs).1
    exact hcomment ((commentMark_isPrefix_text hk hc).trans (List.prefix_append _ _))
  · exact hblank k rfl hb

lemma exists_rewritten_nested {css : Text} {r : Rule} {p b : List Token} (h : IsRead css r p b)
    (hn : r.nested = true) (hr : Rewritable css r) : ∃ k, Rewritten css r k := by
  obtain ⟨a, q, rfl, ha, hq, hw⟩ := exists_written_nested h hn
  have hsolid := hw.block.solid
  have hformat : (r.source css).strip = spell (Item.block q b).tokens := by
    rw [← hw.format, Rule.format, layOut, if_pos hn]
  have hstart : StartsRule (Item.block q b).tokens :=
    startsRule_block hsolid.sealed hq (hformat ▸ hr.lead hn)
  have hsemi : q.head? = some (.char '@') → SemicolonFree 0 q := by
    intro hat
    refine hw.semicolons (hr.semicolons ?_)
    rw [Rule.isAt, isAtSelector, ← hw.selector, head?_selectorOf hat (by decide)]
    rfl
  refine ⟨⟨[], .block q b, by simp [AllTrivia], ⟨hw.block.braceFree, hsemi, hw.block.balanced⟩,
    hsolid.closed, hstart⟩, hsolid, by simp [AllBlank], hw.format, rfl, hw.selector, hw.nested,
    fun _ => ⟨rfl, h.body.symm⟩, ?_, ?_⟩
  · simp [hn]
  · simp [hn]

/-! ### Flat rules -/

lemma exists_rewritten_flat {css : Text} {r : Rule} {p b : List Token} (h : IsRead css r p b)
    (hn : r.nested = false) (hr : Rewritable css r) : ∃ k, Rewritten css r k := by
  obtain ⟨m, hm, hw⟩ := exists_written_flat h hn hr.seamless
  have hbody := plain_written_body h (hr.seamless hn).2
  have hat : isAtSelector (selectorOf (m ++ [.char ' '])) → SemicolonFree 0 (m ++ [.char ' ']) := by
    intro hat
    rw [hw.selector] at hat
    exact hw.semicolons (hr.semicolons hat)
  obtain ⟨k, q, hitem, hsel, hcut⟩ := exists_piece_block (v := []) (by decide) closed_nil
    hw.block.solid.closed hw.block.braceFree hw.block.balanced hat
  have htokens : (Item.block (m ++ [.char ' ']) (bodyTokens (splitDeclarations r.body))).tokens =
      k.tokens := hcut
  have hplain : Plain k.tokens := by
    rw [← htokens]
    simp only [Item.tokens, Plain, List.forall_mem_append, List.forall_mem_cons]
    have hchar (x : Char) : ¬ (Token.char x).isComment := by simp [Token.isComment]
    exact ⟨⟨hm, by simpa using hchar ' '⟩, hchar '{', hbody, by simpa using hchar '}'⟩
  have hlines : k.item.body = (spell (bodyTokens (splitDeclarations r.body))).strip := by
    rw [hitem, Item.body, hbody.dropComments_eq]
  refine ⟨k, htokens ▸ hw.block.solid, fun j hj => ?_, htokens ▸ hw.format, by rw [hitem]; rfl, ?_,
    ?_, ?_, fun _ => hlines, fun _ hparens => ?_⟩
  · exact (isTrivia_cases (k.trivia j hj)).resolve_left (hplain j (List.mem_append_left _ hj))
  · rw [hitem, Item.selector, hsel, hw.selector]
  · rw [hitem, Item.nested, hw.nested]
  · simp [hn]
  · rw [hlines, ← hbody.dropComments_eq]
    exact splitDeclarations_written h hw hn hr.seamless ⟨hr.semicolons, fun _ => hparens⟩

/-- **A rule that stays is written as one piece.** -/
lemma exists_rewritten {css : Text} {r : Rule} (hr : r ∈ parseRules css) (hb : r.hasBlock = true)
    (h : Rewritable css r) : ∃ k, Rewritten css r k := by
  obtain ⟨p, b, hread⟩ := exists_read hr hb
  cases hn : r.nested with
  | true => exact exists_rewritten_nested hread hn h
  | false => exact exists_rewritten_flat hread hn h

/-- In a stylesheet without comments only a semicolon can keep a rule from being written as one
piece. -/
lemma rewritable_of_commentFree {css : Text} {r : Rule} (hcss : CommentFree css)
    (hr : r ∈ parseRules css) (hb : r.hasBlock = true)
    (hsemi : r.isAt → SemicolonFree 0 (quoteTokens r.selector)) : Rewritable css r := by
  obtain ⟨p, b, hread⟩ := exists_read hr hb
  have hplain : Plain (Item.block p b).tokens := fun k hk => hcss k (hread.subset_tokens hr hk)
  have hfree {ts : List Token} (hts : ts <:+: (Item.block p b).tokens) :
      CommentFree (spell ts).strip := by
    have hsolid := hread.block.solid.of_isInfix hts
    obtain ⟨a, m, c, rfl, -, -, hstrip, -⟩ := exists_strip_spell hsolid.sealed
    have hm : m <:+: a ++ (m ++ c) := ⟨a, c, by simp⟩
    rw [hstrip]
    exact (hsolid.of_isInfix hm).commentFree fun k hk =>
      hplain k (hts.subset (hm.subset hk))
  have hprelude : p <:+: (Item.block p b).tokens := (List.prefix_append _ _).isInfix
  have hblock : b <:+: (Item.block p b).tokens :=
    ⟨p ++ [.char '{'], [.char '}'], by simp [Item.tokens]⟩
  have hdrop {ts : List Token} (hts : ts <:+: (Item.block p b).tokens) : dropComments ts = ts :=
    Plain.dropComments_eq fun k hk => hplain k (hts.subset hk)
  refine ⟨fun _ => ⟨?_, ?_⟩, hsemi, fun _ => ?_⟩
  · rw [hread.selector, selectorOf, hdrop hprelude]
    exact hfree hprelude
  · rw [hread.body, hdrop hblock]
    exact hfree hblock
  · rw [hread.source]
    exact (hfree List.infix_rfl).not_isPrefix

lemma getLast?_format {css : Text} {r : Rule} (hr : r ∈ parseRules css) (hb : r.hasBlock = true) :
    (r.format css).getLast? = some '}' := by
  obtain ⟨p, b, hread⟩ := exists_read hr hb
  cases hn : r.nested with
  | true =>
    obtain ⟨_, q, -, -, -, hw⟩ := exists_written_nested hread hn
    simp [hw.format, Item.tokens, Token.text, List.getLast?_cons]
  | false =>
    rw [Rule.format, hn, layOut_flat]
    simp [List.getLast?_cons]

end ClassPurge.Purge
