import ClassPurge.Proofs.Output

/-!
A stylesheet without comments, in which every parenthesis of a flat rule closes and nothing
follows the last rule. Its rules begin where their selectors do, so the rules of the output are the
statements and the rules that stay, each with the selector and the declarations that it had; a rule
with blocks inside is the same to the letter.
-/

namespace ClassPurge.Purge

open Css

/-- Every blank character is one that may stand between rules. -/
def PlainBlanks (t : Text) : Prop := ∀ x ∈ t, Text.isBlank x → (Token.char x).isTrivia

instance (t : Text) : Decidable (PlainBlanks t) := List.decidableBAll _ t

/-- The stylesheet holds no comment mark, and no blanks of other scripts; only blanks follow its
last rule, and the parentheses of its flat rules close. -/
structure WellFormed (css : Text) : Prop where
  noComment : ¬ commentMark <:+: css
  blanks : PlainBlanks css
  tail : Text.AllBlank (afterRules (parseRules css) css)
  parens : ∀ r ∈ parseRules css, r.nested = false → parensAfterTokens 0 (quoteTokens r.body) = 0

/-- The rule `r'` of `out` is the rule `r` of `css`. -/
structure Reissued (css out : Text) (r r' : Rule) : Prop where
  hasBlock : r'.hasBlock = r.hasBlock
  selector : r'.selector = r.selector
  nested : r'.nested = r.nested
  declarations : r.nested = false → splitDeclarations r'.body = splitDeclarations r.body
  source : r.nested = true → r'.source out = r.source css

section

variable {css : Text} {r : Rule} {p b : List Token}

lemma source_isInfix (css : Text) (r : Rule) : r.source css <:+: css := by
  rw [Rule.source, Text.slice_eq]
  exact (List.take_prefix _ _).isInfix.trans (List.drop_suffix _ _).isInfix

lemma WellFormed.plain (h : WellFormed css) (hread : IsRead css r p b) :
    Plain (Item.block p b).tokens := by
  refine plain_of_not_isInfix hread.block.solid.sealed fun hi => h.noComment ?_
  rw [← hread.source] at hi
  exact hi.trans (source_isInfix css r)

lemma WellFormed.head_not_blank (h : WellFormed css) (hread : IsRead css r p b)
    (hstarts : StartsRule (Item.block p b).tokens) :
    ∀ k ∈ (Item.block p b).tokens.head?, ¬ k.isBlank := by
  intro k hk hb
  have hmem : k ∈ (Item.block p b).tokens := List.mem_of_head? hk
  cases k with
  | char x =>
    refine hstarts _ hk (h.blanks x ?_ hb)
    have hsource := source_isInfix css r
    rw [hread.source] at hsource
    exact ((text_isInfix hmem).trans hsource).subset (by simp [Token.text])
  | _ => cases hb

/-- The semicolons in the selector of an at-rule are those in its prelude. -/
lemma WellFormed.semicolonFree (h : WellFormed css) (hread : IsRead css r p b)
    (hvalid : (Item.block p b).Valid) (hstarts : StartsRule (Item.block p b).tokens)
    (hat : r.isAt) : SemicolonFree 0 (quoteTokens r.selector) := by
  have hseal := hread.block.allSealed.1
  have hhead : (selectorOf p).head? = some '@' := by
    rw [← hread.selector]
    simpa [Rule.isAt, isAtSelector] using hat
  rw [hread.selector, semicolonFree_selectorOf hseal]
  refine hvalid.2.1 (head?_of_selectorOf hseal (fun k hk => ?_) (by decide) hhead)
  obtain ⟨q, rfl⟩ := List.head?_eq_some_iff.mp hk
  exact ⟨h.plain hread k (by simp [Item.tokens]), h.head_not_blank hread hstarts k rfl⟩

lemma WellFormed.rewritable (h : WellFormed css) (hr : r ∈ parseRules css)
    (hb : r.hasBlock = true) : Rewritable css r := by
  obtain ⟨p, b, hread, hvalid, hstarts⟩ := exists_read_valid hr hb
  exact rewritable_of_commentFree (commentFree_of_not_isInfix h.noComment) hr hb
    (h.semicolonFree hread hvalid hstarts)

lemma WellFormed.strip_source (h : WellFormed css) (hr : r ∈ parseRules css)
    (hb : r.hasBlock = true) : (r.source css).strip = r.source css := by
  obtain ⟨p, b, hread, -, hstarts⟩ := exists_read_valid hr hb
  rw [hread.source]
  refine Text.strip_of_trimmed (trimmed_spell hread.block.solid.sealed
    (h.head_not_blank hread hstarts) fun k hk => ?_)
  obtain rfl : Token.char '}' = k := by simpa [Item.tokens, List.getLast?_cons] using hk
  decide

/-! ### The rules of the output -/

variable {out : Text} {i : Item} {k : Piece} {r' : Rule}

/-- A statement is read from the same tokens. -/
lemma reissued_of_isReading (h : IsReading css r i) (h' : IsReading out r' i) :
    Reissued css out r r' := by
  refine ⟨?_, ?_, ?_, fun _ => ?_, fun _ => ?_⟩
  · rw [h'.hasBlock, h.hasBlock]
  · rw [h'.selector, h.selector]
  · rw [h'.nested, h.nested]
  · rw [h'.body, h.body]
  · rw [h'.source, h.source]

lemma WellFormed.reissued (h : WellFormed css) (hr : r ∈ parseRules css) (hb : r.hasBlock = true)
    (hk : Rewritten css r k) (h' : IsReading out r' k.item) : Reissued css out r r' := by
  refine ⟨?_, ?_, ?_, fun hn => ?_, fun hn => ?_⟩
  · rw [h'.hasBlock, hk.hasBlock, hb]
  · rw [h'.selector, hk.selector]
  · rw [h'.nested, hk.nested]
  · rw [h'.body, hk.declarations hn (h.parens r hr hn)]
  · have hformat : r.format css = r.source css := by
      rw [Rule.format, layOut, if_pos hn, h.strip_source hr hb]
    rw [h'.source, ← hformat, hk.format, Piece.tokens, (hk.whole hn).1, List.nil_append]

/-- **On a well-formed stylesheet purging writes the rules that stay as they were.** The output is
read as the statements and then the rules that stay. -/
theorem reissued_purge {c : Config} {used : TextSet} (hon : c.enabled = true)
    (h : WellFormed css) :
    List.Forall₂ (Reissued css (c.purge used css))
      (statements (parseRules css) ++ kept c used (parseRules css))
      (parseRules (c.purge used css)) := by
  have hmem : ∀ r ∈ kept c used (parseRules css), r ∈ parseRules css ∧ r.hasBlock = true :=
    fun r => mem_kept
  have hrew : ∀ r ∈ kept c used (parseRules css), Rewritable css r := fun r hr =>
    h.rewritable (hmem r hr).1 (hmem r hr).2
  have htail := isRemark_strip_of_allBlank h.tail
  exact (rules_purge hon htail hrew (fun r i r' => reissued_of_isReading) fun r hr k r' hk h' =>
    h.reissued (hmem r hr).1 (hmem r hr).2 hk h').1

end

/-- A statement, a rule whose semicolon stands in parentheses, a rule with a block inside, one that
nobody uses, and one without a selector. -/
def fiveRules : Text := ['@', 'x', ';', '.', 'a', ' ', '{', 'x', ':', '(', ';', ')', '}', '@', 'm',
  '{', '.', 'c', '{', '}', '\n', '}', '.', 'z', '{', '}', '{', 'y', '}', ' ']

theorem reissued_five_rules : WellFormed fiveRules ∧
    List.Forall₂ (Reissued fiveRules (Config.default.purge (TextSet.ofList [['a']]) fiveRules))
      (statements (parseRules fiveRules) ++
        kept Config.default (TextSet.ofList [['a']]) (parseRules fiveRules))
      (parseRules (Config.default.purge (TextSet.ofList [['a']]) fiveRules)) ∧
    (parseRules (Config.default.purge (TextSet.ofList [['a']]) fiveRules)).length = 4 := by
  have h : WellFormed fiveRules :=
    ⟨by decide, by decide, by decide +kernel, by decide +kernel⟩
  exact ⟨h, reissued_purge rfl h, by decide +kernel⟩

end ClassPurge.Purge
