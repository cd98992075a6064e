import ClassPurge.Proofs.Css.Levels

/-!
Comments and the classes of a stylesheet. A stylesheet in the grammar has the same rules without its
comments, with the same selectors and bodies, unless the comments kept a slash and a star apart. So
it has the same classes.
-/

namespace ClassPurge.Css

lemma head?_dropComments {ts : List Token} (h : ∀ k ∈ ts.head?, ¬ k.isComment) :
    (dropComments ts).head? = ts.head? := by
  cases ts with
  | nil => rfl
  | cons k ts =>
    have hk : ¬ k.isComment := h k rfl
    rw [dropComments, List.filter_cons_of_pos (by simpa using hk)]
    rfl

lemma dropComments_dropComments (ts : List Token) :
    dropComments (dropComments ts) = dropComments ts :=
  (plain_dropComments ts).dropComments_eq

lemma mem_char_dropComments {c : Char} {ts : List Token} :
    .char c ∈ dropComments ts ↔ .char c ∈ ts := by
  simp [dropComments, Token.isComment]

lemma Balanced.dropComments {ts : List Token} {d : Nat} (h : Balanced d ts) :
    Balanced d (dropComments ts) := (balanced_filter rfl rfl).mpr h

lemma not_isComment_of_not_isTrivia {k : Token} (h : ¬ k.isTrivia) : ¬ k.isComment := by
  cases k with
  | comment => exact absurd rfl h
  | _ => simp [Token.isComment]

lemma subset_dropComments {P : Token → Prop} {ts : List Token} (h : ∀ k ∈ ts, P k) :
    ∀ k ∈ dropComments ts, P k := fun k hk => h k (List.mem_filter.mp hk).1

/-! ### Rules without comments -/

namespace Item

/-- The item without the comments in it. -/
def uncommented : Item → Item
  | statement p => statement (dropComments p)
  | block p b => block (dropComments p) (dropComments b)

lemma tokens_uncommented (i : Item) : i.uncommented.tokens = dropComments i.tokens := by
  cases i <;> simp [uncommented, tokens, dropComments, Token.isComment]

lemma Valid.uncommented {i : Item} (h : i.Valid) (hs : StartsRule i.tokens) :
    i.uncommented.Valid := by
  have hsc {ts : List Token} (h : SemicolonFree 0 ts) : SemicolonFree 0 (dropComments ts) := by
    rwa [← semicolonFree_essence, essence_dropComments, semicolonFree_essence]
  cases i with
  | statement p =>
    obtain ⟨hat, hf, hfree, hparens⟩ := h
    refine ⟨?_, subset_dropComments hf, hsc hfree, ?_⟩
    · rw [head?_dropComments fun k hk => ?_, hat]
      obtain rfl : .char '@' = k := by simpa [hat] using hk
      decide
    · rwa [← parensAfterTokens_essence, essence_dropComments, parensAfterTokens_essence]
  | block p b =>
    obtain ⟨hf, hfree, hbal⟩ := h
    refine ⟨subset_dropComments hf, fun hat => hsc (hfree ?_), hbal.dropComments⟩
    rwa [head?_dropComments fun k hk => not_isComment_of_not_isTrivia (hs k ?_)] at hat
    cases p with
    | nil => cases hk
    | cons j p => exact hk

end Item

namespace Piece

/-- The piece without its comments. -/
def uncommented (p : Piece) : Piece where
  gap := dropComments p.gap
  item := p.item.uncommented
  trivia := subset_dropComments p.trivia
  valid := p.valid.uncommented p.starts
  closed := by
    rw [Item.tokens_uncommented]
    exact subset_dropComments p.closed
  starts := by
    have hhead := head?_dropComments fun k hk => not_isComment_of_not_isTrivia (p.starts k hk)
    rw [StartsRule, Item.tokens_uncommented, hhead]
    exact p.starts

/-- Selector and body are read without comments anyway. -/
lemma ruleClasses_uncommented (p : Piece) (room : Nat) :
    ruleClasses room (p.uncommented.rule 0) = ruleClasses room (p.rule 0) := by
  cases hitem : p.item with
  | statement q =>
    have hbare : p.uncommented.item = .statement (dropComments q) :=
      congrArg Item.uncommented hitem
    rw [rule, rule, hitem, hbare]
    rfl
  | block q b =>
    have hbare : p.uncommented.item = .block (dropComments q) (dropComments b) :=
      congrArg Item.uncommented hitem
    rw [ruleClasses_block hitem, ruleClasses_block hbare]
    simp only [selectorOf, dropComments_dropComments]
    congr 2
    exact funext fun room => if_congr mem_char_dropComments rfl rfl

end Piece

lemma piecesTokens_uncommented (ps : List Piece) :
    piecesTokens (ps.map Piece.uncommented) = dropComments (piecesTokens ps) := by
  induction ps with
  | nil => rfl
  | cons p ps ih =>
    rw [List.map_cons, piecesTokens_cons, piecesTokens_cons, dropComments_append,
      dropComments_append, ih, ← Item.tokens_uncommented]
    rfl

/-! ### The classes -/

/-- **Comments have no part in the classes**, if without them nothing looks like a comment. -/
theorem classNamesWithin_stripComments {css : Text} (h : InGrammar css)
    (hfree : CommentFree (stripComments css)) (room : Nat) :
    classNamesWithin room (stripComments css) = classNamesWithin room css := by
  obtain ⟨ps, r, hps, gap, hgap, htrivia⟩ := h
  have hr : tokens r = gap := by simpa using hgap.tokens_eq
  have htokens : tokens css = piecesTokens ps ++ gap := by rw [hps.tokens_eq, hr]
  have hsealed : AllSealed (dropComments (tokens css)) := by
    rw [htokens]
    exact (Tokenizes.append hps hgap).allSealed_dropComments
  have hread : tokens (stripComments css) =
      piecesTokens (ps.map Piece.uncommented) ++ dropComments gap := by
    rw [stripComments, (solid_of_commentFree hsealed hfree).tokens_spell, htokens,
      dropComments_append, piecesTokens_uncommented]
  obtain ⟨s, hs, hrest⟩ := tokenizes_of_tokens_eq hread (closed_piecesTokens _)
  have hbare : Decomposes (stripComments css) (ps.map Piece.uncommented) s := hs
  have hsgap : AllTrivia (tokens s) := hrest ▸ subset_dropComments htrivia
  have hrgap : AllTrivia (tokens r) := hr ▸ htrivia
  rw [classNamesWithin_eq, classNamesWithin_eq, hbare.levelClasses_eq (stuck_of_allTrivia hsgap),
    hps.levelClasses_eq (stuck_of_allTrivia hrgap), looseClasses_of_void hsgap.void,
    looseClasses_of_void hrgap.void, List.flatMap_map]
  simp only [Piece.ruleClasses_uncommented]

end ClassPurge.Css
