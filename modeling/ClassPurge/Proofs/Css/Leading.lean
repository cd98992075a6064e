import ClassPurge.Proofs.Css.Respelling

/-!
Reading a block rule behind other text. If the text before it is rules and after these only
comments and blanks, the rule is read as it is read alone: blanks of other scripts and comments go
into its prelude, where they count for nothing.
-/

namespace ClassPurge.Css

/-- Rules, and then comments and blanks. -/
def Settled (ts : List Token) : Prop := ∃ ps v, Void v ∧ ts = piecesTokens ps ++ v

/-- The tokens of a block rule, which are read back. -/
structure IsBlock (p b : List Token) : Prop where
  solid : Solid (Item.block p b).tokens
  braceFree : BraceFree p
  balanced : Balanced 0 b

/-- What a block rule may be written behind. -/
structure Lead (t : Text) (ts : List Token) : Prop where
  spelled : t = spell ts
  solid : Solid ts
  settled : Settled ts
  noSlash : ts.getLast? ≠ some (.char '/')

/-- The selector of a rule with this prelude. -/
def selectorOf (p : List Token) : Text := (spell (dropComments p)).strip

lemma IsBlock.allSealed {p b : List Token} (h : IsBlock p b) : AllSealed p ∧ AllSealed b := by
  have hs := h.solid.sealed
  rw [Item.tokens, allSealed_append, allSealed_cons, allSealed_append] at hs
  exact ⟨hs.1, hs.2.2.1⟩

lemma isBlock_of_braceFree {p b : List Token} (hp : Solid p) (hpf : BraceFree p) (hb : Solid b)
    (hbf : BraceFree b) : IsBlock p b := by
  have hrest : Solid (.char '{' :: (b ++ [.char '}'])) :=
    (hb.append_char (by decide) (by decide)).cons_char (by decide) (by decide)
  exact ⟨hp.append hrest fun _ => by simp, hpf, balanced_of_braceFree hbf⟩

/-! ### Comments and blanks before a prelude -/

lemma isVoid_of_isTrivia {k : Token} (h : k.isTrivia) : k.isVoid := by
  cases k with
  | char c =>
    simp only [Token.isTrivia, Bool.or_eq_true, beq_iff_eq] at h
    rcases h with (((rfl | rfl) | rfl) | rfl) | rfl <;> decide
  | comment => rfl
  | _ => cases h

lemma isTrivia_cases {k : Token} (h : k.isTrivia) : k.isComment ∨ k.isBlank := by
  simpa [Token.isVoid] using isVoid_of_isTrivia h

lemma AllTrivia.void {ts : List Token} (h : AllTrivia ts) : Void ts :=
  fun k hk => isVoid_of_isTrivia (h k hk)

lemma Void.not_mem_char {ts : List Token} (h : Void ts) {c : Char} (hc : ¬ Text.isBlank c) :
    .char c ∉ ts := fun hk => hc (h _ hk)

lemma Void.braceFree {ts : List Token} (h : Void ts) : BraceFree ts := by
  rintro k hk (rfl | rfl)
  · exact h.not_mem_char (by decide) hk
  · exact h.not_mem_char (by decide) hk

lemma selectorOf_void_append {v : List Token} (hv : Void v) (p : List Token) :
    selectorOf (v ++ p) = selectorOf p := by
  rw [selectorOf, dropComments_append, spell_append,
    Text.strip_blank_append (allBlank_spell hv.allBlank_dropComments), selectorOf]

lemma essence_void_append {v : List Token} (hv : Void v) (p : List Token) :
    essence (v ++ p) = essence p := by
  rw [essence_append, hv.essence_eq, List.nil_append]

lemma head?_selectorOf {p : List Token} {c : Char} (h : p.head? = some (.char c))
    (hc : ¬ Text.isBlank c) : (selectorOf p).head? = some c := by
  obtain ⟨ts, rfl⟩ := List.head?_eq_some_iff.mp h
  have hp : spell (dropComments (.char c :: ts)) = c :: spell (dropComments ts) := rfl
  rw [selectorOf, hp, Text.head?_strip hc]

/-- A selector begins as its prelude does if this begins with neither a comment nor a blank. -/
lemma head?_of_selectorOf {p : List Token} {c : Char} (hs : AllSealed p)
    (hp : ∀ k ∈ p.head?, ¬ k.isComment ∧ ¬ k.isBlank) (hq : ¬ isQuote c)
    (h : (selectorOf p).head? = some c) : p.head? = some (.char c) := by
  cases p with
  | nil => simp [selectorOf, dropComments] at h
  | cons k p =>
    obtain ⟨hcomment, hblank⟩ := hp k rfl
    cases (allSealed_cons.mp hs).1 with
    | @string q b hquote =>
      have hk : spell (dropComments (.string (q :: (b ++ [q])) :: p)) =
          q :: (b ++ [q] ++ spell (dropComments p)) := by
        simp [dropComments, Token.isComment, Token.text]
      rw [selectorOf, hk, Text.head?_strip (not_isBlank_of_isQuote hquote)] at h
      obtain rfl : q = c := by simpa using h
      exact absurd hquote hq
    | comment => exact absurd rfl hcomment
    | @char x =>
      rw [head?_selectorOf (c := x) rfl hblank] at h
      obtain rfl : x = c := by simpa using h
      rfl

/-! ### Blocks are rules -/

lemma startsRule_prelude {p : List Token} (h : StartsRule p) (r : List Token) :
    StartsRule (p ++ .char '{' :: r) := by
  cases p with
  | nil =>
    rintro k hk
    obtain rfl : Token.char '{' = k := by simpa using hk
    decide
  | cons k p => exact h

lemma startsRule_statement {p : List Token} (h : p.head? = some (.char '@')) :
    StartsRule (Item.statement p).tokens := by
  rintro k hk
  obtain ⟨ts, rfl⟩ := List.head?_eq_some_iff.mp h
  obtain rfl : Token.char '@' = k := by simpa [Item.tokens] using hk
  decide

/-- A prelude and a block are rules, whatever semicolons stand in the prelude. -/
lemma exists_pieces_block {p b : List Token} (hc : Closed (Item.block p b).tokens)
    (hf : BraceFree p) (hb : Balanced 0 b) : ∃ ps, (Item.block p b).tokens = piecesTokens ps := by
  induction hn : p.length using Nat.strongRecOn generalizing p with
  | _ n ih =>
    obtain ⟨gap, q, rfl, hg, hq⟩ := exists_trivia p
    have hcut : (Item.block (gap ++ q) b).tokens = gap ++ (Item.block q b).tokens := by
      simp [Item.tokens]
    rw [hcut] at hc ⊢
    have hc := (closed_append.mp hc).2
    have hf : BraceFree q := fun k hk => hf k (List.mem_append_right _ hk)
    by_cases hsc : q.head? = some (.char '@') → SemicolonFree 0 q
    · exact ⟨[⟨gap, .block q b, hg, ⟨hf, hsc, hb⟩, hc, startsRule_prelude hq _⟩], by simp⟩
    · -- a statement comes first: the prelude up to its first semicolon
      obtain ⟨hat, hsc⟩ := Classical.not_imp.mp hsc
      obtain ⟨s, r, rfl, hw⟩ := exists_whole hsc
      have hs : s.head? = some (.char '@') := by
        cases s with
        | nil => simp at hat
        | cons k s => exact hat
      have htokens : (Item.block (s ++ .char ';' :: r) b).tokens =
          (Item.statement s).tokens ++ (Item.block r b).tokens := by
        simp [Item.tokens]
      rw [htokens] at hc ⊢
      obtain ⟨hcs, hcr⟩ := closed_append.mp hc
      have hfs : BraceFree s := fun k hk => hf k (by simp [hk])
      have hfr : BraceFree r := fun k hk => hf k (by simp [hk])
      simp only [List.length_append, List.length_cons] at hn
      obtain ⟨ps, hps⟩ := ih r.length (by omega) hcr hfr rfl
      exact ⟨⟨gap, .statement s, hg, ⟨hs, hfs, hw.1, hw.2⟩, hcs, startsRule_statement hs⟩ ::
        ps, by simp [hps]⟩

/-- Behind comments and blanks a prelude and a block are one rule with the selector that they have
alone, unless the selector is an at-rule's and has a semicolon. -/
lemma exists_piece_block {v q b : List Token} (hv : Void v) (hcv : Closed v)
    (hc : Closed (Item.block q b).tokens) (hf : BraceFree q) (hb : Balanced 0 b)
    (hat : isAtSelector (selectorOf q) → SemicolonFree 0 q) :
    ∃ (p : Piece) (q' : List Token), p.item = .block q' b ∧ selectorOf q' = selectorOf q ∧
      v ++ (Item.block q b).tokens = p.gap ++ p.item.tokens := by
  obtain ⟨gap, q', hcut, hg, hq⟩ := exists_trivia (v ++ q)
  have hsel : selectorOf q' = selectorOf q := by
    rw [← selectorOf_void_append hg.void, ← hcut, selectorOf_void_append hv]
  have hess : essence q' = essence q := by
    rw [← essence_void_append hg.void, ← hcut, essence_void_append hv]
  have htokens : v ++ (Item.block q b).tokens = gap ++ (Item.block q' b).tokens := by
    rw [Item.tokens, ← List.append_assoc, hcut, Item.tokens, List.append_assoc]
  have hf' : BraceFree q' := by
    have := List.forall_mem_append.mpr ⟨hv.braceFree, hf⟩
    rw [hcut] at this
    exact (List.forall_mem_append.mp this).2
  have hc' : Closed (Item.block q' b).tokens := by
    have := closed_append.mpr ⟨hcv, hc⟩
    rw [htokens] at this
    exact (closed_append.mp this).2
  have hsc : q'.head? = some (.char '@') → SemicolonFree 0 q' := by
    intro h
    have hhead := head?_selectorOf h (by decide)
    rw [hsel] at hhead
    rw [← semicolonFree_essence, hess, semicolonFree_essence]
    exact hat (by rw [isAtSelector, hhead]; rfl)
  exact ⟨⟨gap, .block q' b, hg, ⟨hf', hsc, hb⟩, hc', startsRule_prelude hq _⟩, q', rfl, hsel,
    htokens⟩

/-! ### What a block rule may be written behind -/

lemma Settled.trivia_append {g ts : List Token} (hg : AllTrivia g) (h : Settled ts) :
    Settled (g ++ ts) := by
  obtain ⟨ps, v, hv, rfl⟩ := h
  cases ps with
  | nil => exact ⟨[], g ++ v, List.forall_mem_append.mpr ⟨hg.void, hv⟩, rfl⟩
  | cons p ps =>
    exact ⟨{ p with gap := g ++ p.gap, trivia := List.forall_mem_append.mpr ⟨hg, p.trivia⟩ } :: ps,
      v, hv, by simp⟩

lemma Settled.piece_append (p : Piece) {ts : List Token} (h : Settled ts) :
    Settled (p.tokens ++ ts) := by
  obtain ⟨ps, v, hv, rfl⟩ := h
  exact ⟨p :: ps, v, hv, by simp [Piece.tokens]⟩

lemma Void.getLast?_ne {ts : List Token} (h : Void ts) :
    ts.getLast? ≠ some (.char '/') := fun hl =>
  h.not_mem_char (by decide) (List.mem_of_getLast? hl)

lemma getLast?_append_ne {α : Type} {l m : List α} {x : α} (hl : l.getLast? ≠ some x)
    (hm : m.getLast? ≠ some x) : (l ++ m).getLast? ≠ some x := by
  rw [List.getLast?_append]
  cases h : m.getLast? with
  | none => exact hl
  | some y => rwa [h] at hm

lemma getLast?_block (p b : List Token) : (Item.block p b).tokens.getLast? ≠ some (.char '/') := by
  simp [Item.tokens, List.getLast?_cons]

lemma lead_void {v : List Token} (hs : Solid v) (hv : Void v) : Lead (spell v) v :=
  ⟨rfl, hs, ⟨[], v, hv, rfl⟩, hv.getLast?_ne⟩

lemma Lead.append {t : Text} {ts us : List Token} (h : Lead t ts) (hs : Solid us)
    (hl : us.getLast? ≠ some (.char '/')) (hset : Settled (us ++ ts)) :
    Lead (spell us ++ t) (us ++ ts) := by
  exact ⟨by rw [h.spelled, spell_append], hs.append h.solid fun hu => absurd hu hl, hset,
    getLast?_append_ne hl h.noSlash⟩

lemma Lead.trivia_append {t : Text} {ts g : List Token} (h : Lead t ts) (hs : Solid g)
    (hg : AllTrivia g) : Lead (spell g ++ t) (g ++ ts) :=
  h.append hs hg.void.getLast?_ne (h.settled.trivia_append hg)

lemma Lead.statement_append {t : Text} {ts q : List Token} (h : Lead t ts)
    (hs : Solid (Item.statement q).tokens) (hv : (Item.statement q).Valid) :
    Lead (spell (Item.statement q).tokens ++ t) ((Item.statement q).tokens ++ ts) := by
  refine h.append hs (by simp [Item.tokens]) ?_
  exact h.settled.piece_append ⟨[], _, by simp [AllTrivia], hv, hs.closed,
    startsRule_statement hv.1⟩

lemma solid_block_append {t : Text} {ts p b : List Token} (h : Lead t ts) (hb : IsBlock p b) :
    Solid (ts ++ (Item.block p b).tokens) :=
  h.solid.append hb.solid fun hl => absurd hl h.noSlash

lemma Lead.append_block {t : Text} {ts p b g : List Token} (h : Lead t ts) (hb : IsBlock p b)
    (hs : Solid g) (hg : Void g) : Lead (t ++ (spell (Item.block p b).tokens ++ spell g))
      (ts ++ ((Item.block p b).tokens ++ g)) := by
  obtain ⟨ps, v, hv, hts⟩ := h.settled
  have hvp : BraceFree (v ++ p) := List.forall_mem_append.mpr ⟨hv.braceFree, hb.braceFree⟩
  have hclosed : Closed (Item.block (v ++ p) b).tokens := by
    have := (solid_block_append h hb).closed
    rw [hts, List.append_assoc] at this
    simpa [Item.tokens] using (closed_append.mp this).2
  obtain ⟨qs, hqs⟩ := exists_pieces_block hclosed hvp hb.balanced
  have hcut : v ++ (Item.block p b).tokens = piecesTokens qs := by
    rw [← hqs]
    simp [Item.tokens]
  refine ⟨by rw [h.spelled, spell_append, spell_append], ?_, ⟨ps ++ qs, g, hg, ?_⟩,
    getLast?_append_ne h.noSlash (getLast?_append_ne (getLast?_block p b) hg.getLast?_ne)⟩
  · rw [← List.append_assoc]
    exact (solid_block_append h hb).append hs fun hl =>
      absurd hl (getLast?_append_ne h.noSlash (getLast?_block p b))
  · rw [hts, piecesTokens_append, ← hcut]
    simp

/-- **A block behind a lead is read as a rule of its own**, whatever stands behind it. -/
theorem Lead.exists_rule {t : Text} {ts p b : List Token} (h : Lead t ts) (hb : IsBlock p b)
    (hat : isAtSelector (selectorOf p) → SemicolonFree 0 p) (rest : Text) :
    ∃ r ∈ parseRules (t ++ (spell (Item.block p b).tokens ++ rest)),
      r.hasBlock = true ∧ r.selector = selectorOf p ∧
        r.body = (spell (dropComments b)).strip ∧ r.nested = decide (.char '{' ∈ b) := by
  obtain ⟨ps, v, hv, hts⟩ := h.settled
  have hclosed := (solid_block_append h hb).closed
  rw [hts, List.append_assoc] at hclosed
  obtain ⟨hcv, hcb⟩ := closed_append.mp (closed_append.mp hclosed).2
  obtain ⟨piece, p', hitem, hsel, hcut⟩ :=
    exists_piece_block hv hcv hcb hb.braceFree hb.balanced hat
  have htokens : tokens (t ++ (spell (Item.block p b).tokens ++ rest)) =
      piecesTokens ps ++ (piece.gap ++ (piece.item.tokens ++ tokens rest)) := by
    have hlast := getLast?_append_ne h.noSlash (getLast?_block p b)
    rw [h.spelled, ← List.append_assoc, ← spell_append,
      (solid_block_append h hb).tokens_append fun hl => absurd hl hlast, hts,
      List.append_assoc (piecesTokens ps), hcut]
    simp
  have hmem : piece.rule (0 + (spell (piecesTokens ps)).length) ∈
      parseRules (t ++ (spell (Item.block p b).tokens ++ rest)) := by
    rw [parseRules, parse, htokens, parseFrom_pieces, parseFrom_piece]
    exact List.mem_append_right _ List.mem_cons_self
  refine ⟨_, hmem, ?_, ?_, ?_, ?_⟩
  · rw [Piece.rule, hitem]
    rfl
  · rw [Piece.rule, hitem, ← hsel]
    rfl
  · rw [Piece.rule, hitem]
    rfl
  · rw [Piece.rule, Item.rule_nested, hitem]
    rfl

end ClassPurge.Css
