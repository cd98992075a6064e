import ClassPurge.Proofs.Css.Leading
import ClassPurge.Proofs.Css.Relaying
import ClassPurge.Proofs.Segments

/-!
The rules that stay are rules of the output. What is carried over comes before them, so the text
behind the last rule of the stylesheet must hold nothing but blanks and closed comments: anything
else in it takes the rules behind it along. A rule itself may come out changed where comments were
taken out between a slash and a star, where a parenthesis of its body does not close, and where
its selector is an at-rule's only because a blank of another script went from before it.
-/

namespace ClassPurge.Css

namespace Item

/-- The selector that the item is read with. -/
def selector : Item → Text
  | statement p => (spell p ++ [';']).strip
  | block p _ => selectorOf p

/-- The body that the item is read with. -/
def body : Item → Text
  | statement _ => []
  | block _ b => (spell (dropComments b)).strip

@[simp] lemma rule_selector (n : Nat) (i : Item) : (i.rule n).selector = i.selector := by
  cases i <;> rfl

@[simp] lemma rule_body (n : Nat) (i : Item) : (i.rule n).body = i.body := by
  cases i <;> rfl

end Item

/-- The rule is the item `i`, at some place of the text. -/
structure IsReading (css : Text) (r : Rule) (i : Item) : Prop where
  selector : r.selector = i.selector
  body : r.body = i.body
  hasBlock : r.hasBlock = i.hasBlock
  nested : r.nested = i.nested
  source : r.source css = spell i.tokens

end ClassPurge.Css

namespace ClassPurge.Purge

open Css

/-- The rule is among the rules of `out`: a block rule with the same selector and, if there are no
blocks inside, the same declarations. -/
def ReadAgain (out : Text) (r : Rule) : Prop :=
  ∃ r' ∈ parseRules out, r'.hasBlock = true ∧ r'.selector = r.selector ∧ r'.nested = r.nested ∧
    (r.nested = false → splitDeclarations r'.body = splitDeclarations r.body)

instance (out : Text) (r : Rule) : Decidable (ReadAgain out r) :=
  inferInstanceAs (Decidable (∃ r' ∈ parseRules out, _))

/-- Blanks and closed comments. -/
def IsVoid (t : Text) : Prop := Void (tokens t) ∧ AllSealed (tokens t)

/-- Taking the comments out of a flat rule has not made a new one. -/
def Seamless (r : Rule) : Prop :=
  r.nested = false → CommentFree r.selector ∧ CommentFree r.body

instance (r : Rule) : Decidable (Seamless r) :=
  inferInstanceAs (Decidable (r.nested = false → _))

/-- The selector of an at-rule has no semicolon outside parentheses, and the parentheses of a flat
body close. -/
structure Stable (r : Rule) : Prop where
  semicolons : r.isAt → SemicolonFree 0 (quoteTokens r.selector)
  parens : r.nested = false → parensAfterTokens 0 (quoteTokens r.body) = 0

/-- The rule was read from a prelude `p` and a block `b`. -/
structure IsRead (css : Text) (r : Rule) (p b : List Token) : Prop where
  block : IsBlock p b
  selector : r.selector = selectorOf p
  body : r.body = (spell (dropComments b)).strip
  nested : r.nested = decide (.char '{' ∈ b)
  source : r.source css = spell (Item.block p b).tokens

/-- The rule is written as a prelude `p` and a block `b`. -/
structure IsWritten (css : Text) (r : Rule) (p b : List Token) : Prop where
  block : IsBlock p b
  format : r.format css = spell (Item.block p b).tokens
  selector : selectorOf p = r.selector
  nested : decide (.char '{' ∈ b) = r.nested
  semicolons : SemicolonFree 0 (quoteTokens r.selector) → SemicolonFree 0 p
  declarations : r.nested = false → b = bodyTokens (splitDeclarations r.body)

/-! ### Rules as they are read -/

lemma exists_of_forall₂ {α β : Type} {R : α → β → Prop} {l : List α} {m : List β}
    (h : List.Forall₂ R l m) {a : α} (ha : a ∈ l) : ∃ b ∈ m, R a b := by
  induction h with
  | nil => cases ha
  | cons hab _ ih =>
    rcases List.mem_cons.mp ha with rfl | ha
    · exact ⟨_, List.mem_cons_self, hab⟩
    · obtain ⟨b, hb, hR⟩ := ih ha
      exact ⟨b, List.mem_cons_of_mem _ hb, hR⟩

lemma forall₂_isReading {css s : Text} {n : Nat} {ps : List Piece} (h : StandsAt css n ps s) :
    List.Forall₂ (IsReading css) (alongPieces Piece.rule n ps) (ps.map Piece.item) := by
  induction ps generalizing n with
  | nil => exact .nil
  | cons p ps ih =>
    exact .cons ⟨Item.rule_selector .., Item.rule_body .., Piece.rule_hasBlock ..,
      Piece.rule_nested .., h.source⟩ (ih h.next)

lemma exists_piece {css : Text} {r : Rule} (hr : r ∈ parseRules css) :
    ∃ p : Piece, IsReading css r p.item ∧ Solid p.item.tokens ∧ p.item.tokens ⊆ tokens css := by
  obtain ⟨ps, s, hps, -, hrules, -⟩ := exists_longest css
  rw [hrules] at hr
  obtain ⟨i, hi, hread⟩ := exists_of_forall₂
    (forall₂_isReading ⟨Nat.zero_le _, hps.spell_append⟩) hr
  obtain ⟨p, hp, rfl⟩ := List.mem_map.mp hi
  have htokens : p.item.tokens ⊆ tokens css := by
    rw [hps.tokens_eq]
    exact fun k hk => List.mem_append_left _ ((item_isInfix hp).subset hk)
  exact ⟨p, hread, hps.solid.of_isInfix (item_isInfix hp), htokens⟩

lemma exists_read_valid {css : Text} {r : Rule} (hr : r ∈ parseRules css)
    (hb : r.hasBlock = true) :
    ∃ p b, IsRead css r p b ∧ (Item.block p b).Valid ∧ StartsRule (Item.block p b).tokens := by
  obtain ⟨q, h, hsolid, -⟩ := exists_piece hr
  have hvalid := q.valid
  have hstarts := q.starts
  cases hi : q.item with
  | statement p =>
    rw [h.hasBlock, hi] at hb
    cases hb
  | block p b =>
    rw [hi] at h hsolid hvalid hstarts
    exact ⟨p, b, ⟨⟨hsolid, hvalid.1, hvalid.2.2⟩, h.selector, h.body, h.nested, h.source⟩, hvalid,
      hstarts⟩

lemma exists_read {css : Text} {r : Rule} (hr : r ∈ parseRules css) (hb : r.hasBlock = true) :
    ∃ p b, IsRead css r p b := by
  obtain ⟨p, b, h, -⟩ := exists_read_valid hr hb
  exact ⟨p, b, h⟩

lemma IsRead.subset_tokens {css : Text} {r : Rule} {p b : List Token} (h : IsRead css r p b)
    (hr : r ∈ parseRules css) : (Item.block p b).tokens ⊆ tokens css := by
  obtain ⟨q, hq, hsolid, hsub⟩ := exists_piece hr
  rwa [← h.block.solid.tokens_spell, ← h.source, hq.source, hsolid.tokens_spell]

/-! ### Rules as they are written -/

lemma semicolonFree_selectorOf {p : List Token} (hs : AllSealed p) :
    SemicolonFree 0 (quoteTokens (selectorOf p)) ↔ SemicolonFree 0 p := by
  obtain ⟨m, hm⟩ := exists_leaves hs
  rw [selectorOf, hm.text, hm.reread, ← semicolonFree_essence, hm.essence, semicolonFree_essence]

lemma semicolonFree_prelude {p q : List Token} (hs : AllSealed p) (hq : essence q = essence p)
    (h : SemicolonFree 0 (quoteTokens (selectorOf p))) : SemicolonFree 0 q := by
  rw [semicolonFree_selectorOf hs] at h
  rwa [← semicolonFree_essence, hq, semicolonFree_essence]

/-- A rule with blocks inside is written as it stands, without the blanks before it. -/
lemma exists_written_nested {css : Text} {r : Rule} {p b : List Token} (h : IsRead css r p b)
    (hn : r.nested = true) :
    ∃ a q, p = a ++ q ∧ AllBlank a ∧ (∀ k ∈ q.head?, ¬ k.isBlank) ∧ IsWritten css r q b := by
  obtain ⟨a, q, rfl, ha, hq⟩ := Text.exists_lead Token.isBlank p
  have ha : AllBlank a := ha
  have hcut : (Item.block (a ++ q) b).tokens = a ++ (Item.block q b).tokens := by
    simp [Item.tokens]
  have hsolid : Solid (Item.block q b).tokens :=
    h.block.solid.of_isInfix ⟨a, [], by rw [hcut, List.append_nil]⟩
  have htrim : Text.Trimmed (spell (Item.block q b).tokens) := by
    refine trimmed_spell hsolid.sealed ?_ fun k hk => ?_
    · cases q with
      | nil =>
        rintro k hk
        obtain rfl : Token.char '{' = k := by simpa [Item.tokens] using hk
        decide
      | cons k q => exact hq
    · obtain rfl : Token.char '}' = k := by simpa [Item.tokens, List.getLast?_cons] using hk
      decide
  refine ⟨a, q, rfl, ha, hq, ⟨hsolid, fun k hk => ?_, h.block.balanced⟩, ?_, ?_, h.nested.symm,
    ?_, ?_⟩
  · exact h.block.braceFree k (List.mem_append_right _ hk)
  · rw [Rule.format, layOut, if_pos hn, h.source, hcut, spell_append,
      Text.strip_blank_append (allBlank_spell ha), Text.strip_of_trimmed htrim]
  · rw [h.selector, selectorOf_void_append ha.void]
  · rw [h.selector]
    exact semicolonFree_prelude h.block.allSealed.1 (essence_void_append ha.void q).symm
  · simp [hn]

/-- The declarations of a body in which no new comment is read. -/
lemma rereadable_of_mem {ts : List Token} (hs : AllSealed ts)
    (hbody : CommentFree (spell (dropComments ts)).strip) {d : Text}
    (hd : d ∈ splitDeclarations (spell (dropComments ts)).strip) :
    Rereadable d ∧ quoteTokens d ⊆ ts := by
  obtain ⟨m, hm⟩ := exists_leaves hs
  rw [hm.text] at hbody hd
  obtain ⟨_, -, hdecl, -⟩ := mem_splitDeclarations hm.sealed hm.plain hd
  have hpart := hdecl.part
  have hsolid := (solid_of_commentFree hm.sealed hbody).of_isInfix hpart
  have hplain : Plain (quoteTokens d) := fun k hk => hm.plain k (hpart.subset hk)
  exact ⟨⟨hsolid, hplain, hdecl.trimmed, hdecl.ne_nil⟩, fun k hk => hm.subset (hpart.subset hk)⟩

/-- The body of a flat rule is written without braces, and its tokens are read back. -/
lemma solid_written_body {css : Text} {r : Rule} {p b : List Token} (h : IsRead css r p b)
    (hn : r.nested = false) (hbody : CommentFree r.body) :
    Solid (bodyTokens (splitDeclarations r.body)) ∧
      BraceFree (bodyTokens (splitDeclarations r.body)) := by
  have hopen : .char '{' ∉ b := by
    have := h.nested.symm.trans hn
    simpa using this
  have hfree : BraceFree b := braceFree_of_balanced h.block.balanced hopen
  have hds : ∀ d ∈ splitDeclarations r.body, Rereadable d ∧ quoteTokens d ⊆ b := by
    intro d hd
    rw [h.body] at hd hbody
    exact rereadable_of_mem h.block.allSealed.2 hbody hd
  refine ⟨solid_bodyTokens fun d hd => (hds d hd).1.solid, ?_⟩
  refine forall_mem_bodyTokens ?_ ?_ ?_ fun d hd k hk => hfree k ((hds d hd).2 hk)
  · simp [Token.IsBrace]
  · simp [Token.IsBrace]
  · simp [Token.IsBrace]

lemma plain_written_body {css : Text} {r : Rule} {p b : List Token} (h : IsRead css r p b)
    (hbody : CommentFree r.body) : Plain (bodyTokens (splitDeclarations r.body)) := by
  refine forall_mem_bodyTokens (by decide) (by decide) (by decide) fun d hd => ?_
  rw [h.body] at hd hbody
  exact (rereadable_of_mem h.block.allSealed.2 hbody hd).1.plain

lemma selectorOf_blank {m : List Token} (hp : Plain m) (ht : Text.Trimmed (spell m)) :
    selectorOf (m ++ [.char ' ']) = spell m := by
  have hblank : dropComments [.char ' '] = [.char ' '] := rfl
  rw [selectorOf, dropComments_append, hp.dropComments_eq, hblank, spell_append,
    Text.strip_append_blank (allBlank_spell (by decide)), Text.strip_of_trimmed ht]

/-- Any other rule is written without comments, with a space behind the selector. -/
lemma exists_written_flat {css : Text} {r : Rule} {p b : List Token} (h : IsRead css r p b)
    (hn : r.nested = false) (hseam : Seamless r) :
    ∃ m, Plain m ∧ IsWritten css r (m ++ [.char ' ']) (bodyTokens (splitDeclarations r.body)) := by
  obtain ⟨hsel, hbody⟩ := hseam hn
  obtain ⟨m, hm⟩ := exists_leaves h.block.allSealed.1
  have hselm : r.selector = spell m := by rw [h.selector, selectorOf, hm.text]
  have hmp : BraceFree (m ++ [.char ' ']) :=
    List.forall_mem_append.mpr ⟨fun k hk => h.block.braceFree k (hm.subset hk),
      by simp [Token.IsBrace]⟩
  have hms : Solid (m ++ [.char ' ']) :=
    (solid_of_commentFree hm.sealed (hselm ▸ hsel)).append_char (by decide) (by decide)
  obtain ⟨hcs, hcf⟩ := solid_written_body h hn hbody
  have hblank : AllBlank [.char ' '] := by decide
  refine ⟨m, hm.plain, isBlock_of_braceFree hms hmp hcs hcf, ?_, ?_, ?_, ?_, fun _ => rfl⟩
  · rw [Rule.format, hn, layOut_flat, hselm, Item.tokens]
    simp [Token.text]
  · rw [selectorOf_blank hm.plain hm.trimmed, hselm]
  · rw [hn]
    simpa using fun hk => hcf _ hk (.inl rfl)
  · rw [h.selector]
    refine semicolonFree_prelude h.block.allSealed.1 ?_
    rw [essence_append, hblank.void.essence_eq, List.append_nil, hm.essence]

lemma exists_written {css : Text} {r : Rule} (hr : r ∈ parseRules css) (hb : r.hasBlock = true)
    (hseam : Seamless r) : ∃ q c, IsWritten css r q c := by
  obtain ⟨p, b, h⟩ := exists_read hr hb
  cases hn : r.nested with
  | true =>
    obtain ⟨_, q, -, -, -, hw⟩ := exists_written_nested h hn
    exact ⟨q, b, hw⟩
  | false =>
    obtain ⟨m, -, hw⟩ := exists_written_flat h hn hseam
    exact ⟨_, _, hw⟩

lemma splitDeclarations_written {css : Text} {r : Rule} {q c : List Token} {p b : List Token}
    (h : IsRead css r p b) (hw : IsWritten css r q c) (hn : r.nested = false)
    (hseam : Seamless r) (hstable : Stable r) :
    splitDeclarations (spell (dropComments c)).strip = splitDeclarations r.body := by
  obtain ⟨m, hm⟩ := exists_leaves h.block.allSealed.2
  have hbody := (hseam hn).2
  have hparens := hstable.parens hn
  have hall : ∀ d ∈ splitDeclarations r.body, Rereadable d ∧ Whole 0 (quoteTokens d) := by
    intro d hd
    rw [h.body] at hd hbody hparens
    refine ⟨(rereadable_of_mem h.block.allSealed.2 hbody hd).1, ?_⟩
    rw [hm.text] at hd hparens
    rw [hm.reread] at hparens
    exact whole_of_mem_splitDeclarations hm.sealed hm.plain hparens hd
  rw [hw.declarations hn, (plain_written_body h hbody).dropComments_eq,
    splitDeclarations_bodyTokens hall]

/-! ### What comes before the rules that stay -/

/-- What separates two parts of the output. -/
def separator : Text := ['\n', '\n']

/-- Texts, each with a blank line behind it. -/
def separated (ts : List Text) : Text := ts.flatMap (· ++ separator)

def separatorTokens : List Token := [.char '\n', .char '\n']

lemma solid_separator : Solid separatorTokens :=
  (solid_char (by decide)).append_char (by decide) (by decide)

lemma allTrivia_separator : AllTrivia separatorTokens := by
  simp [AllTrivia, separatorTokens, Token.isTrivia]

lemma separated_cons (t : Text) (ts : List Text) :
    separated (t :: ts) = t ++ (spell separatorTokens ++ separated ts) := by
  simp [separated, separator, separatorTokens, Token.text]

lemma separated_singleton (t : Text) : separated [t] = t ++ spell separatorTokens := by
  rw [separated_cons, separated, List.flatMap_nil, List.append_nil]

lemma separated_append (ts us : List Text) :
    separated (ts ++ us) = separated ts ++ separated us := List.flatMap_append ..

lemma exists_nonBlank {ts : List Token} (hs : Solid ts) :
    ∃ us, (∀ k ∈ us, k ∈ ts ∨ k = .char '\n') ∧ Solid us ∧
      separated (nonBlank (spell ts)) = spell us := by
  obtain ⟨a, m, b, rfl, -, -, hstrip, -⟩ := exists_strip_spell hs.sealed
  rw [nonBlank, hstrip]
  split
  · exact ⟨[], by simp, solid_nil, rfl⟩
  · have hm : Solid m := hs.of_isInfix ⟨a, b, by simp⟩
    refine ⟨m ++ separatorTokens, fun k hk => ?_, hm.append solid_separator fun _ => ?_, ?_⟩
    · simp only [separatorTokens, List.mem_append, List.mem_cons, List.not_mem_nil, or_false,
        or_self] at hk ⊢
      tauto
    · simp [separatorTokens]
    · rw [separated_singleton, spell_append]

lemma lead_tail {t : Text} (h : IsVoid t) : ∃ ts, Lead (separated (nonBlank t)) ts := by
  obtain ⟨us, hmem, hs, hus⟩ := exists_nonBlank (solid_tokens h.2)
  rw [spell_tokens] at hus
  refine ⟨us, hus ▸ lead_void hs fun k hk => ?_⟩
  rcases hmem k hk with hk | rfl
  · exact h.1 k hk
  · decide

lemma lead_gap_append {t : Text} {ts g : List Token} (h : Lead t ts) (hs : Solid g)
    (hg : AllTrivia g) : ∃ us, Lead (separated (nonBlank (spell g)) ++ t) us := by
  obtain ⟨us, hmem, hs, hus⟩ := exists_nonBlank hs
  refine ⟨us ++ ts, hus ▸ h.trivia_append hs fun k hk => ?_⟩
  rcases hmem k hk with hk | rfl
  · exact hg k hk
  · decide

lemma trimmed_statement {p : List Token} (hs : AllSealed (Item.statement p).tokens)
    (hp : p.head? = some (.char '@')) : Text.Trimmed (spell (Item.statement p).tokens) := by
  obtain ⟨ts, rfl⟩ := List.head?_eq_some_iff.mp hp
  refine trimmed_spell hs ?_ ?_
  · rintro k hk
    obtain rfl : Token.char '@' = k := by simpa [Item.tokens] using hk
    decide
  · rintro k hk
    obtain rfl : Token.char ';' = k := by simpa [Item.tokens, List.getLast?_cons] using hk
    decide

/-- Whatever is carried over is a lead if what stands behind the last rule is one. -/
lemma lead_recovered {css s : Text} {n : Nat} {ps : List Piece} (h : StandsAt css n ps s)
    (hs : Solid (piecesTokens ps)) (hv : IsVoid s) :
    ∃ ts, Lead (separated (recoveredFrom css n (alongPieces Piece.rule n ps))) ts := by
  induction ps generalizing n with
  | nil =>
    have hd : css.drop n = s := by simpa using h.drop
    rw [alongPieces, recoveredFrom, hd]
    exact lead_tail hv
  | cons p ps ih =>
    -- what comes from the first piece goes before the lead that the others make
    rw [piecesTokens_cons] at hs
    obtain ⟨ts, hts⟩ := ih h.next (hs.of_isInfix ⟨p.gap ++ p.item.tokens, [], by simp⟩)
    have hgap : Solid p.gap := hs.of_isInfix ⟨[], p.item.tokens ++ piecesTokens ps, by simp⟩
    have hitem : Solid p.item.tokens := hs.of_isInfix ⟨p.gap, piecesTokens ps, by simp⟩
    have hcut : (css.drop n).take (p.start n - n) = spell p.gap := by
      rw [← Text.slice_eq, h.gap_text]
    rw [alongPieces, recoveredFrom, Piece.rule_start, hcut, Piece.rule_stop, Piece.rule_hasBlock,
      h.source, List.append_assoc, separated_append, separated_append]
    have hvalid := p.valid
    cases hi : p.item with
    | block q b => exact lead_gap_append hts hgap p.trivia
    | statement q =>
      rw [hi] at hitem hvalid
      have hsep := hts.trivia_append solid_separator allTrivia_separator
      have hone : separated [(spell (Item.statement q).tokens).strip] =
          spell (Item.statement q).tokens ++ spell separatorTokens := by
        rw [Text.strip_of_trimmed (trimmed_statement hitem.sealed hvalid.1), separated_singleton]
      have hstmt := hsep.statement_append hitem hvalid
      rw [← List.append_assoc, ← hone] at hstmt
      exact lead_gap_append hstmt hgap p.trivia

lemma lead_written {css t : Text} {ts : List Token} (h : Lead t ts) {rs : List Rule}
    (hrs : ∀ r ∈ rs, ∃ q c, IsWritten css r q c) :
    ∃ us, Lead (t ++ separated (rs.map fun r => r.format css)) us := by
  induction rs generalizing t ts with
  | nil => exact ⟨ts, by simpa [separated] using h⟩
  | cons r rs ih =>
    obtain ⟨⟨q, c, hw⟩, hrs⟩ := List.forall_mem_cons.mp hrs
    obtain ⟨us, hus⟩ := ih (h.append_block hw.block solid_separator allTrivia_separator.void) hrs
    refine ⟨us, ?_⟩
    rw [List.map_cons, separated_cons, hw.format, ← List.append_assoc (spell _),
      ← List.append_assoc]
    exact hus

/-! ### The output -/

lemma assemble_append_cons (ts us : List Text) (t : Text) :
    ∃ rest, assemble (ts ++ t :: us) = separated ts ++ (t ++ rest) := by
  have hjoin := Text.join_append_cons separator t ts us
  rw [assemble]
  split
  · exact ⟨_, hjoin⟩
  · refine ⟨us.flatMap (separator ++ ·) ++ ['\n'], ?_⟩
    change Text.join separator (ts ++ t :: us) ++ ['\n'] = _
    rw [hjoin]
    simp [separated]

lemma mem_kept {c : Config} {used : TextSet} {css : Text} {r : Rule}
    (h : r ∈ kept c used (parseRules css)) : r ∈ parseRules css ∧ r.hasBlock = true := by
  obtain ⟨hr, hk⟩ := List.mem_filter.mp h
  exact ⟨hr, (Bool.and_eq_true_iff.mp hk).1⟩

lemma keeps_of_mem_kept {c : Config} {used : TextSet} {css : Text} {r : Rule}
    (h : r ∈ kept c used (parseRules css)) : c.keeps used r = true :=
  (Bool.and_eq_true_iff.mp (List.mem_filter.mp h).2).2

/-- **A rule that stays is read again** if nothing but blanks and closed comments follows the last
rule of the stylesheet, and if comments taken out of this rule and those that stay before it have
not made new ones. -/
theorem readAgain_purge {c : Config} {used : TextSet} {css : Text} {before after : List Rule}
    {r : Rule} (hon : c.enabled = true) (htail : IsVoid (afterRules (parseRules css) css))
    (hkept : kept c used (parseRules css) = before ++ r :: after)
    (hseam : ∀ q ∈ before ++ [r], Seamless q) (hstable : Stable r) :
    ReadAgain (c.purge used css) r := by
  have hmem : ∀ q ∈ before ++ [r], q ∈ parseRules css ∧ q.hasBlock = true := by
    intro q hq
    refine @mem_kept c used css q (hkept ▸ ?_)
    rw [← List.singleton_append, ← List.append_assoc]
    exact List.mem_append_left _ hq
  have hwritten : ∀ q ∈ before ++ [r], ∃ p b, IsWritten css q p b := fun q hq =>
    exists_written (hmem q hq).1 (hmem q hq).2 (hseam q hq)
  -- what is carried over, and then the rules before `r`, are a lead for `r`
  obtain ⟨ps, s, hps, -, hrules, hafter⟩ := exists_longest css
  obtain ⟨ts, hts⟩ := lead_recovered ⟨Nat.zero_le _, hps.spell_append⟩ hps.solid (hafter ▸ htail)
  obtain ⟨us, hus⟩ := lead_written hts fun q hq => hwritten q (List.mem_append_left _ hq)
  have hr : r ∈ before ++ [r] := by simp
  obtain ⟨p, b, hw⟩ := hwritten r hr
  obtain ⟨p', b', hread⟩ := exists_read (hmem r hr).1 (hmem r hr).2
  obtain ⟨rest, hrest⟩ := assemble_append_cons
    (recoveredFrom css 0 (parseRules css) ++ before.map fun q => q.format css)
    (after.map fun q => q.format css) (r.format css)
  have hout : c.purge used css =
      separated (recoveredFrom css 0 (parseRules css) ++ before.map fun q => q.format css) ++
        (spell (Item.block p b).tokens ++ rest) := by
    rw [← hw.format, ← hrest, Config.purge, if_pos hon, blocks, hkept]
    simp
  have hat : isAtSelector (selectorOf p) → SemicolonFree 0 p := by
    intro h
    rw [hw.selector] at h
    exact hw.semicolons (hstable.semicolons h)
  rw [hout, separated_append, hrules]
  obtain ⟨r', hr', hblock, hsel, hbody, hnested⟩ := hus.exists_rule hw.block hat rest
  refine ⟨r', hr', hblock, hsel.trans hw.selector, hnested.trans hw.nested, fun hn => ?_⟩
  rw [hbody, splitDeclarations_written hread hw hn (hseam r hr) hstable]

/-- A statement, two rules, and a comment behind a blank. -/
def twoRules : Text :=
  ['@', 'x', ';', '.', 'b', '{', '}', '.', 'a', '{', 'x', ':', 'y', '}', '\u00a0', '/', '*', '*',
    '/']

def bothUsed : TextSet := TextSet.ofList [['a'], ['b']]

/-- The second rule is read again behind the statement, the comment and the first rule. -/
theorem readAgain_two_rules :
    IsVoid (afterRules (parseRules twoRules) twoRules) ∧
      kept Config.default bothUsed (parseRules twoRules) =
        [⟨['.', 'b'], [], 3, 7, true, false⟩] ++
          ⟨['.', 'a'], ['x', ':', 'y'], 7, 14, true, false⟩ :: [] ∧
      ReadAgain (Config.default.purge bothUsed twoRules)
        ⟨['.', 'a'], ['x', ':', 'y'], 7, 14, true, false⟩ := by
  have htokens : tokens (afterRules (parseRules twoRules) twoRules) =
      [.char '\u00a0', .comment ['/', '*', '*', '/']] := by decide +kernel
  have htail : IsVoid (afterRules (parseRules twoRules) twoRules) := by
    rw [IsVoid, htokens]
    refine ⟨by decide, allSealed_cons.mpr ⟨.char (by decide), allSealed_cons.mpr ⟨?_, by simp⟩⟩⟩
    exact Token.Sealed.comment (b := []) (by decide)
  have hkept : kept Config.default bothUsed (parseRules twoRules) =
      [⟨['.', 'b'], [], 3, 7, true, false⟩] ++
        ⟨['.', 'a'], ['x', ':', 'y'], 7, 14, true, false⟩ :: [] := by decide +kernel
  refine ⟨htail, hkept, readAgain_purge rfl htail hkept (by decide +kernel) ⟨?_, ?_⟩⟩
  · exact fun h => absurd h (by decide)
  · exact fun _ => by decide +kernel

/-- With both classes in use, a rule that stays is not read again. -/
def Loses (css : Text) : Prop :=
  ∃ r ∈ kept Config.default bothUsed (parseRules css),
    ¬ ReadAgain (Config.default.purge bothUsed css) r

instance (css : Text) : Decidable (Loses css) := List.decidableBEx _ _

/-- **None of the conditions can be left out.** The rule is lost behind an open block, an open
comment, an open string and a lone prelude; it is changed where a slash comes to stand before a
star, where a parenthesis does not close, and where a blank hides that its selector is an
at-rule's. -/
theorem loses_rules :
    Loses ['.', 'a', '{', '}', '.', 'b', '{'] ∧ Loses ['.', 'a', '{', '}', '/', '*'] ∧
      Loses ['.', 'a', '{', '}', '"'] ∧ Loses ['.', 'a', '{', '}', 'b'] ∧
      Loses ['.', 'a', '/', '/', '*', '*', '/', '*', '{', '}'] ∧
      Loses ['.', 'a', '{', 'x', ':', '(', 'b', ';', 'c', '}'] ∧
      Loses ['\u00a0', '@', 'x', ';', '.', 'a', '{', '}'] := by
  decide +kernel

end ClassPurge.Purge
