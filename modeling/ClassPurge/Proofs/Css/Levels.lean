import ClassPurge.Proofs.Css.Sheet
import ClassPurge.Proofs.OutputClasses

/-!
The classes of a stylesheet that is written from a tree. Its text is read level by level: a line
that begins with `@` is a statement, any other goes into the prelude of the next block, or into what
is left behind the last. So the classes of the text are found by going through the tree, with what
has been passed over since the last rule.
-/

namespace ClassPurge.Css

/-! ### One level, rule by rule -/

/-- What is found one level further down, where there is room for it. -/
def ifRoom (room : Nat) (found : Nat → List Text) : List Text :=
  match room with
  | 0 => []
  | room + 1 => found room

/-- The classes of a level are those of its pieces, wherever these stand, and of what they leave. -/
lemma Decomposes.levelClasses_eq {css r : Text} {ps : List Piece} (h : Decomposes css ps r)
    (hst : Stuck (tokens r)) (room : Nat) :
    levelClasses room css =
      ps.flatMap (fun p => ruleClasses room (p.rule 0)) ++ looseClasses r := by
  have hmoved (n : Nat) : (alongPieces Piece.rule n ps).flatMap (ruleClasses room) =
      ps.flatMap fun p => ruleClasses room (p.rule 0) := by
    clear h
    induction ps generalizing n with
    | nil => rfl
    | cons p ps ih =>
      have hrule : p.rule n = (p.rule 0).shift (n - 0) := by
        rw [Piece.rule, Piece.rule, ← Item.rule_shift]
        simp [Piece.start]
      rw [alongPieces, List.flatMap_cons, ih, List.flatMap_cons, hrule]
      rfl
  rw [levelClasses, h.afterRules_eq hst, h.parseRules_eq hst, hmoved]

lemma levelClasses_stuck {css : Text} (h : Stuck (tokens css)) (room : Nat) :
    levelClasses room css = looseClasses css := by
  have hcss : Decomposes css [] css := .nil css
  exact hcss.levelClasses_eq h room

/-- **The classes of the first rule come first**, and then those of what follows it. -/
lemma levelClasses_piece {css rest : Text} {p : Piece}
    (h : Tokenizes css (p.gap ++ p.item.tokens) rest) (room : Nat) :
    levelClasses room css = ruleClasses room (p.rule 0) ++ levelClasses room rest := by
  obtain ⟨ps, r, hps, hst, -⟩ := exists_longest rest
  have hcss : Decomposes css (p :: ps) r := h.append hps
  rw [hcss.levelClasses_eq hst, hps.levelClasses_eq hst, List.flatMap_cons, List.append_assoc]

lemma ruleClasses_block {p : Piece} {q b : List Token} (hp : p.item = .block q b) (room : Nat) :
    ruleClasses room (p.rule 0) =
      (if isAtSelector (selectorOf q) then [] else selectorClasses (selectorOf q)) ++
        ifRoom room fun room =>
          if .char '{' ∈ b then classNamesWithin room (spell (dropComments b)).strip else [] := by
  have hrule : p.rule 0 = (Item.block q b).rule (p.start 0) := by rw [Piece.rule, hp]
  have hblock : ((Item.block q b).rule (p.start 0)).hasBlock = true := rfl
  have hnested : ((Item.block q b).rule (p.start 0)).nested = decide (.char '{' ∈ b) :=
    Item.rule_nested _ _
  rw [hrule, ruleClasses, if_pos hblock]
  congr 1
  cases room with
  | zero => rfl
  | succ room =>
    rw [innerClasses, hnested, ifRoom]
    simp only [decide_eq_true_eq]
    rfl

/-! ### At-rules -/

/-- Text is an at-rule or not by its first character that is not blank. -/
lemma isAtSelector_append {t : Text} (h : ¬ Text.AllBlank t) (u : Text) :
    isAtSelector (t ++ u).strip = isAtSelector t.strip := by
  have hne : (t.stripStart).isEmpty = false := by
    rw [List.isEmpty_eq_false_iff]
    exact fun hnil => h (List.dropWhile_eq_nil_iff.mp hnil)
  have hstart : (t ++ u).stripStart = t.stripStart ++ u := by
    rw [Text.stripStart, List.dropWhile_append, ← Text.stripStart, if_neg (by simp [hne])]
  have hhead : (t.stripStart ++ u).head? = t.stripStart.head? := by
    cases hs : t.stripStart with
    | nil => simp [hs] at hne
    | cons c r => rfl
  rw [isAtSelector, isAtSelector, Text.head?_strip_eq, Text.head?_strip_eq, hstart, hhead]

lemma isAtSelector_semicolon {t : Text} (h : isAtSelector t.strip = false) (u : Text) :
    isAtSelector (t ++ ';' :: u).strip = false := by
  by_cases hblank : Text.AllBlank t
  · rw [Text.strip_blank_append hblank, isAtSelector, Text.head?_strip (by decide)]
    rfl
  · rw [isAtSelector_append hblank, h]

lemma isAtSelector_trivia {gap : List Token} (hg : AllTrivia gap) (hp : Plain gap) (u : Text) :
    isAtSelector (spell gap ++ '@' :: u).strip = true := by
  have hblank : Text.AllBlank (spell gap) := by
    have := allBlank_spell hg.void.allBlank_dropComments
    rwa [hp.dropComments_eq] at this
  rw [Text.strip_blank_append hblank, isAtSelector, Text.head?_strip (by decide)]
  rfl

/-- With the semicolon behind it the text is a statement. -/
structure IsStatement (t : Text) : Prop where
  starts : ((tokens t).dropWhile Token.isTrivia).head? = some (.char '@')
  whole : Whole 0 (tokens t)

instance (t : Text) : Decidable (IsStatement t) :=
  decidable_of_iff
    (((tokens t).dropWhile Token.isTrivia).head? = some (.char '@') ∧ Whole 0 (tokens t))
    ⟨fun ⟨hs, hw⟩ => ⟨hs, hw⟩, fun h => ⟨h.starts, h.whole⟩⟩

lemma IsStatement.exists_at {t : Text} (h : IsStatement t) :
    ∃ gap q, tokens t = gap ++ .char '@' :: q ∧ AllTrivia gap := by
  obtain ⟨gap, us, hcut, hg, hus⟩ := exists_trivia (tokens t)
  have hstarts := h.starts
  rw [hcut, dropWhile_trivia hg hus] at hstarts
  obtain ⟨q, rfl⟩ := List.head?_eq_some_iff.mp hstarts
  exact ⟨gap, q, hcut, hg⟩

lemma IsStatement.isAt {t : Text} (h : IsStatement t) (ht : IsPhrase t) :
    isAtSelector t.strip = true := by
  obtain ⟨gap, q, hcut, hg⟩ := h.exists_at
  have hplain : Plain gap := (plain_append.mp (hcut ▸ ht.plain)).1
  have htext : t = spell gap ++ '@' :: spell q := by
    have := congrArg spell hcut
    simpa [Token.text] using this
  rw [htext]
  exact isAtSelector_trivia hg hplain _

namespace Sheet

/-- What begins with `@` is a statement, or a prelude that no semicolon ends. It matters only at
levels that are looked into. -/
def Readable : Sheet → Prop
  | tail t => isAtSelector t.strip = false
  | line t s => (isAtSelector t.strip = true → IsStatement t) ∧ s.Readable
  | block p _ i _ s =>
    (isAtSelector p.strip = true → SemicolonFree 0 (Css.tokens p)) ∧
      (i.hasBlocks = true → i.Readable) ∧ s.Readable

/-- The classes of the tree, with blocks looked into down to `room` levels; `lead` is what stands
between the last rule and here. -/
def classes (room : Nat) (lead : Text) : Sheet → List Text
  | tail t => looseClasses (lead ++ t)
  | line t s =>
    if isAtSelector (lead ++ t).strip then s.classes room []
    else s.classes room (lead ++ t ++ [';'])
  | block p _ i _ s =>
    (if isAtSelector (lead ++ p).strip then [] else selectorClasses (lead ++ p).strip) ++
      ifRoom room (fun room => if i.hasBlocks then (i.classes room []).eraseDups else []) ++
      s.classes room []

/-! ### The tree read back -/

/-- What may stand between the last rule and here. It begins no at-rule, so it ends none of the
rules that follow. -/
structure Passed (lead : List Token) : Prop where
  plain : Plain lead
  braceFree : BraceFree lead
  passive : lead = [] ∨ ∀ u, isAtSelector (spell lead ++ u).strip = false

lemma passed_nil : Passed [] := ⟨by simp [Plain], braceFree_nil, .inl rfl⟩

variable {lead : List Token} {t : Text}

lemma Passed.line (h : Passed lead) (ht : IsPhrase t)
    (hat : isAtSelector (spell lead ++ t).strip = false) :
    Passed (lead ++ (Css.tokens t ++ [.char ';'])) := by
  refine ⟨plain_append.mpr ⟨h.plain, plain_append.mpr ⟨ht.plain, by simp [Plain, Token.isComment]⟩⟩,
    braceFree_append.mpr ⟨h.braceFree, braceFree_append.mpr ⟨ht.braceFree, ?_⟩⟩, .inr fun u => ?_⟩
  · simp [BraceFree, Token.IsBrace]
  · have := isAtSelector_semicolon hat u
    simpa [Token.text] using this

lemma Passed.eq_nil (h : Passed lead) (hat : isAtSelector (spell lead ++ t).strip = true) :
    lead = [] := by
  rcases h.passive with hnil | hpassive
  · exact hnil
  · rw [hpassive] at hat
    cases hat

lemma Passed.stuck (h : Passed lead) (ht : IsPhrase t)
    (hat : isAtSelector (spell lead ++ t).strip = false) : Stuck (lead ++ Css.tokens t) := by
  intro p r hp
  have hbrace : BraceFree (lead ++ Css.tokens t) := braceFree_append.mpr ⟨h.braceFree, ht.braceFree⟩
  rw [hp] at hbrace
  cases hitem : p.item with
  | block q b => exact (hitem ▸ hbrace).not_mem_open (by simp [Item.tokens])
  | statement q =>
    have hvalid := p.valid
    rw [hitem] at hvalid hp
    obtain ⟨q, rfl⟩ := List.head?_eq_some_iff.mp hvalid.1
    have hgap : Plain p.gap := by
      have hplain : Plain (lead ++ Css.tokens t) := plain_append.mpr ⟨h.plain, ht.plain⟩
      exact (plain_append.mp (hp ▸ hplain)).1
    have htext : spell lead ++ t = spell p.gap ++ '@' :: (spell q ++ ';' :: spell r) := by
      have := congrArg spell hp
      simpa [Item.tokens, Token.text] using this
    rw [htext, isAtSelector_trivia p.trivia hgap] at hat
    cases hat

lemma Passed.not_at (h : Passed lead) (hat : isAtSelector t.strip = false) :
    isAtSelector (spell lead ++ t).strip = false := by
  rcases h.passive with rfl | hpassive
  · exact hat
  · exact hpassive t

lemma exists_piece_statement (h : IsStatement t) (ht : IsPhrase t) :
    ∃ p : Piece, p.item.hasBlock = false ∧
      Css.tokens t ++ [.char ';'] = p.gap ++ p.item.tokens := by
  obtain ⟨gap, q, hcut, hg⟩ := h.exists_at
  let prelude := .char '@' :: q
  have hwhole : Whole 0 prelude := by
    rw [← whole_essence, ← essence_void_append hg.void, ← hcut, whole_essence]
    exact h.whole
  have hbrace : BraceFree prelude := (braceFree_append.mp (hcut ▸ ht.braceFree)).2
  have hclosed : Closed (Item.statement prelude).tokens :=
    closed_append.mpr ⟨(closed_append.mp (hcut ▸ ht.closed)).2,
      by simp [Closed, Token.IsUnclosed]⟩
  refine ⟨⟨gap, .statement prelude, hg, ⟨rfl, hbrace, hwhole.1, hwhole.2⟩, hclosed,
    startsRule_statement rfl⟩, rfl, ?_⟩
  rw [hcut, List.append_assoc]
  rfl

lemma levelClasses_spell {p : Piece} {ts : List Token}
    (h : Solid (p.gap ++ p.item.tokens ++ ts)) (room : Nat) :
    levelClasses room (spell (p.gap ++ p.item.tokens ++ ts)) =
      ruleClasses room (p.rule 0) ++ levelClasses room (spell ts) := by
  have hfirst : Solid (p.gap ++ p.item.tokens) := h.of_isInfix (List.prefix_append _ ts).isInfix
  have hlast : (p.gap ++ p.item.tokens).getLast? ≠ some (.char '/') := by
    simpa using getLast?_piecesTokens [p]
  rw [spell_append]
  exact levelClasses_piece (tokenizes_spell hfirst.sealed hfirst.apart fun hl => absurd hl hlast)
    room

/-- The body of a block, as it is read: the blanks at its ends are gone. -/
lemma strip_padded {i : Sheet} {a b : Text} (hi : i.Sound) (htrim : Text.Trimmed i.write)
    (ha : Text.AllBlank a) (hb : Text.AllBlank b) :
    (spell (dropComments (Css.tokens a ++ (i.tokens ++ Css.tokens b)))).strip = i.write := by
  rw [(hi.reads.padded ha hb).plain.dropComments_eq, spell_append, spell_append, Css.spell_tokens,
    Css.spell_tokens, i.spell_tokens, Text.strip_blank_append ha, Text.strip_append_blank hb,
    Text.strip_of_trimmed htrim]

/-- **The classes of a level are those of the tree.** -/
lemma levelClasses_eq {s : Sheet} (hs : s.Sound) (hr : s.Readable) {lead : List Token}
    (hlead : Passed lead) (hsolid : Solid (lead ++ s.tokens)) (room : Nat) :
    levelClasses room (spell (lead ++ s.tokens)) = s.classes room (spell lead) := by
  induction s generalizing lead room with
  | tail t =>
    have hstuck := hlead.stuck hs (hlead.not_at hr)
    rw [tokens] at hsolid ⊢
    rw [← hsolid.tokens_spell] at hstuck
    rw [levelClasses_stuck hstuck, classes, spell_append, Css.spell_tokens]
  | line t s ih =>
    obtain ⟨ht, hs⟩ := hs
    obtain ⟨hstatement, hr⟩ := hr
    rw [classes]
    split
    · rename_i hat
      obtain rfl := hlead.eq_nil hat
      obtain ⟨p, hp, hcut⟩ := exists_piece_statement (hstatement hat) ht
      have htokens : [] ++ (line t s).tokens = p.gap ++ p.item.tokens ++ s.tokens := by
        simp [tokens, ← hcut]
      have hrest : Solid ([] ++ s.tokens) := hsolid.of_isInfix
        (htokens ▸ (List.suffix_append _ s.tokens).isInfix)
      have hnone : ruleClasses room (p.rule 0) = [] := by simp [ruleClasses, hp]
      rw [htokens] at hsolid ⊢
      rw [levelClasses_spell hsolid, hnone]
      exact ih hs hr passed_nil hrest room
    · rename_i hat
      have hat : isAtSelector (spell lead ++ t).strip = false := by simpa using hat
      have htokens : lead ++ (line t s).tokens =
          lead ++ (Css.tokens t ++ [.char ';']) ++ s.tokens := by simp [tokens]
      rw [htokens] at hsolid ⊢
      rw [ih hs hr (hlead.line ht hat) hsolid room]
      simp [Token.text]
  | block p a i b s ihi ihs =>
    obtain ⟨hp, ha, hi, htrim, hb, hs⟩ := hs
    obtain ⟨hsc, hri, hr⟩ := hr
    let body := Css.tokens a ++ (i.tokens ++ Css.tokens b)
    let q := lead ++ Css.tokens p
    have hbody : Reads body := hi.reads.padded ha hb
    have hq : Plain q := plain_append.mpr ⟨hlead.plain, hp.plain⟩
    have hselector : selectorOf q = (spell lead ++ p).strip := by
      rw [selectorOf, hq.dropComments_eq, spell_append, Css.spell_tokens]
    have htokens : lead ++ (block p a i b s).tokens = (Item.block q body).tokens ++ s.tokens := by
      simp [tokens, Item.tokens, q, body]
    rw [htokens] at hsolid ⊢
    have hitem : Solid (Item.block q body).tokens :=
      hsolid.of_isInfix (List.prefix_append _ s.tokens).isInfix
    have hrest : Solid ([] ++ s.tokens) := hsolid.of_isInfix (List.suffix_append _ s.tokens).isInfix
    have hat : isAtSelector (selectorOf q) → SemicolonFree 0 q := by
      rw [hselector]
      intro hat
      obtain rfl := hlead.eq_nil hat
      exact hsc hat
    obtain ⟨piece, q', hpiece, hsel, hcut⟩ := exists_piece_block (v := []) (by simp [Void])
      closed_nil hitem.closed (braceFree_append.mpr ⟨hlead.braceFree, hp.braceFree⟩)
      hbody.balanced hat
    rw [List.nil_append] at hcut
    rw [hcut] at hsolid ⊢
    have hinner (room : Nat) (hblocks : i.hasBlocks = true) :
        classNamesWithin room i.write = (i.classes room []).eraseDups := by
      rw [classNamesWithin_eq, ← i.spell_tokens]
      exact congrArg List.eraseDups (ihi hi (hri hblocks) passed_nil hi.reads.solid room)
    rw [levelClasses_spell hsolid, ruleClasses_block hpiece, hsel, hselector, classes]
    simp only [body, hi.mem_open_padded ha hb, strip_padded hi htrim ha hb]
    congr 1
    · congr 2
      funext room
      split
      · rename_i hblocks
        exact hinner room hblocks
      · rfl
    · exact ihs hs hr passed_nil hrest room

/-- **The classes of a stylesheet that is written from a tree** are found by going through it. -/
theorem classNamesWithin_write {s : Sheet} (hs : s.Sound) (hr : s.Readable) (room : Nat) :
    classNamesWithin room s.write = (s.classes room []).eraseDups := by
  rw [classNamesWithin_eq, ← s.spell_tokens]
  exact congrArg List.eraseDups (levelClasses_eq hs hr passed_nil hs.reads.solid room)

end Sheet

end ClassPurge.Css
