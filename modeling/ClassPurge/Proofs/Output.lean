import ClassPurge.Proofs.Css.Concatenation
import ClassPurge.Proofs.Rewriting

/-!
What purging writes, as pieces. First come the statements, each with the comments before it as its
gap, then the rules that stay; the comments behind the last statement go into the gap of the first
rule that stays. Read again, the text is these pieces, and what is carried over of them is what was
carried over before.
-/

namespace ClassPurge.Purge

open Css

/-- Blanks and closed comments between rules. -/
def IsRemark (t : Text) : Prop := AllTrivia (tokens t) ∧ AllSealed (tokens t)

def carriedItem (i : Item) : List Text := if i.hasBlock then [] else [spell i.tokens]

/-- What is carried over of the pieces. -/
def carried (ps : List Piece) : List Text :=
  ps.flatMap fun p => nonBlank (spell p.gap) ++ carriedItem p.item

@[simp] lemma carried_nil : carried [] = [] := rfl

@[simp] lemma carried_cons (p : Piece) (ps : List Piece) :
    carried (p :: ps) = nonBlank (spell p.gap) ++ (carriedItem p.item ++ carried ps) := by
  simp [carried]

@[simp] lemma carried_append (ps qs : List Piece) : carried (ps ++ qs) = carried ps ++ carried qs :=
  List.flatMap_append ..

@[simp] lemma separated_nil : separated [] = [] := rfl

/-! ### What is carried over of a stylesheet -/

lemma nonBlank_of_allBlank {t : Text} (h : Text.AllBlank t) : nonBlank t = [] := by
  rw [nonBlank, Text.strip_eq_nil h]
  rfl

lemma recoveredFrom_pieces {css s : Text} {n : Nat} {ps : List Piece} (h : StandsAt css n ps s)
    (hs : Solid (piecesTokens ps)) :
    recoveredFrom css n (alongPieces Piece.rule n ps) = carried ps ++ nonBlank s := by
  induction ps generalizing n with
  | nil =>
    have hd : css.drop n = s := by simpa using h.drop
    rw [alongPieces, recoveredFrom, hd, carried_nil, List.nil_append]
  | cons p ps ih =>
    rw [piecesTokens_cons] at hs
    have hitem : Solid p.item.tokens := hs.of_isInfix ⟨p.gap, piecesTokens ps, by simp⟩
    have hcut : (css.drop n).take (p.start n - n) = spell p.gap := by
      rw [← Text.slice_eq, h.gap_text]
    have hone : (if p.item.hasBlock then [] else [(spell p.item.tokens).strip]) =
        carriedItem p.item := by
      have hvalid := p.valid
      cases hi : p.item with
      | block q b => rfl
      | statement q =>
        rw [hi] at hitem hvalid
        rw [Text.strip_of_trimmed (trimmed_statement hitem.sealed hvalid.1)]
        rfl
    rw [alongPieces, recoveredFrom, Piece.rule_start, hcut, Piece.rule_stop, Piece.rule_hasBlock,
      h.source, hone, ih h.next (hs.of_isInfix ⟨p.gap ++ p.item.tokens, [], by simp⟩), carried_cons]
    simp

/-! ### Comments on their way to the next rule -/

/-- Trivia as purging writes them: every comment, or group of comments, stripped and with a blank
line behind it, and only blanks before the first. -/
structure Pending (g : List Token) : Prop where
  solid : Solid g
  trivia : AllTrivia g
  spaced : ∃ lead ts, Text.AllBlank lead ∧ (∀ t ∈ ts, t ≠ [] ∧ Text.Trimmed t) ∧
    spell g = lead ++ separated ts

lemma exists_separated {ts : List Text} (hne : ts ≠ [])
    (h : ∀ t ∈ ts, t ≠ [] ∧ Text.Trimmed t) :
    ∃ x, separated ts = x ++ separator ∧ x ≠ [] ∧ Text.Trimmed x := by
  induction ts with
  | nil => exact absurd rfl hne
  | cons t ts ih =>
    obtain ⟨⟨ht, htrim⟩, hts⟩ := List.forall_mem_cons.mp h
    rcases eq_or_ne ts [] with rfl | hts'
    · exact ⟨t, by simp [separated], ht, htrim⟩
    · obtain ⟨x, hx, hxne, hxtrim⟩ := ih hts' hts
      refine ⟨t ++ (separator ++ x), ?_, by simp [ht], ?_, ?_⟩
      · rw [separated, List.flatMap_cons, ← separated, hx]
        simp
      · rw [List.head?_append_of_ne_nil _ ht]
        exact htrim.1
      · rw [← List.append_assoc, List.getLast?_append_of_ne_nil _ hxne]
        exact hxtrim.2

lemma allBlank_separator : Text.AllBlank separator := by decide

/-- Such trivia are carried over as they are. -/
lemma separated_nonBlank {lead : Text} {ts : List Text} (hlead : Text.AllBlank lead)
    (h : ∀ t ∈ ts, t ≠ [] ∧ Text.Trimmed t) :
    separated (nonBlank (lead ++ separated ts)) = separated ts := by
  rcases eq_or_ne ts [] with rfl | hne
  · rw [separated_nil, List.append_nil, nonBlank_of_allBlank hlead, separated_nil]
  · obtain ⟨x, hx, hxne, hxtrim⟩ := exists_separated hne h
    have hstrip : (lead ++ (x ++ separator)).strip = x := by
      rw [Text.strip_blank_append hlead, Text.strip_append_blank allBlank_separator,
        Text.strip_of_trimmed hxtrim]
    rw [hx, nonBlank, hstrip, if_neg (by simpa using hxne)]
    simp [separated]

lemma pending_nil : Pending [] := ⟨solid_nil, by simp [AllTrivia], [], [], by decide, by simp, rfl⟩

lemma spell_separatorTokens : spell separatorTokens = separator := rfl

lemma pending_separator : Pending separatorTokens :=
  ⟨solid_separator, allTrivia_separator, separator, [], allBlank_separator, by simp, rfl⟩

lemma solid_append_separator {ts : List Token} (h : Solid ts) : Solid (ts ++ separatorTokens) :=
  h.append solid_separator fun _ => by simp [separatorTokens]

/-! ### Laying out one part after the other -/

/-- Behind the trivia `g`, the text `t` is the pieces `ps` and then the trivia `v`. Of the pieces
and `v` the text `x` is carried over besides what is carried over of `g`. -/
structure Laid (g : List Token) (t x : Text) (ps : List Piece) (v : List Token) : Prop where
  spelled : spell g ++ t = spell (piecesTokens ps ++ v)
  solid : Solid (piecesTokens ps)
  pending : Pending v
  carried : separated (carried ps ++ nonBlank (spell v)) = separated (nonBlank (spell g)) ++ x
  ends : (ps = [] ∧ v = g) ∨ ∃ w, v = w ++ separatorTokens

section

variable {g v w : List Token} {t u x y : Text} {ps qs : List Piece}

lemma Laid.refl (h : Pending g) : Laid g [] [] [] g :=
  ⟨by simp, solid_nil, h, by simp, .inl ⟨rfl, rfl⟩⟩

lemma Laid.trans (h : Laid g t x ps v) (h' : Laid v u y qs w) :
    Laid g (t ++ u) (x ++ y) (ps ++ qs) w := by
  refine ⟨?_, ?_, h'.pending, ?_, ?_⟩
  · rw [← List.append_assoc, h.spelled, spell_append, List.append_assoc, h'.spelled,
      piecesTokens_append]
    simp
  · rw [piecesTokens_append]
    exact h.solid.append h'.solid fun hl => absurd hl (getLast?_piecesTokens ps)
  · rw [carried_append, List.append_assoc, separated_append, h'.carried, ← List.append_assoc,
      ← separated_append, h.carried, List.append_assoc]
  · rcases h'.ends with ⟨rfl, rfl⟩ | h'
    · simpa using h.ends
    · exact .inr h'

/-- A comment waits for the next rule. -/
lemma laid_remark (h : Pending g) {m : List Token} (hs : Solid m) (ht : AllTrivia m)
    (hne : spell m ≠ []) (htrim : Text.Trimmed (spell m)) :
    Laid g (separated [spell m]) (separated [spell m]) [] (g ++ (m ++ separatorTokens)) := by
  obtain ⟨lead, ts, hlead, hts, hg⟩ := h.spaced
  have hts' : ∀ t ∈ ts ++ [spell m], t ≠ [] ∧ Text.Trimmed t :=
    List.forall_mem_append.mpr ⟨hts, by simpa using ⟨hne, htrim⟩⟩
  have hspell : spell (g ++ (m ++ separatorTokens)) = lead ++ separated (ts ++ [spell m]) := by
    rw [spell_append, spell_append, hg, separated_append, separated_singleton]
    simp
  refine ⟨?_, solid_nil, ⟨?_, ?_, lead, _, hlead, hts', hspell⟩, ?_, .inr ⟨g ++ m, by simp⟩⟩
  · rw [separated_singleton, piecesTokens_nil, List.nil_append, spell_append, spell_append]
  · exact h.solid.append (solid_append_separator hs) fun hl => absurd hl h.trivia.void.getLast?_ne
  · exact List.forall_mem_append.mpr
      ⟨h.trivia, List.forall_mem_append.mpr ⟨ht, allTrivia_separator⟩⟩
  · rw [carried_nil, List.nil_append, hspell, separated_nonBlank hlead hts', hg,
      separated_nonBlank hlead hts, separated_append]

/-- A rule takes what waits for it into its gap. -/
lemma laid_piece (h : Pending g) (p : Piece) (hs : Solid p.tokens) (hb : AllBlank p.gap) :
    ∃ q, q.item = p.item ∧ Laid g (separated [spell p.tokens]) (separated (carriedItem p.item)) [q]
      separatorTokens := by
  let q : Piece := { p with
    gap := g ++ p.gap, trivia := List.forall_mem_append.mpr ⟨h.trivia, p.trivia⟩ }
  have htokens : piecesTokens [q] = g ++ p.tokens := by
    simp [q, Piece.tokens]
  have hgap : nonBlank (spell (g ++ p.gap)) = nonBlank (spell g) := by
    rw [nonBlank, spell_append, Text.strip_append_blank (allBlank_spell hb), nonBlank]
  refine ⟨q, rfl, ?_, ?_, pending_separator, ?_, .inr ⟨[], rfl⟩⟩
  · rw [htokens, separated_singleton]
    simp
  · rw [htokens]
    exact h.solid.append hs fun hl => absurd hl h.trivia.void.getLast?_ne
  · rw [spell_separatorTokens, nonBlank_of_allBlank allBlank_separator, carried_cons, hgap,
      carried_nil, List.append_nil, List.append_nil, separated_append]

end

/-! ### What is carried over, laid out -/

lemma isRemark_nil : IsRemark [] := by simp [IsRemark, AllTrivia]

lemma isRemark_strip_of_allBlank {t : Text} (h : Text.AllBlank t) : IsRemark t.strip := by
  rw [Text.strip_eq_nil h]
  exact isRemark_nil

lemma solid_of_isRemark {t : Text} (h : IsRemark t) : Solid (tokens t) := solid_tokens h.2

lemma isRemark_strip {g : List Token} (hs : Solid g) (ht : AllTrivia g) :
    IsRemark (spell g).strip := by
  obtain ⟨a, m, b, rfl, -, -, hstrip, -⟩ := exists_strip_spell hs.sealed
  have hm : Solid m := hs.of_isInfix ⟨a, b, by simp⟩
  rw [hstrip, IsRemark, hm.tokens_spell]
  exact ⟨fun k hk => ht k (by simp [hk]), hm.sealed⟩

lemma laid_nonBlank {g : List Token} (h : Pending g) {t : Text} (ht : IsRemark t.strip) :
    ∃ v, Laid g (separated (nonBlank t)) (separated (nonBlank t)) [] v := by
  rw [nonBlank]
  split
  · exact ⟨g, .refl h⟩
  · rename_i hne
    have hlaid := laid_remark h (solid_of_isRemark ht) ht.1 (by simpa using hne)
      (by simpa using Text.trimmed_strip t)
    rw [spell_tokens] at hlaid
    exact ⟨_, hlaid⟩

/-- What is carried over is read as the statements, and all of it is carried over again. -/
lemma exists_laid_carried {ps : List Piece} (hs : Solid (piecesTokens ps)) {s : Text}
    (htail : IsRemark s.strip) {g : List Token} (h : Pending g) :
    ∃ qs v, Laid g (separated (carried ps ++ nonBlank s)) (separated (carried ps ++ nonBlank s))
        qs v ∧
      qs.map Piece.item = (ps.map Piece.item).filter fun i => !i.hasBlock := by
  induction ps generalizing g with
  | nil =>
    obtain ⟨v, hv⟩ := laid_nonBlank h htail
    exact ⟨[], v, hv, rfl⟩
  | cons p ps ih =>
    rw [piecesTokens_cons] at hs
    have hgap : Solid p.gap := hs.of_isInfix ⟨[], p.item.tokens ++ piecesTokens ps, by simp⟩
    have hitem : Solid p.item.tokens := hs.of_isInfix ⟨p.gap, piecesTokens ps, by simp⟩
    have hps : Solid (piecesTokens ps) := hs.of_isInfix ⟨p.gap ++ p.item.tokens, [], by simp⟩
    obtain ⟨v, hv⟩ := laid_nonBlank h (isRemark_strip hgap p.trivia)
    cases hb : p.item.hasBlock with
    | true =>
      obtain ⟨qs, w, hw, hqs⟩ := ih hps hv.pending
      refine ⟨qs, w, ?_, by simp [hqs, hb]⟩
      simpa [carriedItem, hb, separated_append] using hv.trans hw
    | false =>
      -- the statement takes the comments that wait for it
      obtain ⟨q, hq, hlaid⟩ := laid_piece hv.pending
        { p with gap := [], trivia := by simp [AllTrivia] } (by simpa [Piece.tokens] using hitem)
        (by simp [AllBlank])
      obtain ⟨qs, w, hw, hqs⟩ := ih hps pending_separator
      refine ⟨q :: qs, w, ?_, by simp [hqs, hb, hq]⟩
      simpa [carriedItem, hb, separated_append, separated_cons, Piece.tokens] using
        hv.trans (hlaid.trans hw)

/-- The rules that stay are read behind it, and nothing more is carried over. -/
lemma exists_laid_kept {css : Text} {R : Rule → Item → Prop} {rs : List Rule}
    (hrs : ∀ r ∈ rs, ∃ k, Rewritten css r k ∧ R r k.item) {g : List Token} (h : Pending g) :
    ∃ qs v, Laid g (separated (rs.map fun r => r.format css)) [] qs v ∧
      List.Forall₂ R rs (qs.map Piece.item) := by
  induction rs generalizing g with
  | nil => exact ⟨[], g, .refl h, .nil⟩
  | cons r rs ih =>
    obtain ⟨⟨k, hk, hR⟩, hrs⟩ := List.forall_mem_cons.mp hrs
    obtain ⟨q, hq, hlaid⟩ := laid_piece h k hk.solid hk.blank
    obtain ⟨qs, v, hv, hqs⟩ := ih hrs pending_separator
    refine ⟨q :: qs, v, ?_, .cons (hq ▸ hR) hqs⟩
    simpa [carriedItem, hk.hasBlock, hk.format, separated_append, separated_cons] using
      hlaid.trans hv

/-! ### The whole output -/

lemma assemble_line {ts : List Text} (hne : ts ≠ []) (h : ∀ t ∈ ts, t ≠ []) :
    assemble ts ++ ['\n'] = separated ts := by
  obtain ⟨us, t, rfl⟩ := (List.eq_nil_or_concat ts).resolve_left hne
  have ht : t ≠ [] := h t (by simp)
  have hjoin : Text.join ['\n', '\n'] (us ++ [t]) = separated us ++ t := by
    rw [Text.join_append_cons, separated, separator]
    simp
  rw [List.concat_eq_append, assemble, hjoin, if_neg (by simp [ht]), separated_append]
  simp [separated, separator]

lemma Laid.decomposes {ts : List Text} {x : Text} {ps : List Piece} {v : List Token}
    (h : Laid [] (separated ts) x ps v) (hts : ∀ t ∈ ts, t ≠ []) :
    ∃ s, Decomposes (assemble ts) ps s ∧ IsRemark s ∧ nonBlank s = nonBlank (spell v) := by
  have hspelled := h.spelled
  rcases h.ends with ⟨rfl, rfl⟩ | ⟨w, rfl⟩
  · obtain rfl : ts = [] := by
      cases ts with
      | nil => rfl
      | cons t ts => simp [separated_cons, separatorTokens, Token.text] at hspelled
    exact ⟨[], .nil [], isRemark_nil, rfl⟩
  · have hne : ts ≠ [] := by
      rintro rfl
      simp [separatorTokens, Token.text] at hspelled
    have hout : assemble ts = spell (piecesTokens ps) ++ spell (w ++ [.char '\n']) := by
      have hline := assemble_line hne hts
      rw [← List.nil_append (separated ts), ← spell_nil, hspelled] at hline
      have hlast : spell (piecesTokens ps ++ (w ++ separatorTokens)) =
          (spell (piecesTokens ps) ++ spell (w ++ [.char '\n'])) ++ ['\n'] := by
        simp [separatorTokens, Token.text]
      exact List.append_cancel_right (hline.trans hlast)
    have hpart : w ++ [.char '\n'] <:+: w ++ separatorTokens := ⟨[], [.char '\n'], by
      simp [separatorTokens]⟩
    have hsolid : Solid (w ++ [.char '\n']) := h.pending.solid.of_isInfix hpart
    refine ⟨spell (w ++ [.char '\n']), ?_, ?_, ?_⟩
    · rw [hout]
      exact tokenizes_spell h.solid.sealed h.solid.apart fun hl =>
        absurd hl (getLast?_piecesTokens ps)
    · rw [IsRemark, hsolid.tokens_spell]
      exact ⟨fun k hk => h.pending.trivia k (hpart.subset hk), hsolid.sealed⟩
    · have hline : AllBlank [.char '\n'] := by decide
      rw [nonBlank, nonBlank, spell_append, spell_append,
        Text.strip_append_blank (allBlank_spell hline), spell_separatorTokens,
        Text.strip_append_blank allBlank_separator]

/-- The statements among the rules. -/
def statements (rules : List Rule) : List Rule := rules.filter fun r => !r.hasBlock

/-- The text `out` is the pieces `ps` and then the comments `s`. The pieces are the statements of
`css`, and behind them items that `R` relates to the rules `stay`. What is carried over of `out` is
what is carried over of `css`. -/
structure IsOutput (css out : Text) (R : Rule → Item → Prop) (stay : List Rule) (ps : List Piece)
    (s : Text) : Prop where
  decomposes : Decomposes out ps s
  remark : IsRemark s
  items : List.Forall₂ (fun r i => IsReading css r i ∨ R r i)
    (statements (parseRules css) ++ stay) (ps.map Piece.item)
  carried : separated (carried ps ++ nonBlank s) =
    separated (recoveredFrom css 0 (parseRules css))

lemma ne_nil_of_mem_nonBlank {t u : Text} (h : u ∈ nonBlank t) : u ≠ [] := by
  rw [nonBlank] at h
  split at h
  · cases h
  · rename_i hne
    rw [List.mem_singleton.mp h]
    simpa using hne

lemma ne_nil_of_mem_carried {ps : List Piece} {u : Text} (h : u ∈ carried ps) : u ≠ [] := by
  obtain ⟨p, -, hu⟩ := List.mem_flatMap.mp h
  rcases List.mem_append.mp hu with hu | hu
  · exact ne_nil_of_mem_nonBlank hu
  · rw [carriedItem] at hu
    split at hu
    · cases hu
    · rw [List.mem_singleton.mp hu]
      exact List.ne_nil_of_length_pos p.item.spell_length_pos

lemma carried_eq {css s : Text} {ps : List Piece} (h : Decomposes css ps s) :
    recoveredFrom css 0 (alongPieces Piece.rule 0 ps) = carried ps ++ nonBlank s :=
  recoveredFrom_pieces ⟨Nat.zero_le _, h.spell_append⟩ h.solid

lemma ne_nil_of_mem_blocks {c : Config} {used : TextSet} {css t : Text}
    (h : t ∈ blocks c used css) : t ≠ [] := by
  obtain ⟨ps, s, hps, -, hrules, -⟩ := exists_longest css
  rw [blocks, hrules, carried_eq hps, ← hrules] at h
  rcases List.mem_append.mp h with h | h
  · rcases List.mem_append.mp h with h | h
    · exact ne_nil_of_mem_carried h
    · exact ne_nil_of_mem_nonBlank h
  · obtain ⟨r, hr, rfl⟩ := List.mem_map.mp h
    obtain ⟨hmem, hb⟩ := mem_kept hr
    rintro hnil
    simpa [hnil] using getLast?_format hmem hb

lemma statements_readings {css s : Text} {n : Nat} {ps : List Piece} (h : StandsAt css n ps s) :
    List.Forall₂ (IsReading css) (statements (alongPieces Piece.rule n ps))
      ((ps.map Piece.item).filter fun i => !i.hasBlock) :=
  List.rel_filter (fun r i hr => by simp [hr.hasBlock]) (forall₂_isReading h)

/-- **What purging writes is read as the statements and the rules that stay.** -/
theorem exists_output {c : Config} {used : TextSet} {css : Text} {R : Rule → Item → Prop}
    (hon : c.enabled = true) (htail : IsRemark (afterRules (parseRules css) css).strip)
    (hkept : ∀ r ∈ kept c used (parseRules css), ∃ k, Rewritten css r k ∧ R r k.item) :
    ∃ ps s, IsOutput css (c.purge used css) R (kept c used (parseRules css)) ps s := by
  obtain ⟨ps, s, hps, -, hrules, hafter⟩ := exists_longest css
  have hat : StandsAt css 0 ps s := ⟨Nat.zero_le _, hps.spell_append⟩
  have hcarried : recoveredFrom css 0 (parseRules css) = carried ps ++ nonBlank s := by
    rw [hrules, carried_eq hps]
  obtain ⟨qs, v, hv, hqs⟩ := exists_laid_carried hps.solid (hafter ▸ htail) pending_nil
  obtain ⟨us, w, hw, hus⟩ := exists_laid_kept hkept hv.pending
  have hlaid := hv.trans hw
  rw [← separated_append, List.append_nil, ← hcarried] at hlaid
  obtain ⟨s', hdec, hremark, hs'⟩ := hlaid.decomposes fun t => ne_nil_of_mem_blocks
  refine ⟨qs ++ us, s', ?_, hremark, ?_, ?_⟩
  · rw [Config.purge, if_pos hon, blocks]
    exact hdec
  · rw [List.map_append, hqs]
    refine List.rel_append ?_ (hus.imp fun _ _ => .inr)
    rw [hrules]
    exact (statements_readings hat).imp fun _ _ => .inl
  · rw [hs', hlaid.carried]
    rfl

/-! ### The output read again -/

lemma forall₂_meet {α β γ : Type} {R : α → β → Prop} {S : γ → β → Prop} {T : α → γ → Prop}
    (h : ∀ a b c, R a b → S c b → T a c) {l : List α} {m : List β} {n : List γ}
    (hl : List.Forall₂ R l m) (hn : List.Forall₂ S n m) : List.Forall₂ T l n := by
  induction hl generalizing n with
  | nil =>
    cases hn
    exact .nil
  | cons hab _ ih =>
    cases hn with
    | cons hcb hn => exact .cons (h _ _ _ hab hcb) (ih hn)

section

variable {css out s : Text} {R : Rule → Item → Prop} {stay : List Rule} {ps : List Piece}

lemma IsOutput.parseRules_eq (h : IsOutput css out R stay ps s) :
    parseRules out = alongPieces Piece.rule 0 ps :=
  h.decomposes.parseRules_eq (stuck_of_allTrivia h.remark.1)

lemma IsOutput.afterRules_eq (h : IsOutput css out R stay ps s) :
    afterRules (parseRules out) out = s :=
  h.decomposes.afterRules_eq (stuck_of_allTrivia h.remark.1)

lemma IsOutput.standsAt (h : IsOutput css out R stay ps s) : StandsAt out 0 ps s :=
  ⟨Nat.zero_le _, h.decomposes.spell_append⟩

lemma IsOutput.forall₂_rules (h : IsOutput css out R stay ps s) {Q : Rule → Rule → Prop}
    (hQ : ∀ r i r', IsReading css r i ∨ R r i → IsReading out r' i → Q r r') :
    List.Forall₂ Q (statements (parseRules css) ++ stay) (parseRules out) := by
  rw [h.parseRules_eq]
  exact forall₂_meet hQ h.items (forall₂_isReading h.standsAt)

/-- What is carried over of the output is what was carried over of the stylesheet. -/
lemma IsOutput.recovered (h : IsOutput css out R stay ps s) :
    separated (recoveredFrom out 0 (parseRules out)) =
      separated (recoveredFrom css 0 (parseRules css)) := by
  rw [h.parseRules_eq, carried_eq h.decomposes, h.carried]

end

section

variable {c : Config} {used : TextSet} {css : Text} {Q : Rule → Rule → Prop}

/-- **The output is read as the statements and then the rules that stay.** What holds of a statement
read a second time, and of a rule that is written and read, holds of each rule of the output and the
one it comes from. Comments may follow the last, and what is carried over stays the same. -/
theorem rules_purge (hon : c.enabled = true)
    (htail : IsRemark (afterRules (parseRules css) css).strip)
    (hrew : ∀ r ∈ kept c used (parseRules css), Rewritable css r)
    (hstatement : ∀ r i r', IsReading css r i → IsReading (c.purge used css) r' i → Q r r')
    (hkept : ∀ r ∈ kept c used (parseRules css), ∀ k r', Rewritten css r k →
      IsReading (c.purge used css) r' k.item → Q r r') :
    List.Forall₂ Q (statements (parseRules css) ++ kept c used (parseRules css))
        (parseRules (c.purge used css)) ∧
      IsRemark (afterRules (parseRules (c.purge used css)) (c.purge used css)) ∧
      separated (recoveredFrom (c.purge used css) 0 (parseRules (c.purge used css))) =
        separated (recoveredFrom css 0 (parseRules css)) := by
  let R (r : Rule) (i : Item) : Prop := ∀ r', IsReading (c.purge used css) r' i → Q r r'
  have hpieces : ∀ r ∈ kept c used (parseRules css), ∃ k, Rewritten css r k ∧ R r k.item := by
    intro r hr
    obtain ⟨hmem, hb⟩ := mem_kept hr
    obtain ⟨k, hk⟩ := exists_rewritten hmem hb (hrew r hr)
    exact ⟨k, hk, fun r' => hkept r hr k r' hk⟩
  obtain ⟨ps, s, hout⟩ := exists_output hon htail hpieces
  refine ⟨hout.forall₂_rules fun r i r' hri h' => ?_, ?_, hout.recovered⟩
  · rcases hri with hri | hri
    · exact hstatement r i r' hri h'
    · exact hri r' h'
  · rw [hout.afterRules_eq]
    exact hout.remark

end

end ClassPurge.Purge
