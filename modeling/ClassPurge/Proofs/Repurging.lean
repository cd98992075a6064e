import ClassPurge.Proofs.Css.Hyphens
import ClassPurge.Proofs.Output

/-!
Purging what purging wrote. A rule that stays is read again with the same selector and the same
declarations, so it stays again and is written the same. What is carried over is carried over again,
as long as nothing but comments follows the last rule, or what follows it is a rule that does not
end even with the rules that are written behind it.
-/

namespace ClassPurge.Css

/-! ### The first declaration -/

/-- The first declaration begins as the body does, unless a semicolon comes before it. -/
lemma exists_first_declaration {ts : List Token} (hs : AllSealed ts) (hp : Plain ts) {x : Char}
    (hblank : ¬ Text.isBlank x) (hsemi : x ≠ ';') (hx : (spell ts).head? = some x) :
    ∃ d ds, splitDeclarations (spell ts) = d :: ds ∧ d.head? = some x := by
  cases ts with
  | nil => simp at hx
  | cons k ts =>
    have hne := (allSealed_cons.mp hs).1.text_ne_nil
    rw [spell_cons, List.head?_append_of_ne_nil _ hne] at hx
    obtain ⟨u, hu⟩ := List.head?_eq_some_iff.mp hx
    have hk : ¬ (k = .char ';' ∧ 0 = 0) := by
      rintro ⟨rfl, -⟩
      rw [Token.text, List.cons.injEq] at hu
      exact hsemi hu.1.symm
    obtain ⟨p, ps, hps⟩ : ∃ p ps, piecesAt 0 (k :: ts) = (k :: p) :: ps := by
      rw [piecesAt, if_neg hk]
      cases piecesAt (parensAfterToken 0 k) ts with
      | nil => exact ⟨[], [], rfl⟩
      | cons p ps => exact ⟨p, ps, rfl⟩
    have hd : (spell (k :: p)).strip.head? = some x := by
      rw [spell_cons, hu, List.cons_append, Text.head?_strip hblank]
    have hd' : (spell (k :: p)).strip ≠ [] := by
      intro hnil
      rw [hnil] at hd
      cases hd
    rw [splitDeclarations, quoteTokens_spell hs hp, hps, List.map_cons,
      List.filter_cons_of_pos (by simpa using hd')]
    exact ⟨_, _, rfl, hd⟩

/-- A body written on lines begins, stripped, as its first declaration does. -/
lemma head?_strip_bodyTokens {d : Text} (ds : List Text) {x : Char} (hx : ¬ Text.isBlank x)
    (hd : d.head? = some x) : (spell (bodyTokens (d :: ds))).strip.head? = some x := by
  obtain ⟨u, rfl⟩ := List.head?_eq_some_iff.mp hd
  have hlead : Text.AllBlank ['\n', ' ', ' '] := by decide
  have hbody : spell (bodyTokens ((x :: u) :: ds)) =
      ['\n', ' ', ' '] ++ x :: (u ++ ';' :: (spell (ds.flatMap lineTokens) ++ ['\n'])) := by
    simp [bodyTokens, spell_lineTokens, Token.text]
  rw [hbody, Text.strip_blank_append hlead, Text.head?_strip hx]

/-! ### Hyphens -/

lemma singleHyphens_lines {ds : List Text} (h : ∀ d ∈ ds, SingleHyphens d) :
    SingleHyphens (spell (ds.flatMap lineTokens)) := by
  induction ds with
  | nil => exact .nil
  | cons d ds ih =>
    obtain ⟨hd, hds⟩ := List.forall_mem_cons.mp h
    have hline : SingleHyphens ('\n' :: ' ' :: ' ' :: (d ++ [';'])) := by
      have hlead : SingleHyphens ['\n', ' ', ' '] := by simp [SingleHyphens]
      exact hlead.append (hd.append (.singleton _) (by simp)) (by simp)
    rw [List.flatMap_cons, spell_append, spell_lineTokens]
    exact hline.append (ih hds) (by simp [List.getLast?_cons])

lemma singleHyphens_bodyTokens {ds : List Text} (h : ∀ d ∈ ds, SingleHyphens d) :
    SingleHyphens (spell (bodyTokens ds)).strip := by
  refine List.IsChain.infix ?_ (Text.strip_isInfix _)
  rw [bodyTokens]
  split
  · exact .nil
  · rw [spell_append]
    exact (singleHyphens_lines h).append (.singleton _) (by simp [Token.text])

end ClassPurge.Css

namespace ClassPurge.Purge

open Css

/-- What makes a rule that stays come out the same when it is read and written again: it is written
in one piece, the parentheses of a flat body close, and where custom properties are dropped no
semicolon hides that the selector and the body make two hyphens. -/
structure Steady (c : Config) (css : Text) (r : Rule) : Prop where
  rewritable : Rewritable css r
  parens : r.nested = false → parensAfterTokens 0 (quoteTokens r.body) = 0
  hyphens : c.keepCustomProperties = false → r.nested = false → r.selector.getLast? = some '-' →
    r.body.head? ≠ some ';'

/-! ### A rule read again -/

section

variable {c : Config} {used : TextSet} {css out : Text} {r r' : Rule} {k : Piece}

/-- The body on lines has two hyphens side by side only where it had them, and begins with one only
where it began with one. -/
lemma singleHyphens_written {selector body : Text} {m : List Token} (hs : AllSealed m)
    (hp : Plain m) (hbody : body = spell m) (htrim : Text.Trimmed body)
    (h : SingleHyphens (selector ++ body))
    (hsemi : selector.getLast? = some '-' → body.head? ≠ some ';') :
    SingleHyphens (selector ++ (spell (bodyTokens (splitDeclarations body))).strip) := by
  obtain ⟨hselector, hsingle, hseam⟩ := List.isChain_append.mp h
  have hlines : SingleHyphens (spell (bodyTokens (splitDeclarations body))).strip := by
    refine singleHyphens_bodyTokens fun d hd => ?_
    rw [hbody] at hd
    obtain ⟨-, -, hdecl, -⟩ := mem_splitDeclarations hs hp hd
    have hpart := spell_isInfix hdecl.part
    rw [spell_quoteTokens, ← hbody] at hpart
    exact hsingle.infix hpart
  refine SingleHyphens.append hselector hlines fun hlast => ?_
  cases hx : body.head? with
  | none =>
    rw [List.head?_eq_none_iff] at hx
    simp [hx, splitDeclarations, quoteTokens, piecesAt, bodyTokens]
  | some x =>
    have hne : x ≠ ';' := by
      rintro rfl
      exact hsemi hlast hx
    have hblank : ¬ Text.isBlank x := htrim.1 x hx
    rw [hbody] at hx
    obtain ⟨d, ds, hds, hd⟩ := exists_first_declaration hs hp hblank hne hx
    rw [hbody, hds, head?_strip_bodyTokens ds hblank hd]
    rw [← hbody] at hx
    simpa using hseam _ hlast x hx rfl

lemma mentions_reread (hr : r ∈ parseRules css) (hb : r.hasBlock = true) (h : Steady c css r)
    (hk : Rewritten css r k) (h' : IsReading out r' k.item) (hoff : c.keepCustomProperties = false)
    (hm : Config.mentionsCustomProperty r = false) : Config.mentionsCustomProperty r' = false := by
  rw [Config.mentionsCustomProperty, ← singleHyphens_iff] at hm ⊢
  rw [h'.selector, hk.selector, h'.body]
  cases hn : r.nested with
  | true => rwa [(hk.whole hn).2]
  | false =>
    obtain ⟨p, b, hread⟩ := exists_read hr hb
    obtain ⟨m, hleaves⟩ := exists_leaves hread.block.allSealed.2
    have hbody : r.body = spell m := hread.body.trans hleaves.text
    rw [hk.lines hn]
    exact singleHyphens_written hleaves.sealed hleaves.plain hbody (hbody ▸ hleaves.trimmed) hm
      (h.hyphens hoff hn)

lemma keeps_reread (hsel : r'.selector = r.selector) (hk : c.keeps used r = true)
    (hm : c.keepCustomProperties = false → Config.mentionsCustomProperty r = false →
      Config.mentionsCustomProperty r' = false) : c.keeps used r' = true := by
  have hat : r'.isAt = r.isAt := by rw [Rule.isAt, Rule.isAt, hsel]
  unfold Config.keeps at hk ⊢
  rw [hat, hsel]
  cases hp : c.keepCustomProperties <;> cases hc : Config.mentionsCustomProperty r <;> simp_all

lemma format_reread (h : Steady c css r) (hk : Rewritten css r k) (h' : IsReading out r' k.item) :
    r'.format out = r.format css := by
  cases hn : r.nested with
  | true =>
    have hformat : r.format css = (r.source css).strip := by rw [Rule.format, layOut, if_pos hn]
    have hsource : r'.source out = (r.source css).strip := by
      rw [h'.source, ← hformat, hk.format, Piece.tokens, (hk.whole hn).1, List.nil_append]
    rw [Rule.format, layOut, if_pos (by rw [h'.nested, hk.nested, hn]), hsource, hformat,
      Text.strip_of_trimmed (Text.trimmed_strip _)]
  | false =>
    rw [Rule.format, Rule.format, h'.nested, hk.nested, hn, layOut_flat, layOut_flat, h'.selector,
      hk.selector, h'.body, hk.declarations hn (h.parens hn)]

lemma keeps_congr (hsel : r'.selector = r.selector) (hbody : r'.body = r.body) :
    c.keeps used r' = c.keeps used r := by
  rw [Config.keeps, Config.keeps, Rule.isAt, Rule.isAt, Config.mentionsCustomProperty,
    Config.mentionsCustomProperty, hsel, hbody]

/-- The rule `r'` of `out` has the fate of `r`: it stays if `r` does, and is written the same. -/
structure Repeats (c : Config) (used : TextSet) (css out : Text) (r r' : Rule) : Prop where
  stays : (r'.hasBlock && c.keeps used r') = (r.hasBlock && c.keeps used r)
  format : r'.format out = r.format css

lemma repeats_of_isReading {i : Item} (h : IsReading css r i) (h' : IsReading out r' i) :
    Repeats c used css out r r' := by
  have hsel : r'.selector = r.selector := by rw [h'.selector, h.selector]
  have hbody : r'.body = r.body := by rw [h'.body, h.body]
  refine ⟨?_, ?_⟩
  · rw [keeps_congr hsel hbody, h'.hasBlock, h.hasBlock]
  · rw [Rule.format, Rule.format, hsel, hbody, h'.nested, h.nested, h'.source, h.source]

lemma repeats_of_steady (hr : r ∈ kept c used (parseRules css)) (h : Steady c css r)
    (hk : Rewritten css r k) (h' : IsReading out r' k.item) : Repeats c used css out r r' := by
  obtain ⟨hmem, hb⟩ := mem_kept hr
  have hkeeps := keeps_of_mem_kept hr
  have hsel : r'.selector = r.selector := by rw [h'.selector, hk.selector]
  refine ⟨?_, format_reread h hk h'⟩
  rw [h'.hasBlock, hk.hasBlock, hb, hkeeps,
    keeps_reread hsel hkeeps fun hoff hm => mentions_reread hmem hb h hk h' hoff hm]

end

/-! ### Parts put together -/

lemma assemble_congr {ts us : List Text} (hts : ∀ t ∈ ts, t ≠ []) (hus : ∀ u ∈ us, u ≠ [])
    (h : separated ts = separated us) : assemble ts = assemble us := by
  rcases eq_or_ne ts [] with rfl | hne
  · cases us with
    | nil => rfl
    | cons u us => simp [separated_cons, separatorTokens, Token.text] at h
  · have hne' : us ≠ [] := by
      rintro rfl
      obtain ⟨t, ts, rfl⟩ := List.exists_cons_of_ne_nil hne
      simp [separated_cons, separatorTokens, Token.text] at h
    have hline : assemble ts ++ ['\n'] = assemble us ++ ['\n'] := by
      rw [assemble_line hne hts, assemble_line hne' hus, h]
    exact List.append_cancel_right hline

lemma join_ne_nil {ts : List Text} (hne : ts ≠ []) (h : ∀ t ∈ ts, t ≠ []) :
    Text.join separator ts ≠ [] := by
  obtain ⟨t, ts, rfl⟩ := List.exists_cons_of_ne_nil hne
  rw [Text.join_cons]
  exact List.append_ne_nil_of_left_ne_nil (h t List.mem_cons_self) _

lemma assemble_eq_join {ts : List Text} (h : Text.join separator ts ≠ []) :
    assemble ts = Text.join separator ts ++ ['\n'] := by
  rw [assemble]
  exact if_neg (by simpa [separator] using h)

lemma separated_eq_join {ts : List Text} (hne : ts ≠ []) (h : ∀ t ∈ ts, t ≠ []) :
    separated ts = Text.join separator ts ++ separator := by
  rw [← assemble_line hne h, assemble_eq_join (join_ne_nil hne h), List.append_assoc]
  rfl

lemma assemble_append {ts us : List Text} (hne : us ≠ []) (h : ∀ t ∈ ts ++ us, t ≠ []) :
    assemble (ts ++ us) = separated ts ++ assemble us := by
  have hus : ∀ u ∈ us, u ≠ [] := fun u hu => h u (List.mem_append_right _ hu)
  have hline := assemble_line (List.append_ne_nil_of_right_ne_nil ts hne) h
  rw [separated_append, ← assemble_line hne hus, ← List.append_assoc] at hline
  exact List.append_cancel_right hline

section

variable {c : Config} {used : TextSet} {css : Text}

lemma purge_eq_assemble (hon : c.enabled = true) (t : Text) :
    c.purge used t = assemble (blocks c used t) := by
  rw [Config.purge, if_pos hon]

lemma kept_statements_append (rs : List Rule) :
    kept c used (statements rs ++ kept c used rs) = kept c used rs := by
  have hstmt : kept c used (statements rs) = [] := by
    refine List.filter_eq_nil_iff.mpr fun r hr => ?_
    have := (List.mem_filter.mp hr).2
    simp_all
  rw [kept, List.filter_append, ← kept, hstmt, List.nil_append, kept, List.filter_filter]
  simp

/-- Where every rule of the output repeats one of the stylesheet, purging again writes the same. -/
lemma purge_purge_finished (hon : c.enabled = true)
    (htail : IsRemark (afterRules (parseRules css) css).strip)
    (hsteady : ∀ r ∈ kept c used (parseRules css), Steady c css r) :
    c.purge used (c.purge used css) = c.purge used css := by
  let out := c.purge used css
  obtain ⟨hrules, -, hcarried⟩ := rules_purge (Q := Repeats c used css out) hon htail
    (fun r hr => (hsteady r hr).rewritable) (fun r i r' => repeats_of_isReading)
    fun r hr k r' hk h' => repeats_of_steady hr (hsteady r hr) hk h'
  have hstay : List.Forall₂ (Repeats c used css out) (kept c used (parseRules css))
      (kept c used (parseRules out)) := by
    rw [← kept_statements_append]
    exact List.rel_filter (fun r r' h => by simp only [h.stays]) hrules
  have hformat : (kept c used (parseRules out)).map (fun r => r.format out) =
      (kept c used (parseRules css)).map fun r => r.format css := by
    rw [← List.forall₂_eq_eq_eq, List.forall₂_map_left_iff, List.forall₂_map_right_iff]
    exact (hstay.imp fun _ _ h => h.format).flip
  rw [purge_eq_assemble hon, purge_eq_assemble hon]
  refine assemble_congr (fun _ => ne_nil_of_mem_blocks) (fun _ => ne_nil_of_mem_blocks) ?_
  rw [← purge_eq_assemble hon]
  change separated (blocks c used out) = _
  rw [blocks, blocks, separated_append, separated_append, hformat, hcarried]

/-! ### A rule that does not end -/

lemma stuck_append {v ts : List Token} (hv : AllTrivia v) (h : Stuck ts) : Stuck (v ++ ts) := by
  intro p r heq
  obtain ⟨gap, us, rfl, hg, hs⟩ := exists_trivia ts
  have hcut : us = p.item.tokens ++ r := by
    rw [← dropWhile_trivia (List.forall_mem_append.mpr ⟨hv, hg⟩) hs, List.append_assoc, heq,
      dropWhile_trivia p.trivia (p.starts_append r)]
  exact h { p with gap := gap, trivia := hg } r (by rw [hcut])

lemma stuck_of_parseRules {t : Text} (h : parseRules t = []) : Stuck (tokens t) := by
  obtain ⟨ps, r, hps, hst, hrules, -⟩ := exists_longest t
  cases ps with
  | nil =>
    obtain rfl : t = r := hps.spell_append
    exact hst
  | cons p ps =>
    rw [h] at hrules
    cases hrules

lemma kept_of_no_block {rs : List Rule} (h : ∀ r ∈ rs, r.hasBlock = false) : kept c used rs = [] :=
  List.filter_eq_nil_iff.mpr fun r hr => by simp [h r hr]

/-- What waits before a text, and the text with a line end behind it, are carried over as one. -/
lemma separated_nonBlank_append {v : List Token} (h : Pending v) {x : Text} (hne : x ≠ [])
    (htrim : Text.Trimmed x) : separated (nonBlank (spell v ++ (x ++ ['\n']))) =
      separated (nonBlank (spell v)) ++ (x ++ separator) := by
  obtain ⟨lead, ts, hlead, hts, hspell⟩ := h.spaced
  have hwhole : Text.Trimmed (separated ts ++ x) := by
    refine ⟨?_, ?_⟩
    · cases ts with
      | nil => exact htrim.1
      | cons t ts =>
        obtain ⟨ht, htrim'⟩ := hts t List.mem_cons_self
        rw [separated_cons, List.append_assoc, List.head?_append_of_ne_nil _ ht]
        exact htrim'.1
    · rw [List.getLast?_append_of_ne_nil _ hne]
      exact htrim.2
  have hstrip : (spell v ++ (x ++ ['\n'])).strip = separated ts ++ x := by
    have hcut : spell v ++ (x ++ ['\n']) = lead ++ ((separated ts ++ x) ++ ['\n']) := by
      rw [hspell]
      simp
    have hline : Text.AllBlank ['\n'] := by decide
    rw [hcut, Text.strip_blank_append hlead, Text.strip_append_blank hline,
      Text.strip_of_trimmed hwhole]
  rw [nonBlank, hstrip, if_neg (by simp [hne]), separated_singleton, spell_separatorTokens,
    hspell, separated_nonBlank hlead hts, List.append_assoc]

/-- What is written behind an unfinished rule ends with it, or with a brace. -/
lemma trimmed_unfinished {t : Text} (ht : Text.Trimmed t) (hne : t ≠ []) {rs : List Rule}
    (hrs : ∀ r ∈ rs, (r.format css).getLast? = some '}') :
    Text.Trimmed (Text.join separator (t :: rs.map fun r => r.format css)) := by
  rcases List.eq_nil_or_concat rs with rfl | ⟨rs, r, rfl⟩
  · exact ht
  · have hlast := hrs r (by simp)
    have hr : r.format css ≠ [] := by
      intro hnil
      rw [hnil] at hlast
      cases hlast
    rw [List.concat_eq_append, List.map_append, ← List.cons_append, List.map_singleton]
    refine ⟨?_, ?_⟩
    · rw [List.cons_append, Text.join_cons, List.head?_append_of_ne_nil _ hne]
      exact ht.1
    · rw [Text.join_append_cons, List.flatMap_nil, List.append_nil,
        List.getLast?_append_of_ne_nil _ hr, hlast]
      rintro x hx
      obtain rfl : '}' = x := by simpa using hx
      decide

/-- Where no rule is read from `us` on, these texts are carried over with what waits before them. -/
lemma recovered_unfinished {ps : List Piece} (hs : Solid (piecesTokens ps)) {us : List Text}
    (hne : us ≠ []) (h : ∀ t ∈ carried ps ++ us, t ≠ [])
    (htrim : Text.Trimmed (Text.join separator us)) (hstuck : Stuck (tokens (assemble us))) :
    (∀ r ∈ parseRules (assemble (carried ps ++ us)), r.hasBlock = false) ∧
      separated (recoveredFrom (assemble (carried ps ++ us)) 0
        (parseRules (assemble (carried ps ++ us)))) = separated (carried ps ++ us) := by
  have hus : ∀ t ∈ us, t ≠ [] := fun t ht => h t (List.mem_append_right _ ht)
  have hjoin := join_ne_nil hne hus
  -- the statements are read again, and what waits behind them goes with the rest
  obtain ⟨qs, v, hv, hqs⟩ := exists_laid_carried hs (s := []) isRemark_nil pending_nil
  rw [nonBlank_of_allBlank (t := []) (by decide), List.append_nil] at hv
  have hout : assemble (carried ps ++ us) =
      spell (piecesTokens qs) ++ (spell v ++ assemble us) := by
    have hspelled := hv.spelled
    rw [spell_nil, List.nil_append, spell_append] at hspelled
    rw [assemble_append hne h, hspelled, List.append_assoc]
  have hdec : Decomposes (assemble (carried ps ++ us)) qs (spell v ++ assemble us) := by
    rw [hout]
    exact tokenizes_spell hv.solid.sealed hv.solid.apart fun hl =>
      absurd hl (getLast?_piecesTokens qs)
  have hrules := hdec.parseRules_eq (by
    rw [hv.pending.solid.tokens_append fun hl => absurd hl hv.pending.trivia.void.getLast?_ne]
    exact stuck_append hv.pending.trivia hstuck)
  rw [hrules]
  refine ⟨fun r hr => ?_, ?_⟩
  · obtain ⟨i, hi, hread⟩ := exists_of_forall₂
      (forall₂_isReading ⟨Nat.zero_le _, hdec.spell_append⟩) hr
    rw [hqs] at hi
    rw [hread.hasBlock]
    simpa using (List.mem_filter.mp hi).2
  · rw [carried_eq hdec, separated_append, separated_append, assemble_eq_join hjoin,
      separated_nonBlank_append hv.pending hjoin htrim, ← List.append_assoc, ← separated_append,
      hv.carried, separated_eq_join hne hus]
    rfl

/-- Where no rule is read from the rest of the stylesheet on, all that is written behind the
statements is carried over. -/
lemma purge_purge_unfinished (hon : c.enabled = true)
    (htail : (afterRules (parseRules css) css).strip ≠ [])
    (hrest : parseRules (assemble (nonBlank (afterRules (parseRules css) css) ++
      (kept c used (parseRules css)).map fun r => r.format css)) = []) :
    c.purge used (c.purge used css) = c.purge used css := by
  obtain ⟨ps, s, hps, -, hrules, hafter⟩ := exists_longest css
  rw [hafter] at htail hrest
  let us : List Text := s.strip :: (kept c used (parseRules css)).map fun r => r.format css
  have hnonBlank : nonBlank s = [s.strip] := by
    rw [nonBlank, if_neg (by simpa using htail)]
  rw [hnonBlank] at hrest
  have hblocks : blocks c used css = carried ps ++ us := by
    rw [blocks, hrules, carried_eq hps, hnonBlank, List.append_assoc, ← hrules]
    rfl
  have htrim : Text.Trimmed (Text.join separator us) :=
    trimmed_unfinished (Text.trimmed_strip s) htail fun r hr =>
      getLast?_format (mem_kept hr).1 (mem_kept hr).2
  obtain ⟨hflat, hrecovered⟩ := recovered_unfinished hps.solid (List.cons_ne_nil _ _)
    (fun t ht => ne_nil_of_mem_blocks (c := c) (hblocks ▸ ht)) htrim (stuck_of_parseRules hrest)
  rw [← hblocks, ← purge_eq_assemble hon] at hflat hrecovered
  rw [purge_eq_assemble hon, purge_eq_assemble hon css]
  refine assemble_congr (fun _ => ne_nil_of_mem_blocks) (fun _ => ne_nil_of_mem_blocks) ?_
  rw [← purge_eq_assemble hon, blocks, kept_of_no_block hflat, List.map_nil, List.append_nil,
    hrecovered]

/-! ### Purging twice -/

/-- How purging comes to rest. Either nothing but comments follows the last rule and the rules that
stay are steady, or something follows it in which no rule is read, not even with the rules that
stay behind it. -/
inductive Repeatable (c : Config) (used : TextSet) (css : Text) : Prop
  | finished (tail : IsRemark (afterRules (parseRules css) css).strip)
      (steady : ∀ r ∈ kept c used (parseRules css), Steady c css r)
  | unfinished (tail : (afterRules (parseRules css) css).strip ≠ [])
      (rest : parseRules (assemble (nonBlank (afterRules (parseRules css) css) ++
        (kept c used (parseRules css)).map fun r => r.format css)) = [])

/-- **Purging a purged stylesheet changes nothing.** -/
theorem purge_purge (h : c.enabled = true → Repeatable c used css) :
    c.purge used (c.purge used css) = c.purge used css := by
  cases hon : c.enabled with
  | false => simp [Config.purge, hon]
  | true =>
    cases h hon with
    | finished tail steady => exact purge_purge_finished hon tail steady
    | unfinished tail rest => exact purge_purge_unfinished hon tail rest

end

def onlyA : TextSet := TextSet.ofList [['a']]

/-- Two rules that stay, one with a block inside, and a comment. -/
def commentedRules : Text :=
  ['.', 'a', '{', 'x', ':', 'y', '}', '.', 'a', '{', '.', 'b', '{', '}', '}', '/', '*', '*', '/']

/-- A rule that stays, and one that does not end. -/
def openRule : Text := ['.', 'a', '{', '}', '.', 'b', '{']

theorem purge_purge_two_rules :
    Repeatable Config.default onlyA commentedRules ∧
      Config.default.purge onlyA (Config.default.purge onlyA commentedRules) =
        Config.default.purge onlyA commentedRules ∧
      Repeatable Config.default onlyA openRule ∧
      Config.default.purge onlyA (Config.default.purge onlyA openRule) =
        Config.default.purge onlyA openRule := by
  have htokens : tokens (afterRules (parseRules commentedRules) commentedRules).strip =
      [.comment ['/', '*', '*', '/']] := by decide +kernel
  have htail : IsRemark (afterRules (parseRules commentedRules) commentedRules).strip := by
    rw [IsRemark, htokens]
    refine ⟨by simp [AllTrivia, Token.isTrivia], allSealed_cons.mpr ⟨?_, by simp⟩⟩
    exact Token.Sealed.comment (b := []) (by decide)
  have hkept : kept Config.default onlyA (parseRules commentedRules) =
      [⟨['.', 'a'], ['x', ':', 'y'], 0, 7, true, false⟩,
        ⟨['.', 'a'], ['.', 'b', '{', '}'], 7, 15, true, true⟩] := by decide +kernel
  have hfinished : Repeatable Config.default onlyA commentedRules := by
    refine .finished htail ?_
    rw [hkept]
    refine List.forall_mem_cons.mpr ⟨?_, List.forall_mem_singleton.mpr ?_⟩
    · exact ⟨⟨by decide +kernel, fun h => absurd h (by decide), fun h => absurd h (by decide)⟩,
        fun _ => by decide +kernel, fun h => absurd h (by decide)⟩
    · exact ⟨⟨by decide +kernel, fun h => absurd h (by decide), fun _ => by decide +kernel⟩,
        fun h => absurd h (by decide), fun h => absurd h (by decide)⟩
  have hunfinished : Repeatable Config.default onlyA openRule :=
    .unfinished (by decide +kernel) (by decide +kernel)
  exact ⟨hfinished, purge_purge fun _ => hfinished, hunfinished, purge_purge fun _ => hunfinished⟩

/-- With the class `a-` in use, purging a second time changes what the first time wrote. -/
def Drifts (c : Config) (css : Text) : Prop :=
  let used := TextSet.ofList [['a', '-']]
  c.purge used (c.purge used css) ≠ c.purge used css

instance (c : Config) (css : Text) : Decidable (Drifts c css) := inferInstanceAs (Decidable (_ ≠ _))

def withoutCustomProperties : Config := { Config.default with keepCustomProperties := false }

/-- **None of the conditions can be left out.** A selector alone behind the last rule becomes the
selector of a rule that stayed; a parenthesis that does not close takes one more semicolon in each
time; a slash comes to stand before a star; a blank hides that a selector is an at-rule's, and
another that a comment comes first; a semicolon keeps two hyphens apart. -/
theorem purge_drifts :
    Drifts Config.default ['p', '{', '}', '.', 'b'] ∧
      Drifts Config.default ['p', '{', 'x', ':', '(', '}'] ∧
      Drifts Config.default ['p', '{', 'x', ':', '/', '/', '*', '*', '/', '*', '*', '/', '}'] ∧
      Drifts Config.default ['\u00a0', '@', 'x', ';', '.', 'b', '{', '}'] ∧
      Drifts Config.default ['\u00a0', '/', '*', '*', '/', 'p', '{', 'q', '{', '}', '}'] ∧
      Drifts withoutCustomProperties ['.', 'a', '-', '{', ';', '-', 'x', '}'] := by
  decide +kernel

end ClassPurge.Purge
