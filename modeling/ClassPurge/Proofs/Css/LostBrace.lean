import ClassPurge.Proofs.Css.NestedStyles
import ClassPurge.Proofs.Css.Seams

/-!
A stylesheet whose last brace is lost. What was its last rule is then no rule, but text behind the
rules before it, which are read as they were. The classes of such text are looked for in another
way: addresses are left out, and nothing is stripped. Still each class of the selector is found,
unless the selector has an address or the brace behind it is escaped.
-/

namespace ClassPurge.Css

/-- What an address begins with. -/
def addressMark : Text := ['u', 'r', 'l', '(']

/-- The mark of an address stands in the text, in whatever case. -/
def MarksAddress (t : Text) : Prop := addressMark <:+: t.map Char.toLower

instance (t : Text) : Decidable (MarksAddress t) := inferInstanceAs (Decidable (_ <:+: _))

/-- The text ends with its last rule, a style rule with no blocks inside. -/
structure EndsFlat (css : Text) (r : Rule) : Prop where
  last : (parseRules css).getLast? = some r
  style : IsStyle r
  flat : r.nested = false
  ends : r.stop = css.length

/-! ### Addresses -/

lemma afterAddress?_marked {t r : Text} (h : afterAddress? t = some r) :
    addressMark <+: t.map Char.toLower := by
  unfold afterAddress? at h
  split at h
  · rename_i u r' l t
    split at h
    · rename_i hurl
      simp only [Bool.and_eq_true, beq_iff_eq, and_assoc] at hurl
      obtain ⟨hu, hr, hl⟩ := hurl
      refine ⟨t.map Char.toLower, ?_⟩
      simp [addressMark, hu, hr, hl]
    · cases h
  · cases h

/-- Text without the mark of an address stays, whatever stands behind it and a brace. -/
lemma dropAddresses_brace {t : Text} (h : ¬ MarksAddress t) (v : Text) :
    dropAddresses (t ++ '{' :: v) = t ++ '{' :: dropAddresses v := by
  have hkeep {x : Char} {y : Text} (hnone : ¬ addressMark <+: (x :: y).map Char.toLower) :
      dropAddresses (x :: y) = x :: dropAddresses y := by
    rw [dropAddresses]
    split
    · rename_i hsome
      exact absurd (afterAddress?_marked hsome) hnone
    · rfl
  induction t with
  | nil =>
    refine hkeep fun hpre => ?_
    have hhead : 'u' = '{' := (List.cons_prefix_cons.mp hpre).1
    exact absurd hhead (by decide)
  | cons x t ih =>
    rw [MarksAddress, List.map_cons, List.infix_cons_iff, not_or] at h
    rw [List.cons_append, hkeep, ih h.2, List.cons_append]
    intro hpre
    rw [List.map_cons, List.map_append, List.map_cons, ← List.cons_append] at hpre
    have hleft : addressMark <+: x.toLower :: t.map Char.toLower :=
      isPrefix_of_append_cons (by decide) hpre
    exact h.1 hleft

lemma MarksAddress.of_padded {a t b : Text} (h : MarksAddress (a ++ (t ++ b)))
    (ha : Text.AllBlank a) (hb : Text.AllBlank b) : MarksAddress t := by
  have hblank {u : Text} (hu : Text.AllBlank u) : ∀ c ∈ u.map Char.toLower, c ∉ addressMark := by
    intro c hc
    obtain ⟨x, hx, rfl⟩ := List.mem_map.mp hc
    have hall : Avoids (fun x => addressMark.contains x.toLower) Text.blanks := by decide +kernel
    simpa using hall x (Text.mem_blanks (hu x hx))
  rw [MarksAddress, List.map_append, List.map_append] at h
  exact isInfix_of_padded (hblank ha) (hblank hb) h

lemma isPrefix_of_blanked {w : Text} {ts : List Token} (hw : '"' ∉ w) (hs : AllSealed ts)
    (hp : Plain ts) (h : w <+: (blanked ts).map Char.toLower) :
    w <+: (spell ts).map Char.toLower := by
  induction w generalizing ts with
  | nil => exact List.nil_prefix
  | cons x w ih =>
    rw [List.mem_cons, not_or] at hw
    cases ts with
    | nil => exact h
    | cons k ts =>
      obtain ⟨hk, hts⟩ := allSealed_cons.mp hs
      obtain ⟨hpk, hpts⟩ := List.forall_mem_cons.mp hp
      cases hk with
      | string =>
        have hx : x = '"' := (List.cons_prefix_cons.mp h).1
        exact absurd hx.symm hw.1
      | comment => exact absurd rfl hpk
      | char =>
        obtain ⟨hx, hrest⟩ := List.cons_prefix_cons.mp h
        exact List.cons_prefix_cons.mpr ⟨hx, ih hw.2 hts hpts hrest⟩

lemma MarksAddress.of_blanked {ts : List Token} (hs : AllSealed ts) (hp : Plain ts)
    (h : MarksAddress (blanked ts)) : MarksAddress (spell ts) := by
  induction ts with
  | nil => exact h
  | cons k ts ih =>
    obtain ⟨hk, hts⟩ := allSealed_cons.mp hs
    obtain ⟨hpk, hpts⟩ := List.forall_mem_cons.mp hp
    have hrest (hmark : MarksAddress (blanked ts)) : MarksAddress (spell (k :: ts)) := by
      have hsuffix : spell ts <:+ spell (k :: ts) := List.suffix_append k.text _
      exact (ih hts hpts hmark).trans (hsuffix.map Char.toLower).isInfix
    rw [MarksAddress, blanked_cons, List.map_append] at h
    cases hk with
    | string =>
      -- an empty string stands there, and no mark has a quote
      have hquotes : ∀ c ∈ emptyString, c ∉ addressMark := by simp [emptyString, addressMark]
      exact hrest (isInfix_of_append_left hquotes h)
    | comment => exact absurd rfl hpk
    | @char c =>
      rcases List.infix_cons_iff.mp h with hpre | hmark
      · have hspell : addressMark <+: (spell (.char c :: ts)).map Char.toLower :=
          isPrefix_of_blanked (by decide) hs hp hpre
        exact hspell.isInfix
      · exact hrest hmark

/-! ### The classes of what is left -/

lemma blanked_of_allBlank {ts : List Token} (h : AllBlank ts) : blanked ts = spell ts := by
  induction ts with
  | nil => rfl
  | cons k ts ih =>
    obtain ⟨hk, hts⟩ := List.forall_mem_cons.mp h
    cases k with
    | char c => rw [blanked_cons, spell_cons, ih hts]; rfl
    | _ => cases hk

/-- A backslash at the end is the only one that has nothing to escape. -/
lemma escapesClose_of_getLast? {t : Text} (h : t.getLast? ≠ some '\\') : EscapesClose t := by
  induction t using EscapesClose.induct with
  | case1 => exact trivial
  | case2 => exact absurd rfl h
  | case3 c t ih =>
    refine ih fun ht => h ?_
    rw [List.getLast?_cons, List.getLast?_cons, ht]
    rfl
  | case4 c t hnil hcons ih =>
    have hc := ne_backslash_of_cases hnil hcons
    refine (escapesClose_cons hc t).mpr (ih fun ht => h ?_)
    rw [List.getLast?_cons, ht]
    rfl

lemma getLast?_blanked {ts : List Token} (hs : AllSealed ts)
    (h : (spell ts).getLast? ≠ some '\\') : (blanked ts).getLast? ≠ some '\\' := by
  rcases List.eq_nil_or_concat ts with rfl | ⟨us, k, rfl⟩
  · simp
  · rw [List.concat_eq_append] at hs h ⊢
    have hk : k.Sealed := (allSealed_cons.mp (allSealed_append.mp hs).2).1
    rw [spell_append, spell_cons, spell_nil, List.append_nil,
      List.getLast?_append_of_ne_nil _ hk.text_ne_nil] at h
    cases hk with
    | string => simp [blankToken, emptyString]
    | comment => simp [blankToken, Token.text, List.getLast?_cons, endMark]
    | char => simpa [blankToken, Token.text] using h

lemma exists_separates {c : Text} (hc : Text.AllBlank c) (v : Text) :
    ∃ d u, c ++ '{' :: v = d :: u ∧ Separates d := by
  cases c with
  | nil => exact ⟨'{', v, rfl, ⟨by decide, by decide, by decide⟩⟩
  | cons d c =>
    have hd : Text.isBlank d := hc d List.mem_cons_self
    exact ⟨d, c ++ '{' :: v, rfl, separates_of_isSeparator (by simp [isSeparator, hd])⟩

section

variable {gap p b m : List Token}

/-- The text without its comments, the strings blanked: what was cut off the selector stands on
both sides of it, and the brace behind it. -/
lemma dropQuoted_open (hsolid : Solid (gap ++ (p ++ .char '{' :: b))) {a m c : List Token}
    (hcut : dropComments p = a ++ (m ++ c)) (hlead : AllBlank (dropComments gap ++ a))
    (hc : AllBlank c) :
    dropQuoted (stripComments (spell (gap ++ (p ++ .char '{' :: b)))) =
      spell (dropComments gap ++ a) ++ (blanked m ++ spell c) ++
        '{' :: blanked (dropComments b) := by
  have hsealed := allSealed_dropComments hsolid.sealed
  have hbrace : dropComments (.char '{' :: b) = .char '{' :: dropComments b := rfl
  rw [dropQuoted, quoteTokens_stripComments, hsolid.tokens_spell, blankTokens_eq hsealed,
    dropComments_append, dropComments_append, hbrace, hcut, ← blanked_of_allBlank hlead,
    ← blanked_of_allBlank hc]
  simp [blankToken, Token.text]

/-- The classes of the selector without its strings are those of the selector. -/
lemma Leaves.selectorClasses_eq (h : Leaves p m) :
    selectorClasses (spell m) = (classesIn (blanked m)).eraseDups := by
  have hblank := blankStrings_spell_append h.sealed h.plain []
  rw [List.append_nil, blankStrings.eq_1, List.append_nil] at hblank
  rw [selectorClasses, hblank]

/-- **The classes of a selector are found where the brace behind its block is missing.** -/
lemma mem_looseClasses_open (hsolid : Solid (gap ++ (p ++ .char '{' :: b))) (hg : AllTrivia gap)
    (hmark : ¬ MarksAddress (selectorOf p)) (hescape : (selectorOf p).getLast? ≠ some '\\')
    {w : Text} (hw : w ∈ selectorClasses (selectorOf p)) :
    w ∈ looseClasses (spell (gap ++ (p ++ .char '{' :: b))) := by
  have hp : AllSealed p := (allSealed_append.mp (allSealed_append.mp hsolid.sealed).2).1
  obtain ⟨a, m, c, hcut, ha, hc, hm⟩ := exists_leaves_cut hp
  rw [selectorOf, hm.text] at hmark hescape hw
  rw [hm.selectorClasses_eq, List.mem_eraseDups] at hw
  -- what stands on both sides of the selector are blanks
  have hlead : AllBlank (dropComments gap ++ a) :=
    List.forall_mem_append.mpr ⟨hg.void.allBlank_dropComments, ha⟩
  have hleft := allBlank_spell hlead
  have hright := allBlank_spell hc
  have hnone : ¬ MarksAddress (spell (dropComments gap ++ a) ++ (blanked m ++ spell c)) :=
    fun h => hmark (.of_blanked hm.sealed hm.plain (h.of_padded hleft hright))
  have hdots (x y : Text) (hxy : blanked m = x ++ '.' :: y) : EscapesClose y := by
    have hclose := escapesClose_of_getLast? (getLast?_blanked hm.sealed hescape)
    rw [hxy] at hclose
    exact hclose.after_dot
  have hseparators : Separators (spell (dropComments gap ++ a)) := fun x hx => by
    simp [isSeparator, hleft x hx]
  obtain ⟨d, u, hd, hsep⟩ := exists_separates hright (dropAddresses (blanked (dropComments b)))
  rw [looseClasses, dropQuoted_open hsolid hcut hlead hc, dropAddresses_brace hnone,
    List.append_assoc, List.append_assoc, classesIn_separators hseparators, hd,
    classesIn_separator hsep hdots]
  exact List.mem_append_left _ hw

lemma stuck_open (hg : AllTrivia gap) (hstarts : StartsRule (p ++ .char '{' :: b))
    (hp : BraceFree p) (hb : BraceFree b) (hat : p.head? ≠ some (.char '@')) :
    Stuck (gap ++ (p ++ .char '{' :: b)) := by
  intro q r hcut
  have hopen : .char '}' ∉ gap ++ (p ++ .char '{' :: b) := by
    have hbrace : Token.IsBrace (.char '}') := .inr rfl
    simp only [List.mem_append, List.mem_cons, not_or]
    exact ⟨fun hk => hg.void.braceFree _ hk hbrace, fun hk => hp _ hk hbrace, by simp,
      fun hk => hb _ hk hbrace⟩
  cases hitem : q.item with
  | block p' b' =>
    rw [hitem] at hcut
    exact hopen (by simp [hcut, Item.tokens])
  | statement p' =>
    have hvalid := q.valid
    have hgap : gap = q.gap := by
      rw [← takeWhile_trivia hg hstarts, hcut, takeWhile_trivia q.trivia (q.starts_append r)]
    rw [hgap, List.append_cancel_left_eq, hitem] at hcut
    rw [hitem] at hvalid
    obtain ⟨s, rfl⟩ := List.head?_eq_some_iff.mp hvalid.1
    cases p with
    | nil => simp [Item.tokens] at hcut
    | cons k p =>
      obtain ⟨rfl, -⟩ := List.cons.inj hcut
      exact hat rfl

end

/-! ### The rules before it -/

/-- The text up to its last brace: some rules, and then a prelude and a block that stays open. -/
structure IsOpened (css t : Text) (r : Rule) (ps : List Piece) (gap p b : List Token) : Prop where
  text : css = t ++ ['}']
  rules : parseRules css = alongPieces Piece.rule 0 ps ++ [r]
  decomposes : Decomposes t ps (spell (gap ++ (p ++ .char '{' :: b)))
  solid : Solid (gap ++ (p ++ .char '{' :: b))
  stuck : Stuck (gap ++ (p ++ .char '{' :: b))
  trivia : AllTrivia gap
  selector : r.selector = selectorOf p

lemma exists_last_piece {css : Text} {r : Rule} (hlast : (parseRules css).getLast? = some r)
    (hends : r.stop = css.length) : ∃ ps q n, Decomposes css (ps ++ [q]) [] ∧ r = q.rule n ∧
      parseRules css = alongPieces Piece.rule 0 ps ++ [r] := by
  obtain ⟨all, rest, hall, -, hrules, hafter⟩ := exists_longest css
  obtain rfl : rest = [] := hafter.symm.trans (afterRules_eq_nil (.inr ⟨r, hlast, hends⟩))
  rcases List.eq_nil_or_concat all with rfl | ⟨ps, q, rfl⟩
  · rw [hrules] at hlast
    cases hlast
  · rw [List.concat_eq_append] at hall hrules
    rw [alongPieces_append, alongPieces, alongPieces] at hrules
    rw [hrules, List.getLast?_concat, Option.some.injEq] at hlast
    exact ⟨ps, q, _, hall, hlast.symm, by rw [hrules, hlast]⟩

lemma EndsFlat.exists_block {css : Text} {r : Rule} {q : Piece} {n : Nat} (h : EndsFlat css r)
    (hr : r = q.rule n) : ∃ p b, q.item = .block p b ∧ r.selector = selectorOf p ∧ BraceFree p ∧
      BraceFree b ∧ p.head? ≠ some (.char '@') := by
  have hblock := h.style.hasBlock
  have hflat := h.flat
  have hstyle := h.style.style
  have hvalid := q.valid
  rw [hr, Piece.rule_hasBlock] at hblock
  rw [hr, Piece.rule_nested] at hflat
  cases hitem : q.item with
  | statement p =>
    rw [hitem] at hblock
    cases hblock
  | block p b =>
    rw [hitem] at hvalid hflat
    rw [Item.nested, decide_eq_false_iff_not] at hflat
    have hselector : r.selector = selectorOf p := by
      rw [hr, Piece.rule, hitem]
      rfl
    refine ⟨p, b, rfl, hselector, hvalid.1, braceFree_of_balanced hvalid.2.2 hflat, fun hp => ?_⟩
    rw [Rule.isAt, isAtSelector, hselector, head?_selectorOf hp (by decide)] at hstyle
    cases hstyle

lemma EndsFlat.exists_opened {css : Text} {r : Rule} (h : EndsFlat css r) :
    ∃ t ps gap p b, IsOpened css t r ps gap p b := by
  obtain ⟨ps, q, n, hall, hr, hrules⟩ := exists_last_piece h.last h.ends
  obtain ⟨p, b, hitem, hselector, hp, hb, hat⟩ := h.exists_block hr
  let ts := q.gap ++ (p ++ .char '{' :: b)
  have htokens : piecesTokens (ps ++ [q]) = piecesTokens ps ++ ts ++ [.char '}'] := by
    simp [piecesTokens_append, hitem, Item.tokens, ts]
  have hsolid : Solid (piecesTokens ps ++ ts) :=
    hall.solid.of_isInfix (htokens ▸ (List.prefix_append _ _).isInfix)
  have hopen : Solid ts := hsolid.of_isInfix (List.suffix_append _ _).isInfix
  have hleft : Solid (piecesTokens ps) := hsolid.of_isInfix (List.prefix_append _ _).isInfix
  have hps : Decomposes (spell (piecesTokens ps ++ ts)) ps (spell ts) := by
    rw [spell_append]
    exact tokenizes_spell hleft.sealed hleft.apart fun hl => absurd hl (getLast?_piecesTokens ps)
  have hstarts : StartsRule (p ++ .char '{' :: b) := by
    have hq := q.starts
    rw [hitem] at hq
    cases p with
    | nil => exact hq
    | cons k p => exact hq
  refine ⟨spell (piecesTokens ps ++ ts), ps, q.gap, p, b, ?_, hrules, hps, hopen,
    stuck_open q.trivia hstarts hp hb hat, q.trivia, hselector⟩
  rw [hall.spell_append, htokens, spell_append, List.append_nil]
  rfl

/-- **The classes of a stylesheet are found when its last brace is lost.** The last rule, if it is
a flat style rule, is read no longer, and its classes are found in what is left. -/
theorem classNames_lost_brace {css : Text} {r : Rule} (h : EndsFlat css r)
    (hmark : ¬ MarksAddress r.selector) (hescape : r.selector.getLast? ≠ some '\\') :
    ∃ t, css = t ++ ['}'] ∧ parseRules t = (parseRules css).dropLast ∧
      ∀ w ∈ classNames css, w ∈ classNames t := by
  obtain ⟨t, ps, gap, p, b, ho⟩ := h.exists_opened
  have hstuck : Stuck (tokens (spell (gap ++ (p ++ .char '{' :: b)))) := by
    rw [ho.solid.tokens_spell]
    exact ho.stuck
  have hrules : parseRules t = alongPieces Piece.rule 0 ps := ho.decomposes.parseRules_eq hstuck
  have hrest := ho.decomposes.afterRules_eq hstuck
  have hnone : looseClasses (afterRules (parseRules css) css) = [] := by
    rw [afterRules_eq_nil (.inr ⟨r, h.last, h.ends⟩)]
    exact looseClasses_of_void (by simp [Void])
  refine ⟨t, ho.text, by rw [hrules, ho.rules, List.dropLast_concat], fun w hw => ?_⟩
  rw [classNames, classNamesWithin_eq, List.mem_eraseDups, levelClasses, hnone, List.append_nil,
    ho.rules, List.flatMap_append, List.flatMap_singleton, List.mem_append] at hw
  rw [classNames, classNamesWithin_eq, List.mem_eraseDups, levelClasses, hrest, hrules]
  rcases hw with hbefore | hlast
  · exact List.mem_append_left _ hbefore
  · have hinner : innerClasses nestingLimit r = [] := by
      rw [nestingLimit, innerClasses, if_neg (by simp [h.flat])]
    rw [h.style.ruleClasses_eq, hinner, List.append_nil, ho.selector] at hlast
    rw [ho.selector] at hmark hescape
    exact List.mem_append_right _ (mem_looseClasses_open ho.solid ho.trivia hmark hescape hlast)

/-- The last rule has an escaped colon behind a string with a brace, a comment before its block, and
an address and an escaped quote in it. In front of the rule stands a comment with a brace. -/
theorem classNames_lost_brace_two_rules :
    let selector : Text := ".x, [t=\".z\x7d\"] .w\\:1".toList
    let body : Text := "b:url(.v);c:\"\\\"\x7d\"".toList
    let css : Text := ".a\x7bb:c\x7d/*\x7b*/ ".toList ++
      (selector ++ ("/**/ \x7b".toList ++ (body ++ ['}'])))
    let r : Rule := ⟨selector, body, 13, 56, true, false⟩
    EndsFlat css r ∧ ¬ MarksAddress r.selector ∧
      classNames css = [['a'], ['x'], ['w', ':', '1']] ∧
      ∃ t, css = t ++ ['}'] ∧ parseRules t = (parseRules css).dropLast ∧
        ∀ w ∈ classNames css, w ∈ classNames t := by
  intro selector body css r
  have hends : EndsFlat css r :=
    ⟨by decide +kernel, ⟨rfl, by decide +kernel⟩, rfl, by decide +kernel⟩
  have hmark : ¬ MarksAddress r.selector := by decide +kernel
  have hnames : classNames css = [['a'], ['x'], ['w', ':', '1']] := by decide +kernel
  exact ⟨hends, hmark, hnames, classNames_lost_brace hends hmark (by decide +kernel)⟩

end ClassPurge.Css
