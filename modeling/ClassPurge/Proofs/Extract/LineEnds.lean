import ClassPurge.Extract.Heuristic
import ClassPurge.Proofs.Extract.SameLines
import Mathlib.Data.List.Forall2

/-!
What the heuristics find in a text does not depend on whether its lines end in one character or in
two. Nothing that they look for begins with a line end, a line end of either kind is blank, and
what bars one bars the other.
-/

namespace ClassPurge.Extract

open Text

variable {α β : Type} {t u r s : Text}

/-! ### Parts of words, and what is enclosed -/

lemma afterSegments_lineFeed (t : Text) : afterSegments ('\n' :: t) = '\n' :: t := by
  cases t with
  | nil => rw [afterSegments]; simp
  | cons d r => rw [afterSegments, if_neg (by simp)]

lemma SameLines.restInline_afterSegments (h : SameLines t u) :
    RestInline t u (afterSegments t) (afterSegments u) := by
  fun_induction afterSegments t generalizing u with
  | case1 c d r hcd ih =>
    obtain ⟨hcolon, hd⟩ := Bool.and_eq_true_iff.mp hcd
    have hc := inline_of_kind (p := fun c => c == ':' || c == '/') (by decide) (by decide) hcolon
    have hd := inline_of_kind (p := isSegment) (by decide) (by decide) hd
    cases h with
    | char _ h =>
      cases h with
      | char _ h =>
        rw [afterSegments, if_pos hcd]
        have hdrop := h.restInline_dropWhile (p := isSegment) (by decide) (by decide)
        exact ((hdrop.trans (ih hdrop.sameLines)).cons hd).cons hc
      | lineEnd h => exact absurd rfl hd.1
    | lineEnd h => exact absurd rfl hc.1
  | case2 c d r hcd =>
    have hsame := h.restInline
    cases h with
    | @char _ _ u' _ h =>
      cases h with
      | char _ h => rwa [afterSegments, if_neg hcd]
      | lineEnd h => rwa [afterSegments, if_neg (by simp [show isSegment '\n' = false by decide])]
    | lineEnd h => rwa [afterSegments_lineFeed]
  | case3 t ht =>
    have hsame := h.restInline
    cases h with
    | nil => rwa [afterSegments]; simp
    | char _ h =>
      cases h with
      | nil => rwa [afterSegments]; simp
      | char _ h => exact absurd rfl (ht _ _ _)
      | lineEnd h => exact absurd rfl (ht _ _ _)
    | lineEnd h => exact absurd rfl (ht _ _ _)

lemma enclosed?_cons (q : Char) (barred : Char → Bool) (c : Char) (t : Text) :
    enclosed? q barred (c :: t) = if c = q then some ([], t) else if barred c then none else
      (enclosed? q barred t).map fun x => (c :: x.1, x.2) := by
  simp only [enclosed?, cut?]
  by_cases hq : c = q
  · simp [hq]
  · cases hb : barred c with
    | true => simp [hq]
    | false =>
      simp only [beq_iff_eq, hq, Bool.or_false]
      cases cut? (fun c => c == q || barred c) t with
      | none => rfl
      | some x =>
        obtain ⟨a, d, b⟩ := x
        by_cases hd : d = q <;> simp [hd]

/-- Both answers are given, and are in the relation, with the same lines left behind them. -/
abbrev Finds (R : α → β → Prop) (t u : Text) : Option (α × Text) → Option (β × Text) → Prop :=
  Option.Rel fun x y => R x.1 y.1 ∧ Rest t u x.2 y.2

lemma SameLines.enclosed? {q : Char} {barred : Char → Bool} (hq : q ≠ '\r' ∧ q ≠ '\n')
    (hb : barred '\r' → barred '\n') (h : SameLines t u) :
    Finds SameLines t u (enclosed? q barred t) (Extract.enclosed? q barred u) := by
  induction h with
  | nil => exact .none
  | @char c t u hc h ih =>
    rw [enclosed?_cons, enclosed?_cons]
    split
    · exact .some ⟨.nil, h.rest_char hc⟩
    · split
      · exact .none
      · exact rel_map ih fun _ _ h' => ⟨.char hc h'.1, (h.rest_char hc).trans h'.2⟩
  | lineEnd h ih =>
    have hskip : Rest _ _ _ _ :=
      .behind (p := ['\r', '\n']) (q := ['\n']) rfl rfl (.lineEnd .nil) h
    rw [enclosed?_cons, if_neg hq.1.symm, enclosed?_cons, if_neg hq.2.symm, enclosed?_cons,
      if_neg hq.2.symm]
    cases hn : barred '\n' with
    | true =>
      rw [if_pos rfl, if_pos rfl]
      split <;> exact .none
    | false =>
      have hr : barred '\r' = false := by simpa [hn] using hb
      simp only [hr, Bool.false_eq_true, if_false, Option.map_map]
      exact rel_map ih fun _ _ h' => ⟨.lineEnd h'.1, hskip.trans h'.2⟩

lemma SameLines.enclosed?_inline {q : Char} {barred : Char → Bool} (hq : q ≠ '\r' ∧ q ≠ '\n')
    (hb : barred '\n' = true) (h : SameLines t u) :
    Option.Rel (fun x y => x.1 = y.1 ∧ RestInline t u x.2 y.2)
      (Extract.enclosed? q barred t) (Extract.enclosed? q barred u) := by
  induction h with
  | nil => exact .none
  | @char c t u hc h ih =>
    rw [enclosed?_cons, enclosed?_cons]
    split
    · rename_i heq
      exact .some ⟨rfl, h.restInline.cons (heq ▸ hq)⟩
    · split
      · exact .none
      · rename_i hfree
        have hin : c ≠ '\n' := by
          rintro rfl
          exact hfree hb
        exact rel_map ih fun _ _ h' => ⟨congrArg (c :: ·) h'.1, h'.2.cons ⟨hc, hin⟩⟩
  | lineEnd h =>
    rw [enclosed?_cons, if_neg hq.1.symm, enclosed?_cons, if_neg hq.2.symm, enclosed?_cons,
      if_neg hq.2.symm, if_pos hb, if_pos hb]
    split <;> exact .none

/-! ### Recognisers -/

/-- The recogniser finds the same in the same lines, and nothing that begins with a line end. -/
structure InStep (m : Recognizer α) (R : α → α → Prop) : Prop where
  lineEnd {c : Char} (hc : c = '\r' ∨ c = '\n') (before : Option Char) (t : Text) :
    m before (c :: t) = none
  finds {t u : Text} (h : SameLines t u) (before : Option Char) :
    Finds R t u (m before t) (m before u)

section

variable {m : Recognizer α} {R : α → α → Prop}

/-- A search goes on at the same place in both texts. -/
lemma Rest.resume {c : Char} (hc : c ≠ '\r') (ht : SameLines t u)
    (h : Rest (c :: t) (c :: u) r s) :
    (c :: t)[t.length - r.length]? = (c :: u)[u.length - s.length]? ∧
      SameLines (t.drop (t.length - r.length)) (u.drop (u.length - s.length)) := by
  have hlast (p r : Text) : (c :: (p ++ r))[(p ++ r).length - r.length]? = (c :: p).getLast? := by
    rw [← List.cons_append, List.length_append, Nat.add_sub_cancel, List.getLast?_eq_getElem?,
      List.getElem?_append_left (by simp)]
    rfl
  obtain ⟨hr, hs, h, hrest⟩ := h
  cases h with
  | nil =>
    obtain rfl : c :: t = r := hr
    obtain rfl : c :: u = s := hs
    simpa using ht
  | @char _ p q _ h =>
    obtain rfl : t = p ++ r := (List.cons.inj hr).2
    obtain rfl : u = q ++ s := (List.cons.inj hs).2
    rw [hlast, hlast]
    exact ⟨(SameLines.char hc h).getLast?_eq, by simpa using hrest⟩
  | lineEnd h => exact absurd (List.cons.inj hr).1 hc

lemma InStep.occurrencesFrom_lineFeed (h : InStep m R) (before before' : Option Char) (t : Text) :
    occurrencesFrom m before ('\n' :: t) = occurrencesFrom m before' ('\n' :: t) := by
  rw [Extract.occurrencesFrom, Extract.occurrencesFrom, h.lineEnd (.inr rfl), h.lineEnd (.inr rfl)]

lemma InStep.occurrencesFrom (h : InStep m R) (ht : SameLines t u) (before : Option Char) :
    List.Forall₂ R (occurrencesFrom m before t) (Extract.occurrencesFrom m before u) := by
  fun_induction Extract.occurrencesFrom m before t generalizing u with
  | case1 before =>
    cases ht
    rw [Extract.occurrencesFrom]
    exact .nil
  | case2 before c t a r hm k =>
    rename_i ih
    cases ht with
    | @char _ _ u hc ht =>
      obtain ⟨⟨b, s⟩, hu, hab, hleft⟩ := eq_some_of_rel (hm ▸ h.finds (.char hc ht) before)
      obtain ⟨hlast, hrest⟩ := hleft.resume hc ht
      rw [Extract.occurrencesFrom, hu]
      dsimp only
      rw [← hlast]
      exact .cons hab (ih hrest)
    | lineEnd ht =>
      rw [h.lineEnd (.inl rfl)] at hm
      cases hm
  | case3 before c t hm ih =>
    cases ht with
    | @char _ _ u hc ht =>
      have hfinds := h.finds (.char hc ht) before
      rw [hm] at hfinds
      rw [Extract.occurrencesFrom, eq_none_of_rel hfinds]
      exact ih ht
    | lineEnd ht =>
      -- Between the two characters of the line end only the first text has a place.
      rw [h.occurrencesFrom_lineFeed before (some '\r')]
      exact ih (.char (by decide) ht)

lemma InStep.replaceFrom_lineFeed (h : InStep m R) (new : Text) (before : Option Char) (t : Text) :
    replaceFrom m new before ('\n' :: t) = '\n' :: replaceFrom m new (some '\n') t := by
  rw [Extract.replaceFrom, h.lineEnd (.inr rfl)]

/-- What replaces the finds may end no line. -/
lemma InStep.replaceFrom (h : InStep m R) {new : Text} (hnew : Inline new) (ht : SameLines t u)
    (before : Option Char) :
    SameLines (replaceFrom m new before t) (Extract.replaceFrom m new before u) := by
  fun_induction Extract.replaceFrom m new before t generalizing u with
  | case1 before =>
    cases ht
    rw [Extract.replaceFrom]
    exact .nil
  | case2 before c t a r hm k =>
    rename_i ih
    cases ht with
    | @char _ _ u hc ht =>
      obtain ⟨⟨b, s⟩, hu, -, hleft⟩ := eq_some_of_rel (hm ▸ h.finds (.char hc ht) before)
      obtain ⟨hlast, hrest⟩ := hleft.resume hc ht
      rw [Extract.replaceFrom, hu]
      dsimp only
      rw [← hlast]
      exact hnew.sameLines.append (ih hrest)
    | lineEnd ht =>
      rw [h.lineEnd (.inl rfl)] at hm
      cases hm
  | case3 before c t hm ih =>
    cases ht with
    | @char _ _ u hc ht =>
      have hfinds := h.finds (.char hc ht) before
      rw [hm] at hfinds
      rw [Extract.replaceFrom, eq_none_of_rel hfinds]
      exact .char hc (ih ht)
    | lineEnd ht =>
      have hagain := ih (.char (by decide) ht)
      rw [h.replaceFrom_lineFeed, h.replaceFrom_lineFeed] at hagain
      rw [h.replaceFrom_lineFeed, h.replaceFrom_lineFeed]
      cases hagain with
      | char _ hagain => exact .lineEnd hagain

lemma InStep.firstFrom? (h : InStep m R) (ht : SameLines t u) (before : Option Char) :
    Option.Rel (fun x y => R x.1 y.1 ∧ SameLines x.2 y.2) (firstFrom? m before t)
      (Extract.firstFrom? m before u) := by
  induction ht generalizing before with
  | nil => exact .none
  | @char c t u hc ht ih =>
    rw [Extract.firstFrom?, Extract.firstFrom?]
    have hfinds := h.finds (.char hc ht) before
    generalize m before (c :: t) = x, m before (c :: u) = y at hfinds
    cases hfinds with
    | none => exact ih _
    | some h' => exact .some ⟨h'.1, h'.2.sameLines⟩
  | lineEnd ht ih =>
    simp only [Extract.firstFrom?, h.lineEnd (.inl rfl), h.lineEnd (.inr rfl), Option.none_or]
    exact ih _

end

/-! ### The recognisers of the heuristics -/

lemma Finds.behind {R : α → β → Prop} {x : Option (α × Text)} {y : Option (β × Text)}
    (hleft : Rest t u r s) (h : Finds R r s x y) : Finds R t u x y :=
  rel_imp h fun _ _ h' => ⟨h'.1, hleft.trans h'.2⟩

/-- A string in quotes of some kind, with nothing in it that is barred. -/
def string? (quote : Char → Bool) (barred : Char → Char → Bool) : Text → Option (Text × Text)
  | q :: r => if quote q then enclosed? q (barred q) r else none
  | [] => none

section

variable (quote : Char → Bool) (barred : Char → Char → Bool)

lemma string?_lineEnd {c : Char} (hr : quote '\r' = false) (hn : quote '\n' = false)
    (hc : c = '\r' ∨ c = '\n') (t : Text) : string? quote barred (c :: t) = none := by
  rcases hc with rfl | rfl
  · rw [string?, if_neg (by simp [hr])]
  · rw [string?, if_neg (by simp [hn])]

lemma SameLines.string? (hr : quote '\r' = false) (hn : quote '\n' = false)
    (hb : ∀ q, barred q '\r' → barred q '\n') (h : SameLines t u) :
    Finds SameLines t u (string? quote barred t) (Extract.string? quote barred u) := by
  cases h with
  | nil => exact .none
  | @char c t u hc h =>
    rw [Extract.string?, Extract.string?]
    split
    · rename_i hq
      have hquote := inline_of_kind hr hn hq
      exact Finds.behind (h.rest_char hc) (h.enclosed? hquote (hb c))
    · exact .none
  | lineEnd h =>
    have hnone {c : Char} := string?_lineEnd quote barred (c := c) hr hn
    rw [hnone (.inl rfl), hnone (.inr rfl)]
    exact .none

end

lemma inStep_attributeValue {name : Text} (hname : Inline name) (hne : name ≠ []) :
    InStep (attributeValue name) SameLines where
  lineEnd hc before t := by
    rw [attributeValue, after?_lineEnd hname hne hc]
    split <;> rfl
  finds h before := by
    rw [attributeValue, attributeValue]
    split
    · exact .none
    · refine rel_bind (h.after? hname) fun r s hr => ?_
      have hblank := hr.sameLines.rest_stripStart
      refine rel_bind (hblank.sameLines.after? (by decide)) fun r' s' hr' => ?_
      have hblank' := hr'.sameLines.rest_stripStart
      exact Finds.behind (((hr.rest.trans hblank).trans hr'.rest).trans hblank')
        (hblank'.sameLines.string? (fun q => q == '"' || q == '\'') (fun _ => nothingBarred)
          (by decide) (by decide) (by simp [nothingBarred]))

lemma inStep_fragment : InStep fragment SameLines where
  lineEnd hc before t := string?_lineEnd isStringQuote (fun q c => q != '\x60' && c == '\n')
    (by decide) (by decide) hc t
  finds h before := h.string? isStringQuote (fun q c => q != '\x60' && c == '\n')
    (by decide) (by decide) (by simp)

lemma inStep_stringLiteral : InStep stringLiteral SameLines where
  lineEnd hc before t := string?_lineEnd isStringQuote (fun _ => nothingBarred)
    (by decide) (by decide) hc t
  finds h before := h.string? isStringQuote (fun _ => nothingBarred)
    (by decide) (by decide) (by simp [nothingBarred])

lemma inStep_attributeName : InStep attributeName Eq where
  lineEnd hc before t := by
    rw [attributeName]
    split
    · rfl
    · simp [after?_lineEnd (w := markupName) (by decide) (by decide) hc,
        after?_lineEnd (w := componentName) (by decide) (by decide) hc]
  finds h before := by
    rw [attributeName, attributeName]
    split
    · exact .none
    · refine rel_findSome? fun name hname => ?_
      have hinline : ∀ name ∈ [markupName, componentName], Inline name := by decide
      refine rel_bind (h.after? (hinline name hname)) fun r s hr => ?_
      have hhead : r.head?.any isWord = s.head?.any isWord := by
        cases hr.sameLines with
        | lineEnd _ => simp; decide
        | _ => rfl
      rw [hhead]
      split
      · exact .none
      · exact .some ⟨rfl, hr.rest⟩

lemma inStep_interpolation : InStep interpolation Eq where
  lineEnd hc before t := by
    rw [interpolation, after?_lineEnd (by decide) (by decide) hc]
    rfl
  finds h before := by
    rw [interpolation, interpolation]
    refine rel_bind (h.after? (by decide)) fun r s hr => ?_
    refine rel_bind (hr.sameLines.enclosed? (by decide) (by decide)) fun x y hxy => ?_
    exact .some ⟨rfl, hr.rest.trans hxy.2⟩

lemma SameLines.restInline_hyphen (h : SameLines t u) :
    RestInline t u ((Text.after? ['-'] t).getD t) ((Text.after? ['-'] u).getD u) := by
  have hafter := h.after? (w := ['-']) (by decide)
  generalize Text.after? ['-'] t = x, Text.after? ['-'] u = y at hafter
  cases hafter with
  | none => exact h.restInline
  | some hleft => exact hleft

lemma inStep_classWord : InStep classWord Eq where
  lineEnd hc before t := by
    rw [classWord, after?_lineEnd (by decide) (by decide) hc]
    split
    · rfl
    · rcases hc with rfl | rfl <;> rfl
  finds {t u} h before := by
    rw [classWord, classWord]
    split
    · exact .none
    · have hstart := h.restInline_hyphen
      generalize (Text.after? ['-'] t).getD t = r, (Text.after? ['-'] u).getD u = s at hstart ⊢
      cases hstart.sameLines with
      | nil => exact .none
      | lineEnd _ => exact .none
      | @char c r s hc hrest =>
        dsimp only
        split
        · rename_i hletter
          have hdrop := hrest.restInline_dropWhile (p := isName) (by decide) (by decide)
          have hparts := (hdrop.trans hdrop.sameLines.restInline_afterSegments).cons
            (inline_of_kind (p := Char.isAlpha) (by decide) (by decide) hletter)
          have hall := hstart.trans hparts
          exact .some ⟨hall.upTo_eq, hall.rest⟩
        · exact .none

lemma SameLines.literal? (h : SameLines t u) :
    Option.Rel (fun x y => x.1 = y.1 ∧ RestInline t u x.2 y.2) (literal? t)
      (Extract.literal? u) := by
  cases h with
  | nil => exact .none
  | @char c t u hc h =>
    rw [Extract.literal?, Extract.literal?]
    split
    · rename_i hq
      have hquote := inline_of_kind (p := isStringQuote) (by decide) (by decide) hq
      exact rel_imp (h.enclosed?_inline hquote (by decide)) fun _ _ h' => ⟨h'.1, h'.2.cons hquote⟩
    · exact .none
  | lineEnd h => exact .none

lemma inStep_conditional : InStep conditional Eq where
  lineEnd hc before t := by
    rw [conditional, after?_lineEnd (by decide) (by decide) hc]
    rfl
  finds h before := by
    rw [conditional, conditional]
    refine rel_bind (h.after? (by decide)) fun r s hr => ?_
    have hblank := hr.sameLines.rest_stripStart
    refine rel_bind hblank.sameLines.literal? fun x y hxy => ?_
    have hblank' := hxy.2.sameLines.rest_stripStart
    refine rel_bind (hblank'.sameLines.after? (by decide)) fun r' s' hr' => ?_
    have hblank'' := hr'.sameLines.rest_stripStart
    have hleft := (((hr.rest.trans hblank).trans hxy.2.rest).trans hblank').trans
      (hr'.rest.trans hblank'')
    have hsecond := hblank''.sameLines.literal?
    generalize Extract.literal? (stripStart r') = a, Extract.literal? (stripStart s') = b at hsecond
    cases hsecond with
    | none => exact .some ⟨by rw [hxy.1], hleft⟩
    | some h' => exact .some ⟨by rw [hxy.1, h'.1], hleft.trans h'.2.rest⟩

lemma inline_scales : ∀ p ∈ [] :: scales.map (· ++ ['-']), Inline (p ++ ['[']) := by decide

lemma inStep_arbitrary : InStep arbitrary Eq where
  lineEnd {c} hc before t := by
    have hnone : (([] :: scales.map (· ++ ['-'])).findSome? fun p =>
        Text.after? (p ++ ['[']) (c :: t)) = none :=
      List.findSome?_eq_none_iff.mpr fun p hp => after?_lineEnd (inline_scales p hp) (by simp) hc t
    rw [arbitrary, hnone]
    split <;> rfl
  finds h before := by
    rw [arbitrary, arbitrary]
    split
    · exact .none
    · refine rel_bind (rel_findSome? fun p hp => h.after? (inline_scales p hp)) fun r s hr => ?_
      refine rel_bind (hr.sameLines.enclosed?_inline (by decide) (by decide)) fun x y hxy => ?_
      have hleft := hr.trans hxy.2
      dsimp only
      rw [hxy.1, hleft.upTo_eq]
      split
      · exact .none
      · exact .some ⟨rfl, hleft.rest⟩

lemma inStep_propertyName : InStep propertyName Eq where
  lineEnd hc before t := by
    rw [propertyName, after?_lineEnd (by decide) (by decide) hc]
    split
    · rfl
    · rcases hc with rfl | rfl <;> rfl
  finds {t u} h before := by
    rw [propertyName, propertyName]
    split
    · exact .none
    · have hstart := h.restInline_hyphen
      generalize (Text.after? ['-'] t).getD t = r, (Text.after? ['-'] u).getD u = s at hstart ⊢
      cases hstart.sameLines with
      | nil => exact .none
      | lineEnd _ => exact .none
      | @char c r s hc hrest =>
        dsimp only
        split
        · rename_i hletter
          have hdrop := (hrest.restInline_dropWhile (p := isName) (by decide) (by decide)).cons
            (inline_of_kind (p := Char.isAlpha) (by decide) (by decide) hletter)
          have hname := hstart.trans hdrop
          have hblank := hname.sameLines.rest_stripStart
          refine rel_bind (hblank.sameLines.after? (by decide)) fun r' s' hr' => ?_
          have hhead : r'.head?.all isBlank = s'.head?.all isBlank := by
            cases hr'.sameLines with
            | lineEnd _ => rfl
            | _ => rfl
          rw [hhead, hname.upTo_eq]
          split
          · exact .some ⟨rfl, (hname.rest.trans hblank).trans hr'.rest⟩
          · exact .none
        · exact .none

lemma inStep_plainWords : InStep plainWords Eq where
  lineEnd hc before t := by
    rcases hc with rfl | rfl <;> rfl
  finds h before := by
    cases h with
    | nil => exact .none
    | @char c t u hc h =>
      rw [plainWords, plainWords]
      split
      · rename_i hq
        have hquote :=
          inline_of_kind (p := fun q => q == '"' || q == '\'') (by decide) (by decide) hq
        refine rel_bind (h.enclosed? hquote (by simp [nothingBarred])) fun x y hxy => ?_
        dsimp only
        rw [hxy.1.words_eq]
        split
        · exact .some ⟨rfl, (h.rest_char hc).trans hxy.2⟩
        · exact .none
      · exact .none
    | lineEnd h => exact .none

lemma inline_helperNames : ∀ name ∈ helperNames, Inline name ∧ name ≠ [] := by decide

lemma inStep_helperCall : InStep helperCall (List.Forall₂ SameLines) where
  lineEnd {c} hc before t := by
    rw [helperCall]
    split
    · rfl
    · refine List.findSome?_eq_none_iff.mpr fun name hname => ?_
      obtain ⟨hinline, hne⟩ := inline_helperNames name hname
      rw [after?_lineEnd hinline hne hc]
      rfl
  finds h before := by
    rw [helperCall, helperCall]
    split
    · exact .none
    · refine rel_findSome? fun name hname => ?_
      refine rel_bind (h.after? (inline_helperNames name hname).1) fun r s hr => ?_
      have hblank := hr.sameLines.rest_stripStart
      have hleft := hr.rest.trans hblank
      generalize stripStart r = r', stripStart s = s' at hblank hleft ⊢
      cases hblank.sameLines with
      | nil => exact .none
      | lineEnd _ => exact .none
      | @char c r s hc hrest =>
        have hopen := hleft.trans (hrest.rest_char hc)
        split
        · rename_i heq
          cases heq
          refine rel_bind (hrest.enclosed? (by decide) (by decide)) fun x y hxy => ?_
          exact .some ⟨inStep_stringLiteral.occurrencesFrom hxy.1 none, hopen.trans hxy.2⟩
        · rename_i heq
          cases heq
          refine rel_bind (hrest.enclosed? (by decide) (by decide)) fun x y hxy => ?_
          exact .some ⟨.cons hxy.1 .nil, hopen.trans hxy.2⟩
        · rename_i hround hback
          split
          · rename_i heq
            cases heq
            exact absurd rfl (hround _)
          · rename_i heq
            cases heq
            exact absurd rfl (hback _)
          · exact .none

/-! ### The heuristics -/

lemma flatMap_congr {R : α → α → Prop} {f : α → List β} {l l' : List α} (h : List.Forall₂ R l l')
    (hf : ∀ a b, R a b → f a = f b) : l.flatMap f = l'.flatMap f := by
  induction h with
  | nil => rfl
  | cons hab _ ih => rw [List.flatMap_cons, List.flatMap_cons, hf _ _ hab, ih]

lemma InStep.occurrences_eq {m : Recognizer α} (h : InStep m Eq) (ht : SameLines t u) :
    occurrences m t = occurrences m u := by
  have hall := h.occurrencesFrom ht none
  rwa [List.forall₂_eq_eq_eq] at hall

lemma SameLines.attributeWords_eq {name : Text} (hname : Inline name) (hne : name ≠ [])
    (h : SameLines t u) : attributeWords name t = attributeWords name u :=
  flatMap_congr ((inStep_attributeValue hname hne).occurrencesFrom h none)
    fun _ _ h => h.words_eq

lemma SameLines.dropInterpolations (h : SameLines t u) :
    SameLines (dropInterpolations t) (Extract.dropInterpolations u) :=
  inStep_interpolation.replaceFrom (by decide) h none

lemma SameLines.fragmentWords_eq (h : SameLines t u) : fragmentWords t = fragmentWords u := by
  have hfirst := inStep_attributeName.firstFrom? h none
  rw [fragmentWords, fragmentWords]
  generalize firstFrom? attributeName none t = x, firstFrom? attributeName none u = y at hfirst ⊢
  cases hfirst with
  | none => rfl
  | some h' =>
    dsimp only
    rw [classWords, classWords, inStep_classWord.occurrences_eq h'.2.dropInterpolations]

lemma SameLines.pieceWords_eq (h : SameLines t u) : pieceWords t = pieceWords u := by
  have hdrop := h.dropInterpolations
  rw [pieceWords, pieceWords, classWords, classWords, inStep_classWord.occurrences_eq hdrop,
    inStep_propertyName.occurrences_eq hdrop]

lemma SameLines.heuristic_eq (h : SameLines t u) : ∀ f ∈ heuristics, f t = f u := by
  have hcalls : templateCalls t = templateCalls u :=
    flatMap_congr (inStep_helperCall.occurrencesFrom h none) fun _ _ hpieces =>
      flatMap_congr hpieces fun _ _ h => h.pieceWords_eq
  have hquoted : quotedWords t = quotedWords u := by
    rw [quotedWords, quotedWords, inStep_plainWords.occurrences_eq h]
  simp only [heuristics, List.forall_mem_cons]
  refine ⟨?_, ?_, ?_, ?_, ?_, ?_, by simp⟩
  · exact h.attributeWords_eq (by decide) (by decide)
  · exact h.attributeWords_eq (by decide) (by decide)
  · exact flatMap_congr (inStep_fragment.occurrencesFrom h none) fun _ _ h => h.fragmentWords_eq
  · rw [ternaryLiterals, ternaryLiterals, inStep_conditional.occurrences_eq h]
  · rw [arbitraryValues, arbitraryValues, inStep_arbitrary.occurrences_eq h]
  · rw [catchAll, catchAll, hcalls, hquoted]

/-- **Line ends do not matter to the heuristics**, as long as no carriage return stands alone. -/
theorem candidates_unifyLineEnds (h : PairsReturns t) :
    candidates t.unifyLineEnds = candidates t := by
  have hsame := (sameLines_unify h).heuristic_eq
  rw [candidates, candidates, List.flatMap_congr hsame]

end ClassPurge.Extract
