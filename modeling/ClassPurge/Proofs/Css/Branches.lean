import ClassPurge.Proofs.Css.Names
import ClassPurge.Proofs.Css.Respelling

/-!
The branches of a selector: what stands between its commas, apart from those in strings, in
parentheses and in brackets. A backslash takes the next token with it, so an escaped comma cuts
nothing. Neither a string nor a class name runs over a cut, and so the classes of a selector are
those of its branches.
-/

namespace ClassPurge.Css

/-- The number of open parentheses and brackets after a token. -/
def nestingAfter (depth : Nat) : Token → Nat
  | .char c =>
    if c == '(' || c == '[' then depth + 1
    else if c == ')' || c == ']' then depth - 1
    else depth
  | _ => depth

/-- The tokens `p` put before the first of the branches. -/
def prepend (p : List Token) : List (List Token) → List (List Token)
  | [] => [p]
  | b :: bs => (p ++ b) :: bs

/-- The pieces between the commas outside parentheses and brackets; always at least one. -/
def branchesAt (depth : Nat) : List Token → List (List Token)
  | [] => [[]]
  | .char '\\' :: k :: ts => prepend [.char '\\', k] (branchesAt depth ts)
  | k :: ts =>
    if k = .char ',' ∧ depth = 0 then [] :: branchesAt 0 ts
    else prepend [k] (branchesAt (nestingAfter depth k) ts)

/-- The branches of a selector, in their order. -/
def branches (selector : Text) : List Text := (branchesAt 0 (quoteTokens selector)).map spell

/-! ### Blanking token by token -/

/-- What is left of a token when closed strings are blanked. -/
def blankToken : Token → Text
  | .string _ => emptyString
  | .unclosed t => blankStrings t
  | k => k.text

def blanked (ts : List Token) : Text := ts.flatMap blankToken

/-- Tokens of text in which comments mean nothing: only the last may be a string that does not
close. -/
inductive Quoted : List Token → Prop
  | nil : Quoted []
  | unclosed (t : Text) : Quoted [.unclosed t]
  | cons {k : Token} {ts : List Token} (hs : k.Sealed) (hp : ¬ k.isComment) (h : Quoted ts) :
      Quoted (k :: ts)

@[simp] lemma blanked_nil : blanked [] = [] := rfl

@[simp] lemma blanked_cons (k : Token) (ts : List Token) :
    blanked (k :: ts) = blankToken k ++ blanked ts := rfl

@[simp] lemma blanked_append (ts us : List Token) :
    blanked (ts ++ us) = blanked ts ++ blanked us := List.flatMap_append ..

lemma quoted_quoteTokens (t : Text) : Quoted (quoteTokens t) := by
  unfold quoteTokens
  fun_induction scan false t with
  | case1 => exact .nil
  | case2 => exact .unclosed _
  | case3 c r hc r' h ih =>
    obtain ⟨b, hb, rfl⟩ := stringBody_of_afterString? h
    have htext : Text.upTo (c :: (b ++ c :: r')) r' = c :: (b ++ [c]) := by
      rw [← upTo_left (c :: (b ++ [c])) r']
      simp
    rw [htext]
    exact .cons (.string hc hb) (by simp [Token.isComment]) ih
  | case4 c r _ h => simp at h
  | case5 c r hc _ ih => exact .cons (.char hc) (by simp [Token.isComment]) ih

lemma Quoted.of_append {vs ts us : List Token} (h : Quoted vs) (he : vs = ts ++ us) :
    Quoted ts ∧ Quoted us := by
  induction h generalizing ts with
  | nil =>
    obtain ⟨rfl, rfl⟩ := List.append_eq_nil_iff.mp he.symm
    exact ⟨.nil, .nil⟩
  | unclosed t =>
    rcases List.append_eq_singleton_iff.mp he.symm with ⟨rfl, rfl⟩ | ⟨rfl, rfl⟩
    · exact ⟨.nil, .unclosed t⟩
    · exact ⟨.unclosed t, .nil⟩
  | cons hs hp h ih =>
    cases ts with
    | nil =>
      rw [List.nil_append] at he
      exact ⟨.nil, he ▸ .cons hs hp h⟩
    | cons k ts =>
      rw [List.cons_append, List.cons.injEq] at he
      obtain ⟨rfl, he⟩ := he
      obtain ⟨hts, hus⟩ := ih he
      exact ⟨.cons hs hp hts, hus⟩

lemma blankStrings_char {c : Char} (hc : ¬ isQuote c) (t : Text) :
    blankStrings (c :: t) = c :: blankStrings t := by
  rw [blankStrings.eq_2, if_neg hc]

lemma blankStrings_string {q : Char} {b : Text} (hq : isQuote q) (hb : StringBody q b) (t : Text) :
    blankStrings (q :: (b ++ q :: t)) = emptyString ++ blankStrings t := by
  have h := afterString?_stringBody hq hb t
  rw [blankStrings.eq_2, if_pos hq]
  split
  · rename_i r hr
    obtain rfl : t = r := by simpa [h] using hr
    rfl
  · simp_all

lemma blankStrings_token {k : Token} (hs : k.Sealed) (hp : ¬ k.isComment) (t : Text) :
    blankStrings (k.text ++ t) = blankToken k ++ blankStrings t := by
  cases hs with
  | @string q b hq hb =>
    have hcut : q :: (b ++ [q]) ++ t = q :: (b ++ q :: t) := by simp
    rw [Token.text, hcut, blankStrings_string hq hb]
    rfl
  | comment => exact absurd rfl hp
  | char hc => exact blankStrings_char hc t

lemma Quoted.blankStrings_spell {ts : List Token} (h : Quoted ts) :
    blankStrings (spell ts) = blanked ts := by
  induction h with
  | nil => exact blankStrings.eq_1
  | unclosed t => simp [Token.text, blankToken]
  | cons hs hp _ ih => rw [spell_cons, blankStrings_token hs hp, ih, blanked_cons]

lemma blankStrings_spell_append {ts : List Token} (hs : AllSealed ts) (hp : Plain ts) (t : Text) :
    blankStrings (spell ts ++ t) = blanked ts ++ blankStrings t := by
  induction ts with
  | nil => rfl
  | cons k ts ih =>
    obtain ⟨hk, hs⟩ := allSealed_cons.mp hs
    obtain ⟨hpk, hp⟩ := List.forall_mem_cons.mp hp
    rw [spell_cons, List.append_assoc, blankStrings_token hk hpk, ih hs hp, blanked_cons,
      List.append_assoc]

/-! ### Cutting at commas -/

lemma separates_comma : Separates ',' := ⟨by decide, by decide, by decide⟩

/-- The lists are what stands between some of the commas of `ts`, none of which is escaped. -/
inductive Cut : List Token → List (List Token) → Prop
  | whole (ts : List Token) : Cut ts [ts]
  | comma {b ts : List Token} {bs : List (List Token)} (hb : EscapesClose (blanked b))
      (h : Cut ts bs) : Cut (b ++ .char ',' :: ts) (b :: bs)

lemma Cut.prepend {p ts : List Token} {bs : List (List Token)}
    (hp : ∀ t, EscapesClose t → EscapesClose (blanked p ++ t)) (h : Cut ts bs) :
    Cut (p ++ ts) (prepend p bs) := by
  cases h with
  | whole => exact .whole _
  | @comma b us bs hb h =>
    rw [Css.prepend, ← List.append_assoc]
    refine .comma ?_ h
    rw [blanked_append]
    exact hp _ hb

lemma Quoted.cases_cons {k : Token} {ts : List Token} (h : Quoted (k :: ts)) :
    (k.Sealed ∧ ¬ k.isComment) ∨ ts = [] := by
  cases h with
  | unclosed => exact .inr rfl
  | cons hs hp _ => exact .inl ⟨hs, hp⟩

lemma escapesClose_blankToken {k : Token} (hs : k.Sealed) (hp : ¬ k.isComment)
    (hk : k ≠ .char '\\') {t : Text} (h : EscapesClose t) : EscapesClose (blankToken k ++ t) := by
  cases hs with
  | string => exact (escapesClose_cons (by decide) _).mpr ((escapesClose_cons (by decide) _).mpr h)
  | comment => exact absurd rfl hp
  | char => exact (escapesClose_cons (fun hc => hk (congrArg Token.char hc)) t).mpr h

/-- A backslash escapes the first character of what is left of the next token. -/
lemma escapesClose_escape {k : Token} (hs : k.Sealed) (hp : ¬ k.isComment) {t : Text}
    (h : EscapesClose t) : EscapesClose ('\\' :: (blankToken k ++ t)) := by
  cases hs with
  | string => exact (escapesClose_cons (by decide) t).mpr h
  | comment => exact absurd rfl hp
  | char => exact h

lemma branchesAt_nil (depth : Nat) : branchesAt depth [] = [[]] := by rw [branchesAt]

lemma cut_branchesAt {depth : Nat} {ts : List Token} (h : Quoted ts) :
    Cut ts (branchesAt depth ts) := by
  induction depth, ts using branchesAt.induct with
  | case1 depth =>
    rw [branchesAt_nil]
    exact .whole []
  | case2 depth k ts ih =>
    obtain ⟨-, hk⟩ := h.of_append (List.singleton_append ..).symm
    obtain ⟨-, hts⟩ := hk.of_append (List.singleton_append ..).symm
    rw [branchesAt]
    rcases hk.cases_cons with ⟨hs, hp⟩ | rfl
    · refine Cut.prepend (p := [.char '\\', k]) (fun t ht => ?_) (ih hts)
      simpa [blankToken, Token.text] using escapesClose_escape hs hp ht
    · rw [branchesAt_nil]
      exact .whole _
  | case3 depth k ts hlone hcomma ih =>
    obtain ⟨-, hts⟩ := h.of_append (List.singleton_append ..).symm
    rw [branchesAt.eq_3 _ _ _ hlone, if_pos hcomma]
    obtain ⟨rfl, -⟩ := hcomma
    exact Cut.comma (b := []) trivial (ih hts)
  | case4 depth k ts hlone hcomma ih =>
    obtain ⟨-, hts⟩ := h.of_append (List.singleton_append ..).symm
    rw [branchesAt.eq_3 _ _ _ hlone, if_neg hcomma]
    cases ts with
    | nil =>
      rw [branchesAt_nil]
      exact .whole [k]
    | cons j ts =>
      obtain ⟨hs, hp⟩ := h.cases_cons.resolve_right (List.cons_ne_nil j ts)
      refine Cut.prepend (p := [k]) (fun t ht => ?_) (ih hts)
      have hk : k ≠ .char '\\' := fun hk => hlone j ts hk rfl
      simpa using escapesClose_blankToken hs hp hk ht

lemma Cut.classesIn_eq {ts : List Token} {bs : List (List Token)} (h : Cut ts bs) :
    classesIn (blanked ts) = bs.flatMap fun b => classesIn (blanked b) := by
  induction h with
  | whole ts => simp
  | @comma b ts bs hb _ ih =>
    have htext : blanked (b ++ .char ',' :: ts) = blanked b ++ ',' :: blanked ts := by
      simp [blankToken, Token.text]
    have hdots : ∀ a c, blanked b = a ++ '.' :: c → EscapesClose c := by
      intro a c hac
      rw [hac] at hb
      exact hb.after_dot
    rw [htext, classesIn_separator separates_comma hdots, ih, List.flatMap_cons]

lemma Cut.quoted {ts : List Token} {bs : List (List Token)} (h : Cut ts bs) (hts : Quoted ts) :
    ∀ b ∈ bs, Quoted b := by
  induction h with
  | whole ts => simpa using hts
  | comma hb _ ih =>
    obtain ⟨hleft, hright⟩ := hts.of_append rfl
    obtain ⟨-, hright⟩ := hright.of_append (List.singleton_append ..).symm
    exact List.forall_mem_cons.mpr ⟨hleft, ih hright⟩

/-- **The classes of a selector are those of its branches.** -/
theorem mem_selectorClasses_branches {w selector : Text} :
    w ∈ selectorClasses selector ↔ ∃ b ∈ branches selector, w ∈ selectorClasses b := by
  have hquoted := quoted_quoteTokens selector
  have hcut : Cut (quoteTokens selector) (branchesAt 0 (quoteTokens selector)) :=
    cut_branchesAt hquoted
  have hblank := hquoted.blankStrings_spell
  rw [spell_quoteTokens] at hblank
  simp only [selectorClasses, List.mem_eraseDups, branches, List.mem_map, exists_exists_and_eq_and]
  rw [hblank, hcut.classesIn_eq, List.mem_flatMap]
  constructor
  · rintro ⟨b, hb, hw⟩
    refine ⟨b, hb, ?_⟩
    rwa [(hcut.quoted hquoted b hb).blankStrings_spell]
  · rintro ⟨b, hb, hw⟩
    refine ⟨b, hb, ?_⟩
    rwa [(hcut.quoted hquoted b hb).blankStrings_spell] at hw

end ClassPurge.Css
