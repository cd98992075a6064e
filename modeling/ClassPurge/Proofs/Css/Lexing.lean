import ClassPurge.Css.Comment
import Mathlib.Tactic.Common

/-!
What a token of stylesheet text is, said without the scan: a string that the next quote of its
kind closes, a comment up to its first end mark, or one other character. A text begins with at
most one token, and the scan finds it. A token that ends by itself is read the same whatever
follows, which is what makes the tokens of a joined text the tokens of its parts.
-/

namespace ClassPurge.Css

/-- What ends a comment. -/
def endMark : Text := ['*', '/']

/-- What may stand between two quotes `q`: a backslash goes with the character after it, and no
other character is a backslash or the quote. -/
inductive StringBody (q : Char) : Text → Prop
  | nil : StringBody q []
  | char {c : Char} {b : Text} (hq : c ≠ q) (hs : c ≠ '\\') (h : StringBody q b) :
      StringBody q (c :: b)
  | escape {c : Char} {b : Text} (h : StringBody q b) : StringBody q ('\\' :: c :: b)

/-- `Lexes t k r`: the text `t` begins with the token `k`, and `r` follows it. A comment that has
no end mark runs to the end of the text; a string that does not close is no token. -/
inductive Lexes : Text → Token → Text → Prop
  | string {q : Char} {b r : Text} (hq : isQuote q) (hb : StringBody q b) :
      Lexes (q :: (b ++ q :: r)) (.string (q :: (b ++ [q]))) r
  | comment {b r : Text} (hb : ¬ endMark <:+: b ++ ['*']) :
      Lexes ('/' :: '*' :: (b ++ '*' :: '/' :: r)) (.comment ('/' :: '*' :: (b ++ endMark))) r
  | openComment {b : Text} (hb : ¬ endMark <:+: b) :
      Lexes ('/' :: '*' :: b) (.comment ('/' :: '*' :: b)) []
  | char {c : Char} {r : Text} (hq : ¬ isQuote c) (hc : c = '/' → r.head? ≠ some '*') :
      Lexes (c :: r) (.char c) r

/-- `Tokenizes t ts r`: the text `t`, read from the left, begins with the tokens `ts`, and `r`
follows them. -/
inductive Tokenizes : Text → List Token → Text → Prop
  | nil (t : Text) : Tokenizes t [] t
  | cons {t u r : Text} {k : Token} {ts : List Token} (h : Lexes t k u) (hs : Tokenizes u ts r) :
      Tokenizes t (k :: ts) r

/-- The token is a string that does not close. -/
def Token.IsUnclosed : Token → Prop
  | .unclosed _ => True
  | _ => False

instance : (k : Token) → Decidable k.IsUnclosed
  | .unclosed _ => .isTrue trivial
  | .string _ | .comment _ | .char _ => .isFalse id

/-! ### Strings and comments -/

lemma isQuote_iff {q : Char} : isQuote q = true ↔ q = '"' ∨ q = '\'' := by
  simp [isQuote]

lemma ne_backslash_of_isQuote {q : Char} (hq : isQuote q) : q ≠ '\\' := by
  rcases isQuote_iff.mp hq with rfl | rfl <;> decide

lemma afterString?_cons {q c : Char} (hs : c ≠ '\\') (r : Text) :
    afterString? q (c :: r) = if c == q then some r else afterString? q r :=
  afterString?.eq_4 q c r (fun h => absurd h hs) (fun _ _ h => absurd h hs)

lemma afterString?_stringBody {q : Char} {b : Text} (hq : isQuote q) (hb : StringBody q b)
    (r : Text) : afterString? q (b ++ q :: r) = some r := by
  induction hb with
  | nil =>
    rw [List.nil_append, afterString?_cons (ne_backslash_of_isQuote hq)]
    simp
  | char hcq hs _ ih =>
    rw [List.cons_append, afterString?_cons hs]
    simp [hcq, ih]
  | escape _ ih => simpa [afterString?] using ih

lemma stringBody_of_afterString? {q : Char} {t r : Text} (h : afterString? q t = some r) :
    ∃ b, StringBody q b ∧ t = b ++ q :: r := by
  fun_induction afterString? q t with
  | case1 => simp at h
  | case2 => simp at h
  | case3 c t ih =>
    obtain ⟨b, hb, rfl⟩ := ih h
    exact ⟨'\\' :: c :: b, .escape hb, rfl⟩
  | case4 c t _ hs hc =>
    obtain rfl : c = q := by simpa using hc
    obtain rfl : t = r := by simpa using h
    exact ⟨[], .nil, rfl⟩
  | case5 c t hn hs hc ih =>
    obtain ⟨b, hb, rfl⟩ := ih h
    have hne : c ≠ '\\' := by
      rintro rfl
      cases b with
      | nil => exact hs q r rfl rfl
      | cons d b => exact hs d (b ++ q :: r) rfl rfl
    exact ⟨c :: b, .char (by simpa using hc) hne hb, rfl⟩

lemma endMark_infix_cons {c : Char} {t : Text} :
    endMark <:+: c :: t ↔ c = '*' ∧ t.head? = some '/' ∨ endMark <:+: t := by
  rw [List.infix_cons_iff, endMark, List.cons_prefix_cons, List.singleton_prefix_iff_head?_eq_some,
    @eq_comm _ '*']

lemma afterComment_cons {c : Char} {t : Text} (h : c = '*' → t.head? ≠ some '/') :
    afterComment (c :: t) = afterComment t :=
  afterComment.eq_3 c t fun r hc ht => h hc (by rw [ht]; rfl)

lemma afterComment_append {b : Text} (hb : ¬ endMark <:+: b ++ ['*']) (r : Text) :
    afterComment (b ++ '*' :: '/' :: r) = r := by
  induction b with
  | nil => rfl
  | cons c b ih =>
    rw [List.cons_append, endMark_infix_cons, not_or] at hb
    rw [List.cons_append, afterComment_cons, ih hb.2]
    intro hc
    have := hb.1
    cases b <;> simp_all

lemma afterComment_eq_nil {b : Text} (hb : ¬ endMark <:+: b) : afterComment b = [] := by
  induction b with
  | nil => rfl
  | cons c b ih =>
    rw [endMark_infix_cons, not_or, not_and] at hb
    rw [afterComment_cons hb.1, ih hb.2]

lemma comment_cases (t : Text) :
    (∃ b, ¬ endMark <:+: b ++ ['*'] ∧ t = b ++ '*' :: '/' :: afterComment t) ∨
      ¬ endMark <:+: t := by
  fun_induction afterComment t with
  | case1 => exact .inr (by simp [endMark])
  | case2 r => exact .inl ⟨[], by decide, rfl⟩
  | case3 c t hn ih =>
    have hc : ¬ (c = '*' ∧ t.head? = some '/') := by
      rintro ⟨rfl, h⟩
      obtain ⟨r, rfl⟩ := List.head?_eq_some_iff.mp h
      exact hn r rfl rfl
    rcases ih with ⟨b, hb, ht⟩ | ht
    · refine .inl ⟨c :: b, ?_, ?_⟩
      · rw [List.cons_append, endMark_infix_cons, not_or]
        refine ⟨?_, hb⟩
        generalize afterComment t = r at ht
        subst ht
        cases b <;> simp_all
      · rw [List.cons_append, ← ht]
    · exact .inr (by rw [endMark_infix_cons, not_or]; exact ⟨hc, ht⟩)

/-! ### The first token -/

lemma upTo_left (a r : Text) : Text.upTo (a ++ r) r = a := by
  rw [Text.upTo, List.length_append, Nat.add_sub_cancel, List.take_left]

lemma scan_string {q : Char} {b : Text} (comments : Bool) (hq : isQuote q) (hb : StringBody q b)
    (r : Text) : scan comments (q :: (b ++ q :: r)) =
      .string (q :: (b ++ [q])) :: scan comments r := by
  have h := afterString?_stringBody hq hb r
  have hu : Text.upTo (q :: (b ++ q :: r)) r = q :: (b ++ [q]) := by
    rw [← upTo_left (q :: (b ++ [q])) r]
    simp
  rw [scan.eq_2, if_pos hq]
  split
  · simp_all
  · rename_i r' h'
    obtain rfl : r = r' := by simpa [h] using h'
    rw [hu]

lemma scan_unclosed {q : Char} {r : Text} (comments : Bool) (hq : isQuote q)
    (h : afterString? q r = none) : scan comments (q :: r) = [.unclosed (q :: r)] := by
  rw [scan.eq_2, if_pos hq]
  split
  · rfl
  · simp_all

lemma tokens_comment (r : Text) : tokens ('/' :: '*' :: r) =
    .comment (Text.upTo ('/' :: '*' :: r) (afterComment r)) :: tokens (afterComment r) := by
  rw [tokens, scan.eq_2, if_neg (by decide), if_pos (by simp)]
  rfl

lemma scan_char {c : Char} {r : Text} {comments : Bool} (hq : ¬ isQuote c)
    (hc : comments = true → c = '/' → r.head? ≠ some '*') :
    scan comments (c :: r) = .char c :: scan comments r := by
  rw [scan.eq_2, if_neg hq, if_neg]
  simp only [Bool.and_eq_true, beq_iff_eq, and_assoc, not_and]
  exact hc

@[simp] lemma scan_nil (comments : Bool) : scan comments [] = [] := scan.eq_1 comments

@[simp] lemma tokens_nil : tokens [] = [] := scan_nil true

@[simp] lemma quoteTokens_nil : quoteTokens [] = [] := scan_nil false

lemma Lexes.tokens_eq {t r : Text} {k : Token} (h : Lexes t k r) : tokens t = k :: tokens r := by
  cases h with
  | string hq hb => exact scan_string true hq hb r
  | @comment b _ hb =>
    have hu : Text.upTo ('/' :: '*' :: (b ++ '*' :: '/' :: r)) r =
        '/' :: '*' :: (b ++ endMark) := by
      rw [← upTo_left ('/' :: '*' :: (b ++ endMark)) r]
      simp [endMark]
    rw [tokens_comment, afterComment_append hb, hu]
  | @openComment b hb => simp [tokens_comment, afterComment_eq_nil hb, Text.upTo]
  | char hq hc => exact scan_char hq fun _ => hc

lemma Lexes.text_append {t r : Text} {k : Token} (h : Lexes t k r) : t = k.text ++ r := by
  cases h <;> simp [Token.text, endMark]

lemma Lexes.not_unclosed {t r : Text} {k : Token} (h : Lexes t k r) : ¬ k.IsUnclosed := by
  cases h <;> simp [Token.IsUnclosed]

lemma Lexes.text_ne_nil {t r : Text} {k : Token} (h : Lexes t k r) : k.text ≠ [] := by
  cases h <;> simp [Token.text]

/-- Every text but the empty one begins with a token, or with a quote whose string does not
close. -/
lemma exists_lexes {t : Text} (ht : t ≠ []) :
    (∃ k r, Lexes t k r) ∨ ∃ q r, t = q :: r ∧ isQuote q ∧ afterString? q r = none := by
  obtain ⟨c, r, rfl⟩ := List.exists_cons_of_ne_nil ht
  by_cases hq : isQuote c
  · rcases h : afterString? c r with _ | s
    · exact .inr ⟨c, r, rfl, hq, h⟩
    · obtain ⟨b, hb, rfl⟩ := stringBody_of_afterString? h
      exact .inl ⟨_, _, .string hq hb⟩
  by_cases hc : c = '/' ∧ r.head? = some '*'
  · obtain ⟨rfl, hr⟩ := hc
    obtain ⟨r, rfl⟩ := List.head?_eq_some_iff.mp hr
    rcases comment_cases r with ⟨b, hb, h⟩ | h
    · rw [h]
      exact .inl ⟨_, _, .comment hb⟩
    · exact .inl ⟨_, _, .openComment h⟩
  · exact .inl ⟨_, _, .char hq fun h hr => hc ⟨h, hr⟩⟩

/-- Induction along the tokens of a text. -/
@[elab_as_elim]
theorem lexes_induction {P : Text → Prop} (nil : P [])
    (unclosed : ∀ q r, isQuote q → afterString? q r = none → P (q :: r))
    (token : ∀ t k r, Lexes t k r → P r → P t) (t : Text) : P t := by
  induction hn : t.length using Nat.strongRecOn generalizing t with
  | _ n ih =>
    rcases eq_or_ne t [] with rfl | ht
    · exact nil
    rcases exists_lexes ht with ⟨k, r, hk⟩ | ⟨q, r, rfl, hq, h⟩
    · have hlen := congrArg List.length hk.text_append
      have hpos := List.length_pos_iff.mpr hk.text_ne_nil
      rw [List.length_append] at hlen
      exact token t k r hk (ih r.length (by omega) r rfl)
    · exact unclosed q r hq h

/-! ### Runs of tokens -/

lemma Tokenizes.tokens_eq {t r : Text} {ts : List Token} (h : Tokenizes t ts r) :
    tokens t = ts ++ tokens r := by
  induction h with
  | nil => rfl
  | cons h _ ih => rw [h.tokens_eq, ih, List.cons_append]

lemma Tokenizes.spell_append {t r : Text} {ts : List Token} (h : Tokenizes t ts r) :
    t = spell ts ++ r := by
  induction h with
  | nil => rfl
  | cons h _ ih => rw [h.text_append, ih, spell_cons, List.append_assoc]

lemma Tokenizes.append {t u r : Text} {ts us : List Token} (h : Tokenizes t ts u)
    (hu : Tokenizes u us r) : Tokenizes t (ts ++ us) r := by
  induction h with
  | nil => exact hu
  | cons h _ ih => exact .cons h (ih hu)

lemma tokenizes_of_tokens_eq {t : Text} {ts us : List Token} (h : tokens t = ts ++ us)
    (hu : ∀ k ∈ ts, ¬ k.IsUnclosed) : ∃ r, Tokenizes t ts r ∧ tokens r = us := by
  induction ts generalizing t with
  | nil => exact ⟨t, .nil t, h⟩
  | cons k ts ih =>
    have ht : t ≠ [] := by rintro rfl; simp at h
    rcases exists_lexes ht with ⟨k', r, hk⟩ | ⟨q, r, rfl, hq, hr⟩
    · rw [hk.tokens_eq, List.cons_append, List.cons.injEq] at h
      obtain ⟨rfl, h⟩ := h
      obtain ⟨s, hs, hsu⟩ := ih h fun j hj => hu j (List.mem_cons_of_mem _ hj)
      exact ⟨s, .cons hk hs, hsu⟩
    · rw [tokens, scan_unclosed true hq hr, List.cons_append, List.cons.injEq] at h
      exact absurd (h.1 ▸ trivial) (hu k List.mem_cons_self)

end ClassPurge.Css
