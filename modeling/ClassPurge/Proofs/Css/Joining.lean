import ClassPurge.Proofs.Css.Decomposition
import Mathlib.Data.List.Chain

/-!
Tokens that end by themselves. Spelled one behind the other they are read back, whatever text
follows, unless a slash comes to stand before a star. So what is cut out of a stylesheet between
two tokens has in any other place the tokens that it had there.
-/

namespace ClassPurge.Css

/-- The token ends by itself: it does not run on into what follows it. -/
inductive Token.Sealed : Token → Prop
  | string {q : Char} {b : Text} (hq : isQuote q) (hb : StringBody q b) :
      Sealed (.string (q :: (b ++ [q])))
  | comment {b : Text} (hb : ¬ endMark <:+: b ++ ['*']) :
      Sealed (.comment ('/' :: '*' :: (b ++ endMark)))
  | char {c : Char} (hq : ¬ isQuote c) : Sealed (.char c)

def AllSealed (ts : List Token) : Prop := ∀ k ∈ ts, k.Sealed

/-- No slash stands right before a star. -/
def Apart (ts : List Token) : Prop := ts.IsChain fun j k => j = .char '/' → k ≠ .char '*'

@[simp] lemma allSealed_nil : AllSealed [] := by simp [AllSealed]

lemma allSealed_cons {k : Token} {ts : List Token} :
    AllSealed (k :: ts) ↔ k.Sealed ∧ AllSealed ts := List.forall_mem_cons

lemma allSealed_append {ts us : List Token} :
    AllSealed (ts ++ us) ↔ AllSealed ts ∧ AllSealed us := List.forall_mem_append

namespace Token

lemma Sealed.text_ne_nil {k : Token} (h : k.Sealed) : k.text ≠ [] := by
  cases h <;> simp [text]

lemma Sealed.eq_star {k : Token} (h : k.Sealed) (hk : k.text.head? = some '*') :
    k = .char '*' := by
  cases h with
  | string hq _ =>
    obtain rfl : _ = '*' := by simpa [text] using hk
    exact absurd hq (by decide)
  | comment _ => simp [text] at hk
  | char _ => simpa [text] using hk

lemma Sealed.lexes {k : Token} {r : Text} (h : k.Sealed)
    (hr : k = .char '/' → r.head? ≠ some '*') : Lexes (k.text ++ r) k r := by
  cases h with
  | string hq hb => simpa [text] using Lexes.string hq hb
  | comment hb => simpa [text, endMark] using Lexes.comment hb
  | char hq => exact .char hq fun hc => hr (by rw [hc])

lemma Sealed.not_unclosed {k : Token} (h : k.Sealed) : ¬ k.IsUnclosed := by
  cases h <;> simp [IsUnclosed]

end Token

/-- Only a comment may run on, and then to the end of the text. -/
lemma Lexes.sealed {t r : Text} {k : Token} (h : Lexes t k r) (hr : r ≠ [] ∨ ∃ c, k = .char c) :
    k.Sealed := by
  cases h with
  | string hq hb => exact .string hq hb
  | comment hb => exact .comment hb
  | openComment hb => simp at hr
  | char hq _ => exact .char hq

lemma Tokenizes.ne_nil {t r : Text} {ts : List Token} (h : Tokenizes t ts r) (hts : ts ≠ []) :
    t ≠ [] := by
  cases h with
  | nil => exact absurd rfl hts
  | cons h _ =>
    have := h.text_ne_nil
    rw [h.text_append]
    simp [this]

lemma Tokenizes.split {t r : Text} {ts us : List Token} (h : Tokenizes t (ts ++ us) r) :
    ∃ u, Tokenizes t ts u ∧ Tokenizes u us r := by
  induction ts generalizing t with
  | nil => exact ⟨t, .nil t, h⟩
  | cons k ts ih =>
    obtain _ | ⟨hk, hs⟩ := h
    obtain ⟨u, h1, h2⟩ := ih hs
    exact ⟨u, .cons hk h1, h2⟩

/-- Tokens that something follows end by themselves. -/
lemma Tokenizes.allSealed {t r : Text} {ts : List Token} (h : Tokenizes t ts r) (hr : r ≠ []) :
    AllSealed ts := by
  induction h with
  | nil => exact allSealed_nil
  | @cons t u r k ts h hs ih =>
    refine allSealed_cons.mpr ⟨h.sealed (.inl ?_), ih hr⟩
    rw [hs.spell_append]
    simp [hr]

/-- So do tokens of which the last is a character. -/
lemma Tokenizes.allSealed_char {t r : Text} {ts : List Token} {c : Char}
    (h : Tokenizes t (ts ++ [.char c]) r) : AllSealed (ts ++ [.char c]) := by
  obtain ⟨u, h1, h2⟩ := h.split
  refine allSealed_append.mpr ⟨h1.allSealed (h2.ne_nil (by simp)), ?_⟩
  obtain _ | ⟨hk, hs⟩ := h2
  exact allSealed_cons.mpr ⟨hk.sealed (.inr ⟨c, rfl⟩), allSealed_nil⟩

lemma Tokenizes.apart {t r : Text} {ts : List Token} (h : Tokenizes t ts r) : Apart ts := by
  induction h with
  | nil => exact .nil
  | @cons t u r k ts h hs ih =>
    cases hs with
    | nil => exact .singleton _
    | @cons _ v _ j us hj hs =>
      refine List.isChain_cons_cons.mpr ⟨?_, ih⟩
      rintro rfl rfl
      have hu := hj.text_append
      obtain _ | _ | _ | ⟨hq, hc⟩ := h
      exact hc rfl (by rw [hu]; rfl)

/-- **Sealed tokens are read back.** -/
theorem tokenizes_spell {ts : List Token} {r : Text} (hs : AllSealed ts) (ha : Apart ts)
    (hl : ts.getLast? = some (.char '/') → r.head? ≠ some '*') :
    Tokenizes (spell ts ++ r) ts r := by
  induction ts with
  | nil => exact .nil r
  | cons k ts ih =>
    obtain ⟨hk, hs⟩ := allSealed_cons.mp hs
    rw [spell_cons, List.append_assoc]
    cases ts with
    | nil => exact .cons (hk.lexes fun h => hl (by rw [h]; rfl)) (.nil r)
    | cons j ts =>
      obtain ⟨hkj, ha⟩ := List.isChain_cons_cons.mp ha
      refine .cons (hk.lexes fun h hstar => hkj h ?_) (ih hs ha hl)
      have hj := (allSealed_cons.mp hs).1
      obtain ⟨c, x, hx⟩ := List.exists_cons_of_ne_nil hj.text_ne_nil
      refine hj.eq_star ?_
      simpa [hx] using hstar

/-! ### Text without strings and comments -/

/-- What begins a comment. -/
def commentMark : Text := ['/', '*']

lemma commentMark_infix_cons {c : Char} {t : Text} :
    commentMark <:+: c :: t ↔ c = '/' ∧ t.head? = some '*' ∨ commentMark <:+: t := by
  rw [List.infix_cons_iff, commentMark, List.cons_prefix_cons,
    List.singleton_prefix_iff_head?_eq_some, @eq_comm _ '/']

lemma commentMark_isPrefix_text {k : Token} (h : k.Sealed) (hk : k.isComment) :
    commentMark <+: k.text := by
  cases h with
  | comment _ => exact ⟨_, rfl⟩
  | string _ _ => cases hk
  | char _ => cases hk

lemma tokenizes_plain {t r : Text} (hq : ∀ x ∈ t, ¬ isQuote x) (hc : ¬ commentMark <:+: t)
    (hl : t.getLast? = some '/' → r.head? ≠ some '*') :
    Tokenizes (t ++ r) (t.map .char) r := by
  induction t with
  | nil => exact .nil r
  | cons x t ih =>
    obtain ⟨hx, hq⟩ := List.forall_mem_cons.mp hq
    rw [commentMark_infix_cons, not_or, not_and] at hc
    have hnext : x = '/' → (t ++ r).head? ≠ some '*' := by
      rintro rfl
      cases t with
      | nil => exact hl rfl
      | cons y t => exact hc.1 rfl
    refine .cons (.char hx hnext) (ih hq hc.2 fun h => hl ?_)
    rw [List.getLast?_cons, h]
    rfl

lemma spell_map_char (t : Text) : spell (t.map .char) = t := by
  induction t with
  | nil => rfl
  | cons x t ih => rw [List.map_cons, spell_cons, ih]; rfl

lemma dropComments_map_char (t : Text) : dropComments (t.map .char) = t.map .char := by
  simp [dropComments, Token.isComment]

lemma spell_isInfix {ts us : List Token} (h : us <:+: ts) : spell us <:+: spell ts := by
  obtain ⟨a, b, rfl⟩ := h
  exact ⟨spell a, spell b, by simp⟩

lemma text_isInfix {k : Token} {ts : List Token} (hk : k ∈ ts) : k.text <:+: spell ts := by
  obtain ⟨us, vs, rfl⟩ := List.append_of_mem hk
  exact ⟨spell us, spell vs, by simp⟩

/-! ### The pieces of a text -/

lemma Item.tokens_eq_concat (i : Item) :
    ∃ ts c, i.tokens = ts ++ [.char c] ∧ (c = ';' ∨ c = '}') := by
  cases i with
  | statement p => exact ⟨p, ';', rfl, .inl rfl⟩
  | block p b => exact ⟨p ++ .char '{' :: b, '}', by simp [Item.tokens], .inr rfl⟩

/-- All pieces of a text are sealed: a comment that runs to the end of the text comes after them. -/
lemma Decomposes.allSealed {css r : Text} {ps : List Piece} (h : Decomposes css ps r) :
    AllSealed (piecesTokens ps) := by
  rcases List.eq_nil_or_concat ps with rfl | ⟨qs, q, rfl⟩
  · exact allSealed_nil
  · rw [List.concat_eq_append] at h ⊢
    obtain ⟨ts, c, hq, -⟩ := q.item.tokens_eq_concat
    have heq : piecesTokens (qs ++ [q]) = (piecesTokens qs ++ (q.gap ++ ts)) ++ [.char c] := by
      simp [piecesTokens_append, hq]
    rw [Decomposes, heq] at h
    rw [heq]
    exact h.allSealed_char

lemma gap_isInfix {p : Piece} {ps : List Piece} (hp : p ∈ ps) : p.gap <:+: piecesTokens ps := by
  obtain ⟨qs, rs, rfl⟩ := List.append_of_mem hp
  refine ⟨piecesTokens qs, p.item.tokens ++ piecesTokens rs, ?_⟩
  simp [piecesTokens_append]

lemma item_isInfix {p : Piece} {ps : List Piece} (hp : p ∈ ps) :
    p.item.tokens <:+: piecesTokens ps := by
  obtain ⟨qs, rs, rfl⟩ := List.append_of_mem hp
  refine ⟨piecesTokens qs ++ p.gap, piecesTokens rs, ?_⟩
  simp [piecesTokens_append]

lemma Decomposes.isTrivia_gap {css r : Text} {p : Piece} {ps : List Piece}
    (h : Decomposes css ps r) (hp : p ∈ ps) : IsTrivia (spell p.gap) := by
  have hs : AllSealed p.gap := fun k hk => h.allSealed k ((gap_isInfix hp).subset hk)
  have ha : Apart p.gap := by
    obtain ⟨ts, us, heq⟩ := gap_isInfix hp
    have h' := Tokenizes.apart h
    rw [← heq] at h'
    exact h'.left_of_append.right_of_append
  refine ⟨p.gap, ?_, p.trivia⟩
  simpa using tokenizes_spell (r := []) hs ha (by simp)

end ClassPurge.Css
