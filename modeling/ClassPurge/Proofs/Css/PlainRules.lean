import ClassPurge.Proofs.Css.Concatenation
import ClassPurge.Proofs.Css.Respelling
import ClassPurge.Proofs.Text.Parts

/-!
Rules without strings, comments and inner blocks. Each of their characters is a token, so such a
rule is read as it is written wherever a rule may begin, and what stands behind it is read as if it
stood alone.
-/

namespace ClassPurge.Css

/-- Every character of the text is a token, and none is a brace. -/
structure Literal (t : Text) : Prop where
  noQuote : Avoids isQuote t
  noComment : ¬ commentMark <:+: t
  noBrace : '{' ∉ t ∧ '}' ∉ t

/-- The tokens of a rule whose prelude and body are literal. -/
def plainItem (p b : Text) : Item := .block (p.map .char) (b.map .char)

/-- What is read where such a rule stands. -/
def plainReading (n : Nat) (p b : Text) : Rule :=
  ⟨p.strip, b.strip, n, n + (p.length + b.length + 2), true, false⟩

/-! ### Literal text -/

lemma not_commentMark_append {u v : Text} (hu : ¬ commentMark <:+: u) (hv : ¬ commentMark <:+: v)
    (h : u.getLast? = some '/' → v.head? ≠ some '*') : ¬ commentMark <:+: u ++ v := by
  induction u with
  | nil => exact hv
  | cons x u ih =>
    rw [commentMark_infix_cons, not_or] at hu
    rw [List.cons_append, commentMark_infix_cons, not_or]
    refine ⟨?_, ih hu.2 fun hl => h ?_⟩
    · rintro ⟨rfl, hstar⟩
      cases u with
      | nil => exact h rfl hstar
      | cons y u => exact hu.1 ⟨rfl, hstar⟩
    · rw [List.getLast?_cons, hl]
      rfl

lemma Literal.append {u v : Text} (hu : Literal u) (hv : Literal v)
    (h : u.getLast? = some '/' → v.head? ≠ some '*') : Literal (u ++ v) := by
  refine ⟨List.forall_mem_append.mpr ⟨hu.noQuote, hv.noQuote⟩,
    not_commentMark_append hu.noComment hv.noComment h, ?_, ?_⟩
  · exact fun hm => (List.mem_append.mp hm).elim hu.noBrace.1 hv.noBrace.1
  · exact fun hm => (List.mem_append.mp hm).elim hu.noBrace.2 hv.noBrace.2

lemma Literal.braceFree {t : Text} (h : Literal t) : BraceFree (t.map .char) := by
  intro k hk
  obtain ⟨x, hx, rfl⟩ := List.mem_map.mp hk
  rintro (hb | hb)
  · exact h.noBrace.1 (Token.char.inj hb ▸ hx)
  · exact h.noBrace.2 (Token.char.inj hb ▸ hx)

lemma Literal.tokenizes {t r : Text} (h : Literal t)
    (hl : t.getLast? = some '/' → r.head? ≠ some '*') : Tokenizes (t ++ r) (t.map .char) r :=
  tokenizes_plain h.noQuote h.noComment hl

lemma Literal.tokens_eq {t : Text} (h : Literal t) : tokens t = t.map .char := by
  simpa using (h.tokenizes (r := []) fun _ => by simp).tokens_eq

lemma literal_of_allBlank {t : Text} (h : Text.AllBlank t) : Literal t := by
  have hno {x : Char} (hx : ¬ Text.isBlank x) : x ∉ t := fun hm => hx (h x hm)
  refine ⟨fun x hx hq => not_isBlank_of_isQuote hq (h x hx), fun hc => ?_, hno (by decide),
    hno (by decide)⟩
  exact hno (x := '/') (by decide) (hc.subset (by simp [commentMark]))

lemma allBlank_tokens {t : Text} (h : Text.AllBlank t) : AllBlank (tokens t) := by
  rw [(literal_of_allBlank h).tokens_eq]
  rintro k hk
  obtain ⟨x, hx, rfl⟩ := List.mem_map.mp hk
  exact h x hx

/-! ### The rule -/

variable {p b : Text}

lemma tokenizes_plainItem (hp : Literal p) (hb : Literal b) (rest : Text) :
    Tokenizes (p ++ '{' :: (b ++ '}' :: rest)) (plainItem p b).tokens rest := by
  have hopen : ¬ isQuote '{' ∧ ¬ isQuote '}' := by decide
  have hprelude : Tokenizes (p ++ '{' :: (b ++ '}' :: rest)) (p.map .char)
      ('{' :: (b ++ '}' :: rest)) := hp.tokenizes fun _ => by simp
  have hbody : Tokenizes (b ++ '}' :: rest) (b.map .char) ('}' :: rest) :=
    hb.tokenizes fun _ => by simp
  have hclose : Tokenizes ('}' :: rest) [.char '}'] rest :=
    .cons (.char hopen.2 (by simp)) (.nil rest)
  exact hprelude.append (.cons (.char hopen.1 (by simp)) (hbody.append hclose))

/-- The rule, where no blank stands before it. -/
def plainPiece (hp : Literal p) (hb : Literal b)
    (hstart : ∀ x ∈ p.head?, ¬ (Token.char x).isTrivia ∧ x ≠ '@') : Piece where
  gap := []
  item := plainItem p b
  trivia := by simp [AllTrivia]
  valid := by
    refine ⟨hp.braceFree, fun h => ?_, balanced_of_braceFree hb.braceFree⟩
    cases p with
    | nil => simp at h
    | cons x p =>
      obtain rfl : x = '@' := by simpa using h
      exact absurd rfl (hstart '@' rfl).2
  closed k hk := ((tokenizes_plainItem hp hb ['}']).allSealed (by simp) k hk).not_unclosed
  starts := by
    intro k hk
    cases p with
    | nil =>
      obtain rfl : Token.char '{' = k := by simpa [plainItem, Item.tokens] using hk
      decide
    | cons x p =>
      obtain rfl : Token.char x = k := by simpa [plainItem, Item.tokens] using hk
      exact (hstart x rfl).1

lemma rule_plainItem (hb : Literal b) (n : Nat) :
    (plainItem p b).rule n = plainReading n p b := by
  have hnested : (b.map Token.char).any Token.isOpenBrace = false := by
    simp only [List.any_eq_false, List.mem_map]
    rintro k ⟨x, hx, rfl⟩ hk
    obtain rfl : x = '{' := by simpa [Token.isOpenBrace] using hk
    exact hb.noBrace.1 hx
  simp only [plainItem, Item.rule, dropComments_map_char, spell_map_char, hnested, plainReading]

/-- **The rule is read as it is written**, and then what stands behind it. -/
lemma parseFrom_plainItem (hp : Literal p) (hb : Literal b)
    (hstart : ∀ x ∈ p.head?, ¬ (Token.char x).isTrivia ∧ x ≠ '@') (n : Nat) (rest : Text) :
    (parseFrom n (tokens (p ++ '{' :: (b ++ '}' :: rest)))).rules =
      plainReading n p b ::
        (parseFrom (n + (p.length + b.length + 2)) (tokens rest)).rules := by
  have hpiece := parseFrom_piece (plainPiece hp hb hstart) (tokens rest) n
  have hgap (r : List Token) : (plainPiece hp hb hstart).gap ++
      ((plainPiece hp hb hstart).item.tokens ++ r) = (plainItem p b).tokens ++ r := rfl
  have hrule : (plainPiece hp hb hstart).rule n = plainReading n p b := rule_plainItem hb n
  have hstop : (plainPiece hp hb hstart).stop n = n + (p.length + b.length + 2) := by
    rw [← Piece.rule_stop, hrule]
    rfl
  rw [hgap, hrule, hstop] at hpiece
  rw [(tokenizes_plainItem hp hb rest).tokens_eq, hpiece]

end ClassPurge.Css
