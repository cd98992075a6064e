import ClassPurge.Proofs.Css.Grammar
import ClassPurge.Proofs.Text.Stripping

/-!
A stylesheet as blanks, a rule, blanks, a rule, and so on from the left. Of the sequences of
rules that a text begins with one is the longest, and all others are beginnings of it. Reading
finds the longest one. It covers the text exactly if the text is in the grammar.
-/

namespace ClassPurge.Css

def AllTrivia (ts : List Token) : Prop := ∀ k ∈ ts, k.isTrivia

instance (ts : List Token) : Decidable (AllTrivia ts) := List.decidableBAll _ ts

/-- The first token is neither a blank nor a comment. -/
def StartsRule (ts : List Token) : Prop := ∀ k ∈ ts.head?, ¬ k.isTrivia

/-- A rule and the trivia before it. -/
structure Piece where
  gap : List Token
  item : Item
  trivia : AllTrivia gap
  valid : item.Valid
  closed : Closed item.tokens
  starts : StartsRule item.tokens

/-- The place of a rule in its text, and what kind of rule it is. -/
structure Extent where
  start : Nat
  stop : Nat
  hasBlock : Bool
  nested : Bool
  deriving DecidableEq, Repr

def Rule.extent (r : Rule) : Extent := ⟨r.start, r.stop, r.hasBlock, r.nested⟩

namespace Piece

def tokens (p : Piece) : List Token := p.gap ++ p.item.tokens

/-- Where the rule begins if the piece stands at `n`. -/
def start (n : Nat) (p : Piece) : Nat := n + (spell p.gap).length

/-- Where the rule ends. -/
def stop (n : Nat) (p : Piece) : Nat := p.start n + (spell p.item.tokens).length

def extent (n : Nat) (p : Piece) : Extent :=
  ⟨p.start n, p.stop n, p.item.hasBlock, p.item.nested⟩

def rule (n : Nat) (p : Piece) : Rule := p.item.rule (p.start n)

end Piece

def piecesTokens (ps : List Piece) : List Token := ps.flatMap Piece.tokens

/-- What `f` says of each piece at its offset, when the first stands at `n`. -/
def alongPieces {α : Type} (f : Nat → Piece → α) (n : Nat) : List Piece → List α
  | [] => []
  | p :: ps => f n p :: alongPieces f (p.stop n) ps

/-- The text `css` is the pieces `ps`, and then `r`. -/
def Decomposes (css : Text) (ps : List Piece) (r : Text) : Prop :=
  Tokenizes css (piecesTokens ps) r

/-- Blanks and comments, and nothing else. -/
def IsTrivia (t : Text) : Prop := ∃ gap, Tokenizes t gap [] ∧ AllTrivia gap

/-- The whole text is rules and the trivia around them. -/
def InGrammar (css : Text) : Prop := ∃ ps r, Decomposes css ps r ∧ IsTrivia r

/-- The text begins with the pieces `ps`, and with no others than these and a part of these. -/
def IsLongest (css : Text) (ps : List Piece) : Prop :=
  (∃ r, Decomposes css ps r) ∧ ∀ qs r, Decomposes css qs r → qs <+: ps

/-! ### Small facts -/

namespace Piece

@[simp] lemma rule_start (n : Nat) (p : Piece) : (p.rule n).start = p.start n :=
  p.item.rule_start _

@[simp] lemma rule_stop (n : Nat) (p : Piece) : (p.rule n).stop = p.stop n := p.item.rule_stop _

@[simp] lemma rule_hasBlock (n : Nat) (p : Piece) : (p.rule n).hasBlock = p.item.hasBlock :=
  p.item.rule_hasBlock _

@[simp] lemma rule_nested (n : Nat) (p : Piece) : (p.rule n).nested = p.item.nested :=
  p.item.rule_nested _

end Piece

@[simp] lemma piecesTokens_nil : piecesTokens [] = [] := rfl

@[simp] lemma piecesTokens_cons (p : Piece) (ps : List Piece) :
    piecesTokens (p :: ps) = p.gap ++ (p.item.tokens ++ piecesTokens ps) := by
  simp [piecesTokens, Piece.tokens]

lemma piecesTokens_append (ps qs : List Piece) :
    piecesTokens (ps ++ qs) = piecesTokens ps ++ piecesTokens qs := by
  simp [piecesTokens]

lemma extent_rule (n : Nat) (p : Piece) : (p.rule n).extent = p.extent n := by
  simp [Rule.extent, Piece.extent]

lemma map_alongPieces {α β : Type} (g : α → β) (f : Nat → Piece → α) (n : Nat) (ps : List Piece) :
    (alongPieces f n ps).map g = alongPieces (fun n p => g (f n p)) n ps := by
  induction ps generalizing n with
  | nil => rfl
  | cons p ps ih => rw [alongPieces, List.map_cons, ih, alongPieces]

lemma closed_of_allTrivia {ts : List Token} (h : AllTrivia ts) : Closed ts := by
  intro k hk hu
  have := h k hk
  cases k <;> simp_all [Token.isTrivia, Token.IsUnclosed]

lemma closed_piecesTokens (ps : List Piece) : Closed (piecesTokens ps) := by
  induction ps with
  | nil => exact closed_nil
  | cons p ps ih =>
    rw [piecesTokens_cons, closed_append, closed_append]
    exact ⟨closed_of_allTrivia p.trivia, p.closed, ih⟩

lemma startsRule_append {ts : List Token} (h : StartsRule ts) (hne : ts ≠ []) (us : List Token) :
    StartsRule (ts ++ us) := by
  obtain ⟨k, vs, rfl⟩ := List.exists_cons_of_ne_nil hne
  exact h

lemma Piece.starts_append (p : Piece) (r : List Token) : StartsRule (p.item.tokens ++ r) :=
  startsRule_append p.starts p.item.tokens_ne_nil r

lemma takeWhile_trivia {gap ts : List Token} (hg : AllTrivia gap) (hs : StartsRule ts) :
    (gap ++ ts).takeWhile Token.isTrivia = gap := by
  rw [List.takeWhile_append_of_pos hg]
  cases ts with
  | nil => simp
  | cons k ts =>
    have hk : ¬ k.isTrivia := hs k rfl
    simp [hk]

lemma dropWhile_trivia {gap ts : List Token} (hg : AllTrivia gap) (hs : StartsRule ts) :
    (gap ++ ts).dropWhile Token.isTrivia = ts := by
  rw [List.dropWhile_append_of_pos hg]
  cases ts with
  | nil => rfl
  | cons k ts =>
    have hk : ¬ k.isTrivia := hs k rfl
    simp [hk]

lemma exists_trivia (ts : List Token) :
    ∃ gap us, ts = gap ++ us ∧ AllTrivia gap ∧ StartsRule us :=
  Text.exists_lead Token.isTrivia ts

/-! ### Reading, one rule at a time -/

lemma parseFrom_piece (p : Piece) (r : List Token) (n : Nat) :
    parseFrom n (p.gap ++ (p.item.tokens ++ r)) =
      ⟨p.rule n :: (parseFrom (p.stop n) r).rules, (parseFrom (p.stop n) r).stopped⟩ := by
  have hd := dropWhile_trivia p.trivia (p.starts_append r)
  have ht := takeWhile_trivia p.trivia (p.starts_append r)
  have hr : readRule? (p.start n) (p.item.tokens ++ r) = some (p.rule n, r) :=
    readRule?_eq_some_iff.mpr ⟨p.item, p.valid, p.closed, rfl, rfl⟩
  rw [parseFrom.eq_1, ht]
  split
  · have := p.item.tokens_ne_nil
    simp_all
  · rename_i k ts hkt
    rw [hd] at hkt
    split
    · rename_i h
      rw [← hkt] at h
      exact absurd (hr.symm.trans h) (by simp)
    · rename_i rule r' h
      rw [← hkt] at h
      obtain ⟨rfl, rfl⟩ : p.rule n = rule ∧ r = r' := by simpa using hr.symm.trans h
      rw [Piece.rule_stop]

/-- No piece can be read at the beginning of the tokens. -/
def Stuck (ts : List Token) : Prop := ∀ (p : Piece) r, ts ≠ p.gap ++ (p.item.tokens ++ r)

lemma parseFrom_stuck {ts : List Token} (h : Stuck ts) (n : Nat) : (parseFrom n ts).rules = [] := by
  obtain ⟨gap, us, rfl, hg, hs⟩ := exists_trivia ts
  rw [parseFrom.eq_1]
  split
  · rfl
  · rename_i k vs hkv
    rw [dropWhile_trivia hg hs] at hkv
    split
    · rfl
    · rename_i rule r hr
      rw [← hkv] at hr
      obtain ⟨i, hv, hc, rfl, -⟩ := readRule?_eq_some_iff.mp hr
      have hst : StartsRule i.tokens := by
        obtain ⟨j, js, hj⟩ := List.exists_cons_of_ne_nil i.tokens_ne_nil
        rw [hj] at hs ⊢
        exact hs
      exact absurd rfl (h ⟨gap, i, hg, hv, hc, hst⟩ r)

lemma stop_add_length (n : Nat) (p : Piece) (ps : List Piece) :
    p.stop n + (spell (piecesTokens ps)).length =
      n + (spell (piecesTokens (p :: ps))).length := by
  simp only [Piece.stop, Piece.start, piecesTokens_cons, spell_append, List.length_append]
  omega

lemma alongPieces_append {α : Type} (f : Nat → Piece → α) (n : Nat) (ps qs : List Piece) :
    alongPieces f n (ps ++ qs) =
      alongPieces f n ps ++ alongPieces f (n + (spell (piecesTokens ps)).length) qs := by
  induction ps generalizing n with
  | nil => rfl
  | cons p ps ih =>
    rw [← stop_add_length, List.cons_append, alongPieces, ih, alongPieces, List.cons_append]

lemma parseFrom_pieces (ps : List Piece) (r : List Token) (n : Nat) :
    (parseFrom n (piecesTokens ps ++ r)).rules = alongPieces Piece.rule n ps ++
      (parseFrom (n + (spell (piecesTokens ps)).length) r).rules := by
  induction ps generalizing n with
  | nil => rfl
  | cons p ps ih =>
    rw [← stop_add_length, piecesTokens_cons, List.append_assoc, List.append_assoc,
      parseFrom_piece, ih]
    rfl

/-- Every list of tokens is pieces, and then a rest where no piece can be read. -/
lemma exists_pieces (ts : List Token) : ∃ ps r, ts = piecesTokens ps ++ r ∧ Stuck r := by
  induction hn : ts.length using Nat.strongRecOn generalizing ts with
  | _ n ih =>
    by_cases h : Stuck ts
    · exact ⟨[], ts, rfl, h⟩
    · simp only [Stuck, not_forall, ne_eq, not_not] at h
      obtain ⟨p, us, rfl⟩ := h
      have hp : p.item.tokens.length ≠ 0 := by simpa using p.item.tokens_ne_nil
      simp only [List.length_append] at hn
      obtain ⟨ps, r, rfl, hr⟩ := ih us.length (by omega) us rfl
      exact ⟨p :: ps, r, by simp, hr⟩

/-! ### The longest sequence -/

lemma piece_unique {p q : Piece} {r s : List Token}
    (h : p.gap ++ (p.item.tokens ++ r) = q.gap ++ (q.item.tokens ++ s)) : p = q ∧ r = s := by
  have hgap : p.gap = q.gap := by
    rw [← takeWhile_trivia p.trivia (p.starts_append r), h,
      takeWhile_trivia q.trivia (q.starts_append s)]
  rw [hgap, List.append_cancel_left_eq] at h
  obtain ⟨hitem, hr⟩ := Item.unique p.valid p.closed q.valid q.closed h
  refine ⟨?_, hr⟩
  obtain ⟨pg, pi, _, _, _, _⟩ := p
  obtain ⟨qg, qi, _, _, _, _⟩ := q
  simp only at hgap hitem
  subst hgap hitem
  rfl

lemma prefix_of_stuck {ps qs : List Piece} {r s : List Token} (hr : Stuck r)
    (h : piecesTokens ps ++ r = piecesTokens qs ++ s) : qs <+: ps := by
  induction qs generalizing ps with
  | nil => exact List.nil_prefix
  | cons q qs ih =>
    rw [piecesTokens_cons, List.append_assoc, List.append_assoc] at h
    cases ps with
    | nil => exact absurd h (hr q _)
    | cons p ps =>
      rw [piecesTokens_cons, List.append_assoc, List.append_assoc] at h
      obtain ⟨rfl, h'⟩ := piece_unique h
      exact (List.prefix_cons_inj p).mpr (ih h')

lemma eq_nil_of_allTrivia {ps : List Piece} {r : List Token}
    (h : AllTrivia (piecesTokens ps ++ r)) : ps = [] := by
  cases ps with
  | nil => rfl
  | cons p ps =>
    obtain ⟨k, ts, hk⟩ := List.exists_cons_of_ne_nil p.item.tokens_ne_nil
    have hs := p.starts k
    rw [hk] at hs
    exact absurd (h k (by simp [hk])) (hs rfl)

lemma stuck_of_allTrivia {ts : List Token} (h : AllTrivia ts) : Stuck ts := by
  rintro p r rfl
  have hnil : [p] = [] := eq_nil_of_allTrivia (r := r) (by simpa using h)
  cases hnil

lemma alongPieces_stop (n : Nat) (ps : List Piece) :
    (((alongPieces Piece.rule n ps).getLast?).map Rule.stop).getD n =
      n + (spell (piecesTokens ps)).length := by
  induction ps generalizing n with
  | nil => simp [alongPieces]
  | cons p ps ih =>
    have h := ih (p.stop n)
    rw [← stop_add_length, ← h, alongPieces, List.getLast?_cons]
    cases hq : (alongPieces Piece.rule (p.stop n) ps).getLast? <;> simp

lemma Decomposes.parseRules_eq {css r : Text} {ps : List Piece} (h : Decomposes css ps r)
    (hst : Stuck (tokens r)) : parseRules css = alongPieces Piece.rule 0 ps := by
  rw [parseRules, parse, h.tokens_eq, parseFrom_pieces, parseFrom_stuck hst, List.append_nil]

lemma Decomposes.afterRules_eq {css r : Text} {ps : List Piece} (h : Decomposes css ps r)
    (hst : Stuck (tokens r)) : afterRules (parseRules css) css = r := by
  rw [afterRules, h.parseRules_eq hst, alongPieces_stop, Nat.zero_add]
  conv_lhs => rw [h.spell_append]
  rw [List.drop_left]

/-- **The pieces that reading finds.** They are the longest sequence, and what follows the last
rule is what they leave. -/
lemma exists_longest (css : Text) : ∃ ps r, Decomposes css ps r ∧ Stuck (tokens r) ∧
    parseRules css = alongPieces Piece.rule 0 ps ∧ afterRules (parseRules css) css = r := by
  obtain ⟨ps, us, hus, hst⟩ := exists_pieces (tokens css)
  obtain ⟨r, hr, rfl⟩ := tokenizes_of_tokens_eq hus (closed_piecesTokens ps)
  have hps : Decomposes css ps r := hr
  exact ⟨ps, r, hps, hst, hps.parseRules_eq hst, hps.afterRules_eq hst⟩

lemma Decomposes.isPrefix {css r s : Text} {ps qs : List Piece} (h : Decomposes css ps r)
    (hst : Stuck (tokens r)) (hq : Decomposes css qs s) : qs <+: ps :=
  prefix_of_stuck hst (h.tokens_eq.symm.trans hq.tokens_eq)

/-- **Reading a stylesheet finds the longest sequence of rules** that the text begins with, which
is the only one that all others are beginnings of. The rules and the trivia around them are the
whole text exactly if the text is in the grammar. -/
theorem parseRules_longest (css : Text) :
    (∃ ps, (∀ qs, IsLongest css qs ↔ qs = ps) ∧
      (parseRules css).map Rule.extent = alongPieces Piece.extent 0 ps) ∧
    (IsTrivia (afterRules (parseRules css) css) ↔ InGrammar css) := by
  obtain ⟨ps, r, hps, hst, hrules, hafter⟩ := exists_longest css
  refine ⟨⟨ps, fun qs => ⟨?_, ?_⟩, ?_⟩, ?_⟩
  · rintro ⟨⟨s, hs⟩, hmax⟩
    have h1 : qs <+: ps := hps.isPrefix hst hs
    have h2 : ps <+: qs := hmax ps r hps
    exact h1.eq_of_length_le h2.length_le
  · rintro rfl
    exact ⟨⟨r, hps⟩, fun qs s hs => hps.isPrefix hst hs⟩
  · rw [hrules, map_alongPieces]
    simp only [extent_rule]
  · rw [hafter]
    refine ⟨fun h => ⟨ps, r, hps, h⟩, ?_⟩
    rintro ⟨qs, s, hs, gap, hgap, htr⟩
    obtain ⟨vs, rfl⟩ := hps.isPrefix hst hs
    have hts : tokens s = gap := by rw [hgap.tokens_eq, tokens_nil, List.append_nil]
    have hcut : piecesTokens vs ++ tokens r = gap := by
      have := hps.tokens_eq.symm.trans hs.tokens_eq
      rwa [piecesTokens_append, List.append_assoc, List.append_cancel_left_eq, hts] at this
    obtain rfl := eq_nil_of_allTrivia (hcut ▸ htr)
    have hrs : r = s := by
      have := hps.spell_append.symm.trans hs.spell_append
      rwa [List.append_nil, List.append_cancel_left_eq] at this
    exact ⟨gap, hrs ▸ hgap, htr⟩

end ClassPurge.Css
