import ClassPurge.Proofs.Css.Joining

/-!
Stylesheets one behind the other. Where the first ends at the end of a rule, its rules are read
as they are read alone, and the second is read from there on: its rules are those of the second
alone, moved by the length of the first. So the rules that were read up to some place are read
again whatever follows that place.
-/

namespace ClassPurge.Css

/-- The same rule in a text that `n` characters were put before. -/
def Rule.shift (n : Nat) (r : Rule) : Rule := { r with start := n + r.start, stop := n + r.stop }

/-- The text is empty or ends where its last rule does. -/
def EndsAtRule (css : Text) : Prop :=
  css = [] ∨ ∃ r ∈ (parseRules css).getLast?, r.stop = css.length

lemma afterRules_eq_nil {css : Text} (h : EndsAtRule css) :
    afterRules (parseRules css) css = [] := by
  rcases h with rfl | ⟨r, hr, hstop⟩
  · simp [afterRules]
  · rw [afterRules, Option.mem_def.mp hr]
    simp [hstop]

lemma getLast?_piecesTokens (ps : List Piece) :
    (piecesTokens ps).getLast? ≠ some (.char '/') := by
  rcases List.eq_nil_or_concat ps with rfl | ⟨qs, q, rfl⟩
  · simp
  · obtain ⟨ts, c, hq, hc⟩ := q.item.tokens_eq_concat
    rw [List.concat_eq_append, piecesTokens_append, piecesTokens_cons, hq]
    rcases hc with rfl | rfl <;> simp

/-- What stands behind the last rule does not change how the text before it is read. -/
lemma Decomposes.append {css : Text} {ps : List Piece} (h : Decomposes css ps []) (s : Text) :
    Decomposes (css ++ s) ps s := by
  have hcss : css = spell (piecesTokens ps) := by
    rw [← List.append_nil (spell _)]
    exact h.spell_append
  rw [hcss]
  exact tokenizes_spell h.allSealed (Tokenizes.apart h) fun hl =>
    absurd hl (getLast?_piecesTokens ps)

/-- **The rules of the first text come first, unchanged.** -/
theorem parseRules_append {a : Text} (ha : EndsAtRule a) (b : Text) :
    parseRules (a ++ b) = parseRules a ++ (parseFrom a.length (tokens b)).rules := by
  obtain ⟨ps, r, hps, -, hrules, hafter⟩ := exists_longest a
  obtain rfl : r = [] := hafter.symm.trans (afterRules_eq_nil ha)
  have hlen : a.length = (spell (piecesTokens ps)).length := by
    have := congrArg List.length hps.spell_append
    simpa using this
  rw [hrules, parseRules, parse, (hps.append b).tokens_eq, parseFrom_pieces, Nat.zero_add, hlen]

/-! ### Moved rules -/

lemma Item.rule_shift (n m : Nat) (i : Item) : i.rule (n + m) = (i.rule m).shift n := by
  cases i <;> simp [rule, Rule.shift, Nat.add_assoc]

lemma alongPieces_shift (n m : Nat) (ps : List Piece) :
    alongPieces Piece.rule (n + m) ps = (alongPieces Piece.rule m ps).map (Rule.shift n) := by
  induction ps generalizing m with
  | nil => rfl
  | cons p ps ih =>
    have hstart : p.start (n + m) = n + p.start m := Nat.add_assoc ..
    have hstop : p.stop (n + m) = n + p.stop m := by rw [Piece.stop, hstart, Nat.add_assoc]; rfl
    rw [alongPieces, alongPieces, List.map_cons, hstop, ih]
    congr 1
    rw [Piece.rule, hstart, Item.rule_shift]
    rfl

lemma parseFrom_shift (n m : Nat) (ts : List Token) :
    (parseFrom (n + m) ts).rules = (parseFrom m ts).rules.map (Rule.shift n) := by
  obtain ⟨ps, r, rfl, hst⟩ := exists_pieces ts
  rw [parseFrom_pieces, parseFrom_pieces, parseFrom_stuck hst, parseFrom_stuck hst,
    List.append_nil, List.append_nil, alongPieces_shift]

/-! ### Cut after a rule -/

lemma exists_of_isPrefix_alongPieces {n : Nat} {rs : List Rule} {ps : List Piece}
    (h : rs <+: alongPieces Piece.rule n ps) :
    ∃ qs us, ps = qs ++ us ∧ rs = alongPieces Piece.rule n qs := by
  induction ps generalizing n rs with
  | nil => exact ⟨[], [], rfl, List.prefix_nil.mp h⟩
  | cons p ps ih =>
    rcases List.prefix_cons_iff.mp h with rfl | ⟨rs, rfl, hrs⟩
    · exact ⟨[], p :: ps, rfl, rfl⟩
    · obtain ⟨qs, us, rfl, rfl⟩ := ih hrs
      exact ⟨p :: qs, us, rfl, rfl⟩

/-- A text cut after a rule ends there, and its rules are those read so far. -/
lemma exists_decomposes_take {css : Text} {rs : List Rule} {r : Rule}
    (h : rs ++ [r] <+: parseRules css) : ∃ qs, Decomposes (css.take r.stop) qs [] ∧
      rs ++ [r] = alongPieces Piece.rule 0 qs := by
  obtain ⟨ps, rest, hps, -, hrules, -⟩ := exists_longest css
  rw [hrules] at h
  obtain ⟨qs, us, rfl, hqs⟩ := exists_of_isPrefix_alongPieces h
  refine ⟨qs, ?_, hqs⟩
  have hstop : r.stop = (spell (piecesTokens qs)).length := by
    have := alongPieces_stop 0 qs
    rw [← hqs] at this
    simpa using this
  have hcss : css = spell (piecesTokens qs) ++ (spell (piecesTokens us) ++ rest) := by
    rw [← List.append_assoc, ← spell_append, ← piecesTokens_append]
    exact hps.spell_append
  obtain ⟨u, hu, -⟩ := Tokenizes.split (by rwa [Decomposes, piecesTokens_append] at hps)
  have hsealed := hps.allSealed
  rw [piecesTokens_append] at hsealed
  have htake : css.take r.stop = spell (piecesTokens qs) ++ [] := by
    rw [hstop, hcss, List.take_left, List.append_nil]
  rw [htake]
  exact tokenizes_spell (allSealed_append.mp hsealed).1 (Tokenizes.apart hu) (by simp)

/-- **Reading is compositional.** The rules of two texts, of which the first ends with a rule, are
the rules of both, those of the second moved; and what was read up to the end of a rule is read
again before any continuation. -/
theorem parseRules_joined :
    (∀ a b : Text, EndsAtRule a →
      parseRules (a ++ b) = parseRules a ++ (parseRules b).map (Rule.shift a.length)) ∧
    ∀ (css s : Text) (rs : List Rule) (r : Rule), rs ++ [r] <+: parseRules css →
      rs ++ [r] <+: parseRules (css.take r.stop ++ s) := by
  refine ⟨fun a b ha => ?_, fun css s rs r h => ?_⟩
  · rw [parseRules_append ha, parseRules.eq_1 b, parse, ← parseFrom_shift, Nat.add_zero]
  · obtain ⟨qs, hqs, hrs⟩ := exists_decomposes_take h
    rw [hrs, parseRules, parse, (hqs.append s).tokens_eq, parseFrom_pieces]
    exact List.prefix_append _ _

/-- A rule and a statement stand before a rule and an open block, and the first rule alone before
a stray brace and an open string. -/
theorem parseRules_joined_open_block :
    let a := ".a\x7bx:'\x7d'\x7d/*;*/@b c;".toList
    let b := " .d\x7b\x7d.e\x7b'".toList
    let rule : Rule := ⟨".a".toList, "x:'\x7d'".toList, 0, 9, true, false⟩
    let statement : Rule := ⟨"@b c;".toList, [], 14, 19, false, false⟩
    EndsAtRule a ∧
      parseRules (a ++ b) = [rule, statement] ++ [⟨".d".toList, [], 20, 24, true, false⟩] ∧
      [] ++ [rule] <+: parseRules (a ++ b) ∧
      [] ++ [rule] <+: parseRules ((a ++ b).take rule.stop ++ "\x7d\x7b'/*".toList) := by
  intro a b rule statement
  have ha : EndsAtRule a := by
    unfold EndsAtRule
    decide +kernel
  have hrules : parseRules a = [rule, statement] := by decide +kernel
  have hlater : parseRules b = [⟨".d".toList, [], 1, 5, true, false⟩] := by decide +kernel
  have hjoined := parseRules_joined.1 a b ha
  rw [hrules, hlater] at hjoined
  have hfirst : [] ++ [rule] <+: parseRules (a ++ b) := ⟨_, hjoined.symm⟩
  exact ⟨ha, hjoined, hfirst, parseRules_joined.2 (a ++ b) _ [] rule hfirst⟩

end ClassPurge.Css
