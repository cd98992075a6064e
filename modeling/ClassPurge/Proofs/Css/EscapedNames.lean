import ClassPurge.Proofs.Css.ClassSelectors
import ClassPurge.Proofs.Css.PlainRules

/-!
Escaped delimiters in a selector. The classes of a selector are read past every escape, but the
rule that the selector stands before is not: behind a backslash a quote still opens a string, and a
brace still begins or ends a block. A rule for one class is read as it is written exactly if its
name has none of these characters; then nothing in it stops the reading of what follows.
-/

namespace ClassPurge.Css

/-- The characters that end a selector, escaped or not. -/
def isDelimiter (x : Char) : Bool := isQuote x || x == '{' || x == '}'

def redBody : Text := ['c', 'o', 'l', 'o', 'r', ':', ' ', 'r', 'e', 'd']

/-- What stands behind the selector of the rule. -/
def redBlock : Text := ' ' :: '{' :: ' ' :: (redBody ++ [' ', '}'])

/-- A rule for one class. -/
def redRule (name : Text) : Text := '.' :: (escape name ++ redBlock)

/-- The rule as it is read from the beginning of a text. -/
def redReading (name : Text) : Rule :=
  ⟨'.' :: escape name, redBody, 0, (redRule name).length, true, false⟩

/-! ### Preludes -/

/-- What a prelude begins with does not change how it ends. -/
lemma splitPrelude?_false_append {p : List Token} (hc : Closed p) (hf : BraceFree p) (n : Nat)
    (ts : List Token) : splitPrelude? false n (p ++ ts) =
      (splitPrelude? false (parensAfterTokens n p) ts).map fun (q, e, r) => (p ++ q, e, r) := by
  induction p generalizing n with
  | nil => simp
  | cons k p ih =>
    obtain ⟨hk, hc⟩ := closed_cons.mp hc
    obtain ⟨hb, hf⟩ := braceFree_cons.mp hf
    rw [List.cons_append, splitPrelude?_cons hk, if_neg fun h => hb (.inl h),
      if_neg fun h => hb (.inr h), if_neg (by simp), ih hc hf, Option.map_map]
    rfl

/-- The first rule begins with the first token unless this is a blank, a comment or an at-sign; its
prelude is what stands before the first brace or open string, and this is a brace that opens. -/
lemma prelude_of_first {p r us : List Token} {k : Token} {q : Piece}
    (hp : ∀ j ∈ (p ++ [k]).head?, ¬ j.isTrivia ∧ j ≠ .char '@') (hc : Closed p) (hf : BraceFree p)
    (hk : k.IsBrace ∨ k.IsUnclosed) (h : p ++ k :: r = q.gap ++ (q.item.tokens ++ us)) :
    k = .char '{' ∧ ∃ b, q.item = .block p b := by
  have hhead : (p ++ k :: r).head? = (p ++ [k]).head? := by cases p <;> rfl
  have hgap : q.gap = [] := by
    cases hg : q.gap with
    | nil => rfl
    | cons j gap =>
      have hj : j ∈ (p ++ k :: r).head? := by rw [h, hg]; rfl
      have htrivia := q.trivia j (by simp [hg])
      exact absurd htrivia (hp j (hhead ▸ hj)).1
  rw [hgap, List.nil_append] at h
  have hstatement : ((p ++ k :: r).head? == some (.char '@')) = false := by
    rw [hhead, beq_eq_false_iff_ne]
    exact fun hat => (hp _ hat).2 rfl
  have hsplit := Item.splitPrelude?_tokens q.valid q.closed us
  rw [← h, hstatement, splitPrelude?_false_append hc hf] at hsplit
  obtain ⟨⟨q', e, r'⟩, hrest, he⟩ := Option.map_eq_some_iff.mp hsplit
  obtain rfl : k = .char '{' := by
    rcases hk with (rfl | rfl) | hk
    · rfl
    · simp [splitPrelude?] at hrest
    · cases k <;> first | exact absurd hk id | simp [splitPrelude?] at hrest
  refine ⟨rfl, ?_⟩
  simp only [splitPrelude?, if_true, Option.some.injEq, Prod.mk.injEq] at hrest he
  obtain ⟨rfl, rfl, rfl⟩ := hrest
  obtain ⟨hpre, hterm, -⟩ := he
  cases hitem : q.item with
  | statement s =>
    rw [hitem] at hterm
    cases hterm
  | block s b =>
    rw [hitem, List.append_nil] at hpre
    exact ⟨b, congrArg (Item.block · b) hpre.symm⟩

/-! ### The rule of a class -/

variable {name : Text}

lemma isDelimiter_eq_false {x : Char} (h : ¬ isDelimiter x) : ¬ isQuote x ∧ x ≠ '{' ∧ x ≠ '}' := by
  simpa [isDelimiter, and_assoc] using h

lemma literal_class (h : Avoids isDelimiter name) : Literal ('.' :: escape name) := by
  have hx : Avoids isDelimiter ('.' :: escape name) := by
    refine List.forall_mem_cons.mpr ⟨by decide, fun x hx => ?_⟩
    rcases mem_escape hx with rfl | hx
    · decide
    · exact h x hx
  refine ⟨fun x hm => (isDelimiter_eq_false (hx x hm)).1, ?_, ?_, ?_⟩
  · rw [commentMark_infix_cons, not_or]
    exact ⟨fun h => absurd h.1 (by decide), not_commentMark_escape name⟩
  · exact fun hm => (isDelimiter_eq_false (hx _ hm)).2.1 rfl
  · exact fun hm => (isDelimiter_eq_false (hx _ hm)).2.2 rfl

lemma trimmed_class (h : Avoids Text.isBlank name) : Text.Trimmed ('.' :: escape name) := by
  refine ⟨fun x hx => ?_, fun x hx => ?_⟩
  · obtain rfl : '.' = x := by simpa using hx
    decide
  · rw [List.getLast?_cons, getLast?_escape] at hx
    cases hn : name.getLast? with
    | none =>
      obtain rfl : '.' = x := by simpa [hn] using hx
      decide
    | some y =>
      obtain rfl : y = x := by simpa [hn] using hx
      exact h y (List.mem_of_getLast? hn)

/-- **Without delimiters in the name the rule is read as it is written**, and so is what stands
behind it. -/
lemma parseRules_redRule (hb : Avoids Text.isBlank name) (h : Avoids isDelimiter name)
    (rest : Text) : parseRules (redRule name ++ rest) =
      redReading name :: (parseRules rest).map (Rule.shift (redRule name).length) := by
  let p : Text := '.' :: (escape name ++ [' '])
  let b : Text := ' ' :: (redBody ++ [' '])
  have hp : Literal p :=
    (literal_class h).append ⟨by decide, by decide, by decide⟩ fun _ => by decide
  have hbody : Literal b := ⟨by decide, by decide, by decide⟩
  have hstart : ∀ x ∈ p.head?, ¬ (Token.char x).isTrivia ∧ x ≠ '@' := by
    rintro x hx
    obtain rfl : '.' = x := by simpa [p] using hx
    decide
  have htext : redRule name ++ rest = p ++ '{' :: (b ++ '}' :: rest) := by
    simp [redRule, redBlock, p, b]
  have hlength : p.length + b.length + 2 = (redRule name).length := by
    simp only [redRule, redBlock, p, b, List.length_cons, List.length_append, List.length_nil]
    omega
  have hselector : p.strip = '.' :: escape name := by
    have hblank : Text.AllBlank [' '] := by decide
    have hp : p = ('.' :: escape name) ++ [' '] := rfl
    rw [hp, Text.strip_append_blank hblank, Text.strip_of_trimmed (trimmed_class hb)]
  have hstripped : b.strip = redBody := by decide
  have hread : plainReading 0 p b = redReading name := by
    rw [plainReading, hselector, hstripped, hlength, Nat.zero_add, redReading]
  rw [parseRules, parse, htext, parseFrom_plainItem hp hbody hstart, hread, hlength,
    Nat.add_comm 0, parseFrom_shift, ← parse, ← parseRules]

/-! ### A name with a delimiter -/

lemma escape_delimiter {d : Char} (hd : isDelimiter d) (a b : Text) :
    escape (a ++ d :: b) = escape a ++ '\\' :: d :: escape b := by
  have hbare : ¬ isBare d := by
    simp only [isDelimiter, Bool.or_eq_true, beq_iff_eq, isQuote_iff] at hd
    rcases hd with ((rfl | rfl) | rfl) | rfl <;> decide
  rw [escape, List.flatMap_append, ← escape, ← escape, escape_cons, escapeChar, if_neg hbare]
  rfl

lemma closesNone_redBlock : ClosesNone redBlock := by
  rintro q hq
  rcases isQuote_iff.mp hq with rfl | rfl <;> decide

/-- **A delimiter ends the selector.** Behind a quote or a closing brace no rule is read at all;
behind an opening brace the selector of the first rule is cut before it. -/
lemma selector_of_delimiter {a b : Text} {d : Char} (ha : Avoids isDelimiter a)
    (hd : isDelimiter d) {r : Rule} (hr : r ∈ (parseRules (redRule (a ++ d :: b))).head?) :
    d = '{' ∧ r.selector = Text.strip ('.' :: (escape a ++ ['\\'])) := by
  let p : Text := '.' :: (escape a ++ ['\\'])
  have hp : Literal p :=
    (literal_class ha).append ⟨by decide, by decide, by decide⟩ fun _ => by decide
  -- the token at the delimiter is a brace, or a string that takes the rest with it
  obtain ⟨k, us, hk, hbrace, htokens⟩ : ∃ k us, (k = .char d ∨ k.IsUnclosed) ∧
      (k.IsBrace ∨ k.IsUnclosed) ∧ tokens (d :: (escape b ++ redBlock)) = k :: us := by
    by_cases hq : isQuote d
    · have hnone := closesNone_redBlock.escape_append b d hq
      refine ⟨.unclosed _, [], .inr ?_, .inr ?_, scan_unclosed true hq hnone⟩ <;> exact trivial
    · have hd' : d = '{' ∨ d = '}' := by simpa [isDelimiter, hq] using hd
      refine ⟨.char d, _, .inl rfl, .inl ?_, scan_char hq fun _ hslash => ?_⟩
      · rcases hd' with rfl | rfl
        · exact .inl rfl
        · exact .inr rfl
      · subst hslash
        exact absurd hd' (by decide)
  have hstream : tokens (redRule (a ++ d :: b)) = p.map .char ++ k :: us := by
    have htext : redRule (a ++ d :: b) = p ++ d :: (escape b ++ redBlock) := by
      simp [redRule, escape_delimiter hd, p]
    rw [htext, (hp.tokenizes fun h => ?_).tokens_eq, htokens]
    simp [p, List.getLast?_cons] at h
  obtain ⟨ps, s, hps, -, hrules, -⟩ := exists_longest (redRule (a ++ d :: b))
  rw [hrules] at hr
  cases ps with
  | nil => cases hr
  | cons q ps =>
    obtain rfl : q.rule 0 = r := by simpa [alongPieces] using hr
    have hfirst : p.map .char ++ k :: us =
        q.gap ++ (q.item.tokens ++ (piecesTokens ps ++ tokens s)) := by
      rw [← hstream, hps.tokens_eq, piecesTokens_cons]
      simp
    have hhead : ∀ j ∈ (p.map Token.char ++ [k]).head?, ¬ j.isTrivia ∧ j ≠ .char '@' := by
      rintro j hj
      obtain rfl : Token.char '.' = j := by simpa [p] using hj
      decide
    have hclosed : Closed (p.map Token.char) := fun j hj hu => by
      obtain ⟨x, -, rfl⟩ := List.mem_map.mp hj
      exact hu
    obtain ⟨rfl, body, hitem⟩ := prelude_of_first hhead hclosed hp.braceFree hbrace hfirst
    refine ⟨?_, ?_⟩
    · rcases hk with hk | hk
      · exact (Token.char.inj hk).symm
      · exact absurd hk id
    · rw [Piece.rule, hitem]
      simp only [Item.rule, dropComments_map_char, spell_map_char, p]

/-- **A rule for one class is read as it is written exactly if the name has no delimiter**, and the
class is always read off its selector. -/
theorem parseRules_redRule_iff (hn : StartsName name) (hb : Avoids Text.isBlank name) :
    selectorClasses ('.' :: escape name) = [name] ∧
    (parseRules (redRule name) = [redReading name] ↔ Avoids isDelimiter name) ∧
    (Avoids isDelimiter name → ∀ rest, parseRules (redRule name ++ rest) =
      redReading name :: (parseRules rest).map (Rule.shift (redRule name).length)) := by
  refine ⟨selectorClasses_escape hn, ⟨fun h => ?_, fun h => ?_⟩, parseRules_redRule hb⟩
  · obtain ⟨a, rest, rfl, ha, hrest⟩ := Text.exists_lead (fun x => !isDelimiter x) name
    have ha : Avoids isDelimiter a := fun x hx => by simpa using ha x hx
    cases rest with
    | nil => simpa using ha
    | cons d b =>
      have hd : isDelimiter d := by simpa using hrest d rfl
      obtain ⟨-, hselector⟩ := selector_of_delimiter ha hd (by rw [h]; rfl)
      have hshort := (Text.strip_isInfix ('.' :: (escape a ++ ['\\']))).length_le
      rw [← hselector, redReading, escape_delimiter hd] at hshort
      simp only [List.length_cons, List.length_append, List.length_nil] at hshort
      omega
  · have hnil : parseRules [] = [] := by decide +kernel
    have hread := parseRules_redRule hb h []
    rwa [List.append_nil, hnil, List.map_nil] at hread

/-- A name with a bracket, a semicolon and a slash before a star is read, and the rule behind it. -/
theorem parseRules_redRule_arbitrary :
    let name : Text := ['w', '-', '[', ';', ']', '/', '*']
    StartsName name ∧ Avoids Text.isBlank name ∧ Avoids isDelimiter name ∧
      selectorClasses ('.' :: escape name) = [name] ∧
      parseRules (redRule name ++ ['p', '{', '}']) =
        [redReading name, ⟨['p'], [], 28, 31, true, false⟩] := by
  intro name
  have hn : StartsName name := ⟨'w', _, by decide, .inl rfl⟩
  have hb : Avoids Text.isBlank name := by decide
  have hd : Avoids isDelimiter name := by decide
  have hbehind : parseRules ['p', '{', '}'] = [⟨['p'], [], 0, 3, true, false⟩] := by decide +kernel
  obtain ⟨hclasses, -, hrest⟩ := parseRules_redRule_iff hn hb
  have hread := hrest hd ['p', '{', '}']
  rw [hbehind] at hread
  exact ⟨hn, hb, hd, hclasses, hread⟩

/-- **A quote in a name stops the reading**, though it is escaped: no rule is found. -/
theorem escaped_quote_stops :
    let name : Text := ['a', '"']
    StartsName name ∧ Avoids Text.isBlank name ∧
      selectorClasses ('.' :: escape name) = [name] ∧ parseRules (redRule name) = [] ∧
      parseRules (redRule name ++ ['p', '{', '}']) = [] := by
  intro name
  exact ⟨⟨'a', _, by decide, .inl rfl⟩, by decide, by decide +kernel, by decide +kernel,
    by decide +kernel⟩

end ClassPurge.Css
