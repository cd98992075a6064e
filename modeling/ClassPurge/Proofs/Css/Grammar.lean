import ClassPurge.Css.Rule
import ClassPurge.Proofs.Css.Lexing

/-!
The grammar of a stylesheet. A statement begins with `@` and ends at its first semicolon outside
parentheses; a block rule is a prelude, which ends at the first brace, and the tokens up to the
brace that closes it. Only blanks and comments stand between them. A rule is read off the tokens
exactly if they begin with one of the two.
-/

namespace ClassPurge.Css

/-- The token is a brace. -/
def Token.IsBrace (k : Token) : Prop := k = .char '{' ∨ k = .char '}'

instance (k : Token) : Decidable k.IsBrace := inferInstanceAs (Decidable (_ ∨ _))

def BraceFree (ts : List Token) : Prop := ∀ k ∈ ts, ¬ k.IsBrace

instance (ts : List Token) : Decidable (BraceFree ts) := List.decidableBAll _ ts

/-- Every string among the tokens closes. -/
def Closed (ts : List Token) : Prop := ∀ k ∈ ts, ¬ k.IsUnclosed

instance (ts : List Token) : Decidable (Closed ts) := List.decidableBAll _ ts

/-- The number of parentheses open after `ts`, with `n` open before. -/
def parensAfterTokens (n : Nat) (ts : List Token) : Nat := ts.foldl parensAfterToken n

/-- With `n` parentheses open before, no semicolon of `ts` stands outside parentheses. -/
def SemicolonFree (n : Nat) (ts : List Token) : Prop :=
  ∀ p s, ts = p ++ .char ';' :: s → parensAfterTokens n p ≠ 0

/-- With `d` braces open before, the braces of `ts` close these and no others. -/
def Balanced (d : Nat) (ts : List Token) : Prop :=
  ts.count (.char '}') = ts.count (.char '{') + d ∧
    ∀ p, p <+: ts → p.count (.char '}') ≤ p.count (.char '{') + d

/-- One construct of the top level, as the tokens that it is made of. -/
inductive Item
  | statement (prelude : List Token)
  | block (prelude body : List Token)

namespace Item

def tokens : Item → List Token
  | statement p => p ++ [.char ';']
  | block p b => p ++ .char '{' :: (b ++ [.char '}'])

def prelude : Item → List Token
  | statement p | block p _ => p

def hasBlock : Item → Bool
  | statement _ => false
  | block _ _ => true

/-- A block stands inside the block. -/
def nested : Item → Bool
  | statement _ => false
  | block _ b => decide (.char '{' ∈ b)

/-- What makes the tokens a statement or a block rule. -/
def Valid : Item → Prop
  | statement p =>
    p.head? = some (.char '@') ∧ BraceFree p ∧ SemicolonFree 0 p ∧ parensAfterTokens 0 p = 0
  | block p b =>
    BraceFree p ∧ (p.head? = some (.char '@') → SemicolonFree 0 p) ∧ Balanced 0 b

/-- The rule that the item is read as at an offset. -/
def rule (start : Nat) : Item → Rule
  | statement p =>
    ⟨(spell p ++ [';']).strip, [], start, start + (spell p ++ [';']).length, false, false⟩
  | block p b =>
    ⟨(spell (dropComments p)).strip, (spell (dropComments b)).strip, start,
      start + ((spell p).length + (spell b).length + 2), true, b.any Token.isOpenBrace⟩

end Item

/-! ### Lists of tokens -/

@[simp] lemma parensAfterTokens_nil (n : Nat) : parensAfterTokens n [] = n := rfl

@[simp] lemma parensAfterTokens_cons (n : Nat) (k : Token) (ts : List Token) :
    parensAfterTokens n (k :: ts) = parensAfterTokens (parensAfterToken n k) ts := rfl

@[simp] lemma closed_nil : Closed [] := by simp [Closed]

lemma closed_cons {k : Token} {ts : List Token} :
    Closed (k :: ts) ↔ ¬ k.IsUnclosed ∧ Closed ts := List.forall_mem_cons

lemma closed_append {ts us : List Token} : Closed (ts ++ us) ↔ Closed ts ∧ Closed us :=
  List.forall_mem_append

@[simp] lemma braceFree_nil : BraceFree [] := by simp [BraceFree]

lemma braceFree_cons {k : Token} {ts : List Token} :
    BraceFree (k :: ts) ↔ ¬ k.IsBrace ∧ BraceFree ts := List.forall_mem_cons

@[simp] lemma semicolonFree_nil (n : Nat) : SemicolonFree n [] := by
  intro p s h
  simp at h

lemma semicolonFree_cons {n : Nat} {k : Token} {ts : List Token} :
    SemicolonFree n (k :: ts) ↔
      (k = .char ';' → n ≠ 0) ∧ SemicolonFree (parensAfterToken n k) ts := by
  constructor
  · intro h
    refine ⟨fun hk => h [] ts (by rw [hk]; rfl), fun p s hp => ?_⟩
    exact h (k :: p) s (by rw [hp]; rfl)
  · rintro ⟨hk, h⟩ p s hp
    cases p with
    | nil =>
      rw [List.nil_append, List.cons.injEq] at hp
      exact hk hp.1
    | cons j p =>
      rw [List.cons_append, List.cons.injEq] at hp
      obtain ⟨rfl, hp⟩ := hp
      exact h p s hp

instance decidableSemicolonFree : (n : Nat) → (ts : List Token) → Decidable (SemicolonFree n ts)
  | n, [] => .isTrue (semicolonFree_nil n)
  | n, k :: ts =>
    have := decidableSemicolonFree (parensAfterToken n k) ts
    decidable_of_iff _ semicolonFree_cons.symm

lemma balanced_nil {d : Nat} : Balanced d [] ↔ d = 0 := by
  simp [Balanced, eq_comm]

lemma balanced_cons {d e : Nat} {k : Token} {ts : List Token}
    (h : [k].count (.char '{') + d = [k].count (.char '}') + e) :
    Balanced d (k :: ts) ↔ Balanced e ts := by
  have hc (c : Char) (us : List Token) :
      (k :: us).count (.char c) = us.count (.char c) + [k].count (.char c) := by
    rw [← List.singleton_append, List.count_append, Nat.add_comm]
  constructor
  · rintro ⟨hd, hp⟩
    rw [hc _ ts, hc _ ts] at hd
    refine ⟨by omega, fun p hpt => ?_⟩
    have := hp (k :: p) ((List.prefix_cons_inj k).mpr hpt)
    rw [hc _ p, hc _ p] at this
    omega
  · rintro ⟨hd, hp⟩
    refine ⟨by rw [hc _ ts, hc _ ts]; omega, fun p hpt => ?_⟩
    rcases List.prefix_cons_iff.mp hpt with rfl | ⟨q, rfl, hq⟩
    · simp
    · have := hp q hq
      rw [hc _ q, hc _ q]
      omega

lemma balanced_of_braceFree {ts : List Token} (h : BraceFree ts) : Balanced 0 ts := by
  have hc {c : Char} (hc : Token.IsBrace (.char c)) {us : List Token} (hus : us <+: ts) :
      us.count (.char c) = 0 :=
    List.count_eq_zero.mpr fun hk => h _ (hus.subset hk) hc
  have ho : Token.IsBrace (.char '{') := .inl rfl
  have hcl : Token.IsBrace (.char '}') := .inr rfl
  refine ⟨?_, fun p hp => ?_⟩
  · rw [hc ho (List.prefix_refl ts), hc hcl (List.prefix_refl ts)]
  · rw [hc hcl hp]
    exact Nat.zero_le _

lemma braceFree_of_balanced {b : List Token} (h : Balanced 0 b) (hb : .char '{' ∉ b) :
    BraceFree b := by
  have hclose : b.count (.char '}') = 0 := by
    rw [h.1, List.count_eq_zero.mpr hb]
  rintro k hk (rfl | rfl)
  · exact hb hk
  · exact List.count_eq_zero.mp hclose hk

lemma balanced_filter {p : Token → Bool} (hopen : p (.char '{')) (hclose : p (.char '}')) {d : Nat}
    {ts : List Token} : Balanced d (ts.filter p) ↔ Balanced d ts := by
  have ho (us : List Token) : (us.filter p).count (.char '{') = us.count (.char '{') :=
    List.count_filter hopen
  have hc (us : List Token) : (us.filter p).count (.char '}') = us.count (.char '}') :=
    List.count_filter hclose
  rw [Balanced, Balanced, ho, hc]
  refine and_congr_right fun _ => ⟨fun h q hq => ?_, fun h q hq => ?_⟩
  · have := h _ (hq.filter p)
    rwa [ho, hc] at this
  · obtain ⟨u, hu, rfl⟩ := List.prefix_filter_iff.mp hq
    rw [ho, hc]
    exact h u hu

/-! ### Preludes and blocks -/

lemma splitPrelude?_cons {k : Token} (hk : ¬ k.IsUnclosed) (statement : Bool) (n : Nat)
    (ts : List Token) : splitPrelude? statement n (k :: ts) =
      if k = .char '{' then some ([], .brace, ts)
      else if k = .char '}' then none
      else if k = .char ';' ∧ statement ∧ n = 0 then some ([], .semicolon, ts)
      else (splitPrelude? statement (parensAfterToken n k) ts).map
        fun (p, e, r) => (k :: p, e, r) := by
  cases k <;> first | rfl | exact absurd trivial hk

lemma splitBlock?_cons {k : Token} (hk : ¬ k.IsUnclosed) (d : Nat) (ts : List Token) :
    splitBlock? d (k :: ts) =
      if k = .char '}' then
        match d with
        | 0 => some ([], ts)
        | d + 1 => (splitBlock? d ts).map fun (b, r) => (k :: b, r)
      else (splitBlock? (if k = .char '{' then d + 1 else d) ts).map fun (b, r) => (k :: b, r) := by
  cases k <;> first | rfl | exact absurd trivial hk

/-- What a prelude is that `splitPrelude?` has read. -/
structure Prelude (statement : Bool) (n : Nat) (p : List Token) (e : Terminator) : Prop where
  closed : Closed p
  braceFree : BraceFree p
  semicolonFree : statement = true → SemicolonFree n p
  ends : e = .semicolon → statement = true ∧ parensAfterTokens n p = 0

lemma prelude_of_splitPrelude? {statement : Bool} {n : Nat} {ts p r : List Token}
    {e : Terminator} (h : splitPrelude? statement n ts = some (p, e, r)) :
    Prelude statement n p e := by
  induction ts generalizing n p with
  | nil => simp [splitPrelude?] at h
  | cons k ts ih =>
    have hk : ¬ k.IsUnclosed := by
      cases k <;> simp_all [splitPrelude?, Token.IsUnclosed]
    rw [splitPrelude?_cons hk] at h
    split at h
    · simp only [Option.some.injEq, Prod.mk.injEq] at h
      obtain ⟨rfl, rfl, rfl⟩ := h
      exact ⟨closed_nil, braceFree_nil, fun _ => semicolonFree_nil n, by simp⟩
    split at h
    · simp at h
    split at h
    · rename_i hs
      simp only [Option.some.injEq, Prod.mk.injEq] at h
      obtain ⟨rfl, rfl, rfl⟩ := h
      exact ⟨closed_nil, braceFree_nil, fun _ => semicolonFree_nil n, fun _ => hs.2⟩
    · rename_i ho hc hs
      obtain ⟨⟨p', e', r'⟩, hp, he⟩ := Option.map_eq_some_iff.mp h
      simp only [Prod.mk.injEq] at he
      obtain ⟨rfl, rfl, rfl⟩ := he
      obtain ⟨h1, h2, h3, h4⟩ := ih hp
      refine ⟨closed_cons.mpr ⟨hk, h1⟩, braceFree_cons.mpr ⟨?_, h2⟩, fun hst => ?_, h4⟩
      · rintro (hb | hb)
        · exact ho hb
        · exact hc hb
      · exact semicolonFree_cons.mpr ⟨fun hsc hn => hs ⟨hsc, hst, hn⟩, h3 hst⟩

lemma splitPrelude?_append {statement : Bool} {n : Nat} {p : List Token} {e : Terminator}
    (h : Prelude statement n p e) (r : List Token) :
    splitPrelude? statement n (p ++ .char e.char :: r) = some (p, e, r) := by
  obtain ⟨h1, h2, h3, h4⟩ := h
  induction p generalizing n with
  | nil =>
    rw [List.nil_append, splitPrelude?_cons (by simp [Token.IsUnclosed])]
    cases e with
    | brace => rfl
    | semicolon => simpa [Terminator.char] using h4 rfl
  | cons k p ih =>
    obtain ⟨hk, h1⟩ := closed_cons.mp h1
    obtain ⟨hb, h2⟩ := braceFree_cons.mp h2
    rw [List.cons_append, splitPrelude?_cons hk, if_neg fun h => hb (.inl h),
      if_neg fun h => hb (.inr h), if_neg, ih h1 h2 ?_ h4]
    · rfl
    · exact fun hst => (semicolonFree_cons.mp (h3 hst)).2
    · rintro ⟨hsc, hst, hn⟩
      exact (semicolonFree_cons.mp (h3 hst)).1 hsc hn

lemma balanced_of_splitBlock? {d : Nat} {ts b r : List Token}
    (h : splitBlock? d ts = some (b, r)) : Closed b ∧ Balanced d b := by
  induction ts generalizing d b with
  | nil => simp [splitBlock?] at h
  | cons k ts ih =>
    have hk : ¬ k.IsUnclosed := by
      cases k <;> simp_all [splitBlock?, Token.IsUnclosed]
    rw [splitBlock?_cons hk] at h
    split at h
    · rename_i hc
      subst hc
      cases d with
      | zero =>
        simp only [Option.some.injEq, Prod.mk.injEq] at h
        obtain ⟨rfl, rfl⟩ := h
        exact ⟨closed_nil, balanced_nil.mpr rfl⟩
      | succ d =>
        obtain ⟨⟨b', r'⟩, hb, he⟩ := Option.map_eq_some_iff.mp h
        simp only [Prod.mk.injEq] at he
        obtain ⟨rfl, rfl⟩ := he
        obtain ⟨h1, h2⟩ := ih hb
        refine ⟨closed_cons.mpr ⟨hk, h1⟩, (balanced_cons ?_).mpr h2⟩
        simp [Nat.add_comm]
    · rename_i hc
      obtain ⟨⟨b', r'⟩, hb, he⟩ := Option.map_eq_some_iff.mp h
      simp only [Prod.mk.injEq] at he
      obtain ⟨rfl, rfl⟩ := he
      obtain ⟨h1, h2⟩ := ih hb
      refine ⟨closed_cons.mpr ⟨hk, h1⟩, (balanced_cons ?_).mpr h2⟩
      split <;> simp_all [Nat.add_comm]

lemma splitBlock?_append {d : Nat} {b : List Token} (hc : Closed b) (h : Balanced d b)
    (r : List Token) : splitBlock? d (b ++ .char '}' :: r) = some (b, r) := by
  induction b generalizing d with
  | nil =>
    obtain rfl := balanced_nil.mp h
    rw [List.nil_append, splitBlock?_cons (by simp [Token.IsUnclosed]), if_pos rfl]
  | cons k b ih =>
    obtain ⟨hk, hb⟩ := closed_cons.mp hc
    rw [List.cons_append, splitBlock?_cons hk]
    by_cases hcl : k = .char '}'
    · subst hcl
      cases d with
      | zero =>
        have := h.2 [.char '}'] ⟨b, rfl⟩
        simp at this
      | succ d =>
        have hbal : Balanced d b := (balanced_cons (by simp [Nat.add_comm])).mp h
        simp [ih hb hbal]
    · rw [if_neg hcl, ih hb ((balanced_cons ?_).mp h)]
      · rfl
      · split <;> simp_all [Nat.add_comm]

/-! ### Rules -/

lemma any_isOpenBrace (b : List Token) :
    b.any Token.isOpenBrace = decide (.char '{' ∈ b) := by
  induction b with
  | nil => rfl
  | cons k b ih =>
    rw [List.any_cons, ih]
    cases k <;> simp [Token.isOpenBrace, @eq_comm _ '{', beq_eq_decide]

namespace Item

@[simp] lemma rule_start (start : Nat) (i : Item) : (i.rule start).start = start := by
  cases i <;> rfl

@[simp] lemma rule_stop (start : Nat) (i : Item) :
    (i.rule start).stop = start + (spell i.tokens).length := by
  cases i with
  | statement p => simp [rule, tokens, Token.text]
  | block p b =>
    simp only [rule, tokens, spell_append, spell_cons, spell_nil, Token.text, List.length_append,
      List.length_cons, List.length_nil]
    omega

@[simp] lemma rule_hasBlock (start : Nat) (i : Item) : (i.rule start).hasBlock = i.hasBlock := by
  cases i <;> rfl

@[simp] lemma rule_nested (start : Nat) (i : Item) : (i.rule start).nested = i.nested := by
  cases i with
  | statement p => rfl
  | block p b => exact any_isOpenBrace b

lemma tokens_ne_nil (i : Item) : i.tokens ≠ [] := by
  cases i <;> simp [tokens]

lemma spell_length_pos (i : Item) : 0 < (spell i.tokens).length := by
  cases i <;>
    simp only [tokens, spell_append, spell_cons, Token.text, List.length_append,
      List.length_cons] <;>
    omega

end Item

lemma head?_prelude (p r : List Token) (e : Terminator) :
    ((p ++ .char e.char :: r).head? == some (.char '@')) = true ↔ p.head? = some (.char '@') := by
  cases p with
  | nil => cases e <;> simp [Terminator.char]
  | cons k p => simp

namespace Item

/-- What ends the prelude. -/
def terminator : Item → Terminator
  | statement _ => .semicolon
  | block _ _ => .brace

/-- The tokens after the prelude and what ends it. -/
def rest : Item → List Token
  | statement _ => []
  | block _ b => b ++ [.char '}']

lemma tokens_append (i : Item) (r : List Token) :
    i.tokens ++ r = i.prelude ++ .char i.terminator.char :: (i.rest ++ r) := by
  cases i <;> simp [tokens, prelude, terminator, rest, Terminator.char]

lemma splitPrelude?_tokens {i : Item} (hv : i.Valid) (hc : Closed i.tokens) (r : List Token) :
    splitPrelude? ((i.tokens ++ r).head? == some (.char '@')) 0 (i.tokens ++ r) =
      some (i.prelude, i.terminator, i.rest ++ r) := by
  rw [tokens_append]
  refine splitPrelude?_append ⟨?_, ?_, ?_, ?_⟩ _
  · cases i <;> exact (closed_append.mp hc).1
  · cases i <;> simp_all [Valid, prelude]
  · rw [head?_prelude]
    cases i <;> simp_all [Valid, prelude]
  · rw [head?_prelude]
    cases i <;> simp_all [Valid, prelude, terminator]

lemma splitBlock?_rest {p b : List Token} (hv : (block p b).Valid) (hc : Closed (block p b).tokens)
    (r : List Token) : splitBlock? 0 ((block p b).rest ++ r) = some (b, r) := by
  have hb : Closed b := by
    simp only [tokens, closed_append, closed_cons] at hc
    exact hc.2.2.1
  rw [rest, List.append_assoc]
  exact splitBlock?_append hb hv.2.2 r

lemma unique {i j : Item} {r s : List Token} (hi : i.Valid) (hic : Closed i.tokens)
    (hj : j.Valid) (hjc : Closed j.tokens) (h : i.tokens ++ r = j.tokens ++ s) :
    i = j ∧ r = s := by
  have hp := splitPrelude?_tokens hi hic r
  rw [h, splitPrelude?_tokens hj hjc s] at hp
  simp only [Option.some.injEq, Prod.mk.injEq] at hp
  obtain ⟨hpre, hterm, hrest⟩ := hp
  cases i with
  | statement p =>
    cases j with
    | statement q => exact ⟨by rw [show q = p from hpre], hrest.symm⟩
    | block q c => cases hterm
  | block p b =>
    cases j with
    | statement q => cases hterm
    | block q c =>
      have hb := splitBlock?_rest hi hic r
      rw [← hrest, splitBlock?_rest hj hjc s] at hb
      simp only [Option.some.injEq, Prod.mk.injEq] at hb
      exact ⟨by rw [show q = p from hpre, hb.1], hb.2.symm⟩

end Item

/-- **A rule is read exactly where the tokens begin with a statement or a block rule.** -/
theorem readRule?_eq_some_iff {start : Nat} {ts r : List Token} {rule : Rule} :
    readRule? start ts = some (rule, r) ↔
      ∃ i : Item, i.Valid ∧ Closed i.tokens ∧ ts = i.tokens ++ r ∧ rule = i.rule start := by
  unfold readRule?
  simp only [Option.bind_eq_bind, Option.bind_eq_some_iff]
  constructor
  · rintro ⟨⟨p, e, s⟩, hp, h⟩
    have hts := splitPrelude?_eq hp
    obtain ⟨h1, h2, h3, h4⟩ := prelude_of_splitPrelude? hp
    rw [hts, head?_prelude] at h3 h4
    cases e with
    | semicolon =>
      simp only [Option.pure_def, Option.some.injEq, Prod.mk.injEq] at h
      obtain ⟨rfl, rfl⟩ := h
      obtain ⟨hst, hn⟩ := h4 rfl
      refine ⟨.statement p, ⟨hst, h2, h3 hst, hn⟩, ?_, by simp [Item.tokens, hts, Terminator.char],
        rfl⟩
      exact closed_append.mpr ⟨h1, by simp [closed_cons, Token.IsUnclosed]⟩
    | brace =>
      simp only [Option.bind_eq_some_iff, Option.pure_def, Option.some.injEq, Prod.mk.injEq] at h
      obtain ⟨⟨b, s'⟩, hb, rfl, rfl⟩ := h
      obtain ⟨hcb, hbal⟩ := balanced_of_splitBlock? hb
      refine ⟨.block p b, ⟨h2, h3, hbal⟩, ?_, ?_, rfl⟩
      · simp [Item.tokens, closed_append, closed_cons, Token.IsUnclosed, h1, hcb]
      · rw [hts, splitBlock?_eq hb]
        simp [Item.tokens, Terminator.char]
  · rintro ⟨i, hv, hc, rfl, rfl⟩
    refine ⟨_, Item.splitPrelude?_tokens hv hc r, ?_⟩
    cases i with
    | statement p => rfl
    | block p b =>
      simp only [Item.terminator, Option.bind_eq_some_iff]
      exact ⟨(b, r), Item.splitBlock?_rest hv hc r, rfl⟩

end ClassPurge.Css
