import ClassPurge.Proofs.Css.Blanking
import ClassPurge.Proofs.Css.Declarations
import ClassPurge.Proofs.Css.Offsets
import ClassPurge.Proofs.Css.Respelling

/-!
The loops that read a stylesheet never feel their budgets. Every round gets ahead in the text, so
that the characters ahead bound the rounds, and leaves what is to be found as it is. Each loop
comes to its own end, with what the tokens of the text say, and hands no offset on that lies
outside of the text.
-/

namespace ClassPurge.Css

variable {t : Text} {i j : Nat} {k : Token}

lemma Stands.length {comments : Bool} (h : Stands comments t i k j) : k.text.length = j - i := by
  rw [h.text, length_slice (Nat.le_of_lt h.lt) h.le]

lemma Stands.add_length {comments : Bool} (h : Stands comments t i k j) :
    i + k.text.length = j := by
  have := h.lt
  rw [h.length]
  omega

/-- Behind a token less lies ahead. -/
lemma Stands.nearer {comments : Bool} (h : Stands comments t i k j) :
    t.length - j < t.length - i := by
  have := h.lt
  have := h.le
  omega

lemma tokens_drop_of_le (h : t.length ≤ i) : tokens (t.drop i) = [] := by
  rw [List.drop_eq_nil_of_le h, tokens_nil]

/-! ### Blanks and comments -/

lemma triviaEndAt_of_stands (h : Stands true t i k j) :
    triviaEndAt t i = if k.isTrivia then triviaEndAt t j else i := by
  have hlen := h.add_length
  rw [triviaEndAt, tokens, h.scan, List.takeWhile_cons]
  split
  · rw [spell_cons, List.length_append, ← Nat.add_assoc, hlen, triviaEndAt, tokens]
  · rfl

lemma triviaEndAt_of_stops (hc : ∀ c, t[i]? = some c → ¬ (Token.char c).isTrivia)
    (ho : ¬ opensComment t i) : triviaEndAt t i = i := by
  rcases h : t[i]? with _ | c
  · rw [triviaEndAt, tokens_drop_of_le (List.getElem?_eq_none_iff.mp h)]
    rfl
  by_cases hq : isQuote c
  · rcases hs : (afterString? c (t.drop (i + 1))).map (offsetOf t) with _ | j
    · have hnone : afterString? c (t.drop (i + 1)) = none := by simpa using hs
      rw [triviaEndAt, drop_cons h, tokens, scan_unclosed true hq hnone]
      rfl
    · obtain ⟨s, hs⟩ := stands_string h hq true hs
      rw [triviaEndAt_of_stands hs]
      rfl
  · rw [triviaEndAt_of_stands (stands_char h hq fun _ => ho), if_neg (hc c h)]

lemma stands_blank {c : Char} (h : t[i]? = some c) (hc : (Token.char c).isTrivia) :
    Stands true t i (.char c) (i + 1) := by
  refine stands_char h ?_ fun _ ho => ?_
  · intro hq
    rcases isQuote_iff.mp hq with rfl | rfl <;> exact absurd hc (by decide)
  · obtain ⟨r, hr⟩ := opensComment_iff.mp ho
    obtain rfl : c = '/' := by
      have := (drop_cons h).symm.trans hr
      exact (List.cons.inj this).1
    exact absurd hc (by decide)

lemma blanksEndAt_of_getElem? {c : Char} (h : t[i]? = some c) : blanksEndAt t i =
    if (Token.char c).isTrivia then blanksEndAt t (i + 1) else i := by
  rw [blanksEndAt, drop_cons h, List.takeWhile_cons]
  split
  · rw [List.length_cons, blanksEndAt]
    omega
  · rfl

/-- What the blanks lead to. -/
structure BlanksEnd (t : Text) (i j : Nat) : Prop where
  le : i ≤ j
  inside : j ≤ t.length
  trivia : triviaEndAt t j = triviaEndAt t i
  stops : ∀ c, t[j]? = some c → ¬ (Token.char c).isTrivia

lemma blanksEnd (hi : i ≤ t.length) : BlanksEnd t i (blanksEndAt t i) := by
  induction hn : t.length - i generalizing i with
  | zero =>
    obtain rfl : i = t.length := by omega
    have hend : blanksEndAt t t.length = t.length := by simp [blanksEndAt]
    rw [hend]
    exact ⟨Nat.le_refl _, hi, rfl, fun c hc => by simp at hc⟩
  | succ n ih =>
    have hlt : i < t.length := by omega
    have hget : t[i]? = some t[i] := List.getElem?_eq_getElem hlt
    by_cases hc : (Token.char t[i]).isTrivia
    · obtain ⟨hle, hin, htr, hstop⟩ := ih (i := i + 1) (by omega) (by omega)
      rw [blanksEndAt_of_getElem? hget, if_pos hc]
      refine ⟨by omega, hin, ?_, hstop⟩
      rw [htr, triviaEndAt_of_stands (stands_blank hget hc), if_pos hc]
    · rw [blanksEndAt_of_getElem? hget, if_neg hc]
      refine ⟨Nat.le_refl i, hi, rfl, fun c h => ?_⟩
      rw [hget, Option.some.injEq] at h
      rwa [← h]

lemma triviaRound_settles (hi : i ≤ t.length) :
    (triviaRound t i).Settles (· ≤ t.length) (t.length - ·) (triviaEndAt t) i := by
  obtain ⟨hle, hin, htr, hstop⟩ := blanksEnd hi
  rw [triviaRound]
  by_cases ho : opensComment t (blanksEndAt t i)
  · obtain ⟨s, hs⟩ := stands_comment ho
    have := hs.lt
    have := hs.le
    simp only [ho, if_true, Round.Settles]
    refine ⟨hs.le, by omega, ?_⟩
    rw [← htr, triviaEndAt_of_stands hs]
    rfl
  · simp only [ho, Round.Settles]
    rw [← htr, triviaEndAt_of_stops hstop ho]
    rfl

lemma unhindered_triviaLoop (hi : i ≤ t.length) :
    Unhindered (fun _ => triviaLoop t i) (· ≤ t.length) (triviaEndAt t i) := by
  refine unhindered (fun _ _ => triviaRound_settles) (fun _ => ⟨hi, rfl⟩) ?_ fun _ h _ => h
  simp only [triviaLoop, budget]
  omega

/-! ### Preludes -/

/-- What ends the prelude that goes on at `i` with `n` parentheses open, and where. -/
def preludeFrom? (t : Text) (statement : Bool) (n i : Nat) : Option (Terminator × Nat) :=
  (splitPrelude? statement n (tokens (t.drop i))).map fun (p, e, _) => (e, i + (spell p).length)

lemma preludeFrom?_of_stands (h : Stands true t i k j) (hk : ¬ k.IsUnclosed) (statement : Bool)
    (n : Nat) : preludeFrom? t statement n i =
      if k = .char '{' then some (.brace, i)
      else if k = .char '}' then none
      else if k = .char ';' ∧ statement ∧ n = 0 then some (.semicolon, i)
      else preludeFrom? t statement (parensAfterToken n k) j := by
  have hlen := h.add_length
  rw [preludeFrom?, tokens, h.scan, splitPrelude?_cons hk]
  split
  · rfl
  split
  · rfl
  split
  · rfl
  · rw [preludeFrom?, Option.map_map, tokens]
    congr 1
    funext x
    obtain ⟨p, e, r⟩ := x
    simp only [Function.comp_apply, spell_cons, List.length_append, ← Nat.add_assoc, hlen]

lemma preludeRound_settles (l : Limit) (statement : Bool) {s : Nat × Nat} (hs : s.2 ≤ t.length) :
    (preludeRound l t statement s).Settles (fun s => s.2 ≤ t.length) (fun s => t.length - s.2)
      (fun s => preludeFrom? t statement s.1 s.2) s := by
  obtain ⟨n, i⟩ := s
  rw [preludeRound]
  have hsee := sees_look l true t i
  simp only at hs ⊢
  generalize look l true t i = v at hsee ⊢
  -- past a string or comment the prelude goes on with the same parentheses
  have hpast {k : Token} {j : Nat} (h : Stands true t i k j) (hk : ∀ c, k ≠ .char c)
      (hu : ¬ k.IsUnclosed) : (Round.next (n, j)).Settles (fun s => s.2 ≤ t.length)
        (fun s => t.length - s.2) (fun s => preludeFrom? t statement s.1 s.2) (n, i) := by
    refine ⟨h.le, h.nearer, ?_⟩
    have hparens : parensAfterToken n k = n := by
      cases k <;> first | rfl | exact absurd rfl (hk _)
    simp only [preludeFrom?_of_stands h hu, hk, false_and, if_false, hparens]
  cases hsee with
  | nothing h =>
    simp only [Round.Settles, preludeFrom?, tokens_drop_of_le h]
    rfl
  | unclosed h =>
    simp only [Round.Settles, preludeFrom?, tokens, h]
    rfl
  | string h => exact hpast h (by simp) (by simp [Token.IsUnclosed])
  | comment h => exact hpast h (by simp) (by simp [Token.IsUnclosed])
  | @char c h =>
    have hfrom := preludeFrom?_of_stands h (by simp [Token.IsUnclosed]) statement n
    simp only [Token.char.injEq, parensAfterToken] at hfrom
    simp only [beq_iff_eq, Bool.and_eq_true, and_assoc]
    by_cases ho : c = '{'
    · simp only [if_pos ho] at hfrom ⊢
      exact hfrom.symm
    by_cases hc : c = '}'
    · simp only [if_neg ho, if_pos hc] at hfrom ⊢
      exact hfrom.symm
    by_cases hsc : c = ';' ∧ statement = true ∧ n = 0
    · simp only [if_neg ho, if_neg hc, if_pos hsc] at hfrom ⊢
      exact hfrom.symm
    · simp only [if_neg ho, if_neg hc, if_neg hsc] at hfrom ⊢
      exact ⟨h.le, h.nearer, hfrom.symm⟩

/-- The tokens `ts` stand at `i`, and `us` are those after them. -/
structure CutAt (t : Text) (i : Nat) (ts us : List Token) : Prop where
  reads : Tokenizes (t.drop i) ts (t.drop (i + (spell ts).length))
  rest : tokens (t.drop (i + (spell ts).length)) = us
  le : i + (spell ts).length ≤ t.length
  text : t.slice i (i + (spell ts).length : Nat) = spell ts

lemma cutAt {ts us : List Token} (hi : i ≤ t.length) (h : tokens (t.drop i) = ts ++ us)
    (hc : Closed ts) : CutAt t i ts us := by
  obtain ⟨r, hr, hus⟩ := tokenizes_of_tokens_eq h hc
  have hcut := hr.spell_append
  have hrest := Text.drop_of_drop hcut
  have hlen := congrArg List.length hcut
  rw [List.length_drop, List.length_append] at hlen
  refine ⟨hrest ▸ hr, by rw [hrest, hus], by omega, Text.slice_of_drop hcut⟩

lemma cutAt_prelude {statement : Bool} {n : Nat} {p r : List Token} {e : Terminator}
    (hi : i ≤ t.length) (h : splitPrelude? statement n (tokens (t.drop i)) = some (p, e, r)) :
    CutAt t i (p ++ [.char e.char]) r := by
  refine cutAt hi ?_ (closed_append.mpr ⟨(prelude_of_splitPrelude? h).closed, ?_⟩)
  · rw [splitPrelude?_eq h, List.append_assoc]
    rfl
  · simp [closed_cons, Token.IsUnclosed]

lemma isStatement_eq (t : Text) (i : Nat) :
    ((tokens (t.drop i)).head? == some (.char '@')) = (t[i]? == some '@') := by
  rcases h : t[i]? with _ | c
  · rw [tokens_drop_of_le (List.getElem?_eq_none_iff.mp h)]
    rfl
  by_cases hc : c = '@'
  · subst hc
    have hstands : Stands true t i (.char '@') (i + 1) := by
      refine stands_char h (by decide) fun _ ho => ?_
      obtain ⟨r, hr⟩ := opensComment_iff.mp ho
      simp [drop_cons h] at hr
    rw [tokens, hstands.scan]
    rfl
  · have hhead : (tokens (t.drop i)).head? ≠ some (.char '@') := by
      intro ht
      have htext := congrArg List.head? (spell_tokens (t.drop i))
      obtain ⟨ts, hts⟩ := List.head?_eq_some_iff.mp ht
      rw [hts, drop_cons h] at htext
      simp only [spell_cons, Token.text, List.singleton_append, List.head?_cons,
        Option.some.injEq] at htext
      exact hc htext.symm
    rw [beq_eq_false_iff_ne.mpr hhead, beq_eq_false_iff_ne.mpr (by simpa using hc)]

lemma preludeEndAt?_eq (t : Text) (i : Nat) :
    preludeEndAt? t i = preludeFrom? t (t[i]? == some '@') 0 i := by
  rw [preludeEndAt?, isStatement_eq, preludeFrom?]

lemma unhindered_preludeLoop (hi : i ≤ t.length) :
    Unhindered (fun l => preludeLoop l t i) (fun s => s.2 ≤ t.length) (preludeEndAt? t i) := by
  refine unhindered (fun l _ => preludeRound_settles l _)
    (fun _ => ⟨hi, (preludeEndAt?_eq t i).symm⟩) ?_ fun _ h _ => h
  simp only [preludeLoop, budget]
  omega

lemma preludeEndAt?_bounds (hi : i ≤ t.length) {e : Terminator}
    (h : preludeEndAt? t i = some (e, j)) : i ≤ j ∧ j < t.length := by
  obtain ⟨⟨p, e', r⟩, hp, he⟩ := Option.map_eq_some_iff.mp h
  have hle := (cutAt_prelude hi hp).le
  simp only [Prod.mk.injEq] at he
  simp only [spell_append, spell_cons, spell_nil, Token.text, List.length_append,
    List.length_singleton, List.append_nil] at hle
  omega

/-! ### Blocks -/

/-- Where the last of `depth + 1` braces closes, from `i` on, and whether one has been met. -/
def blockFrom? (t : Text) (depth : Nat) (nested : Bool) (i : Nat) : Option (Nat × Bool) :=
  (splitBlock? depth (tokens (t.drop i))).map fun (b, _) =>
    (i + (spell b).length, nested || b.any Token.isOpenBrace)

lemma isOpenBrace_iff : k.isOpenBrace = true ↔ k = .char '{' := by
  cases k <;> simp [Token.isOpenBrace]

lemma blockFrom?_of_stands (h : Stands true t i k j) (hk : ¬ k.IsUnclosed) (depth : Nat)
    (nested : Bool) : blockFrom? t depth nested i =
      if k = .char '}' then
        match depth with
        | 0 => some (i, nested)
        | d + 1 => blockFrom? t d nested j
      else if k = .char '{' then blockFrom? t (depth + 1) true j
      else blockFrom? t depth nested j := by
  have hlen := h.add_length
  have hcons (d : Nat) : ((splitBlock? d (tokens (t.drop j))).map fun (b, r) => (k :: b, r)).map
        (fun (b, _) => (i + (spell b).length, nested || b.any Token.isOpenBrace)) =
      blockFrom? t d (nested || k.isOpenBrace) j := by
    rw [blockFrom?, Option.map_map]
    congr 1
    funext ⟨b, r⟩
    simp only [Function.comp_apply, spell_cons, List.length_append, ← Nat.add_assoc, hlen,
      List.any_cons, Bool.or_assoc]
  rw [blockFrom?, tokens, h.scan, splitBlock?_cons hk, ← tokens]
  by_cases hclose : k = .char '}'
  · subst hclose
    cases depth with
    | zero => simp
    | succ d => simpa [Token.isOpenBrace] using hcons d
  · rw [if_neg hclose, if_neg hclose, hcons]
    by_cases hopen : k = .char '{'
    · rw [if_pos hopen, if_pos hopen, isOpenBrace_iff.mpr hopen, Bool.or_true]
    · have hno : k.isOpenBrace = false := by simpa using mt isOpenBrace_iff.mp hopen
      rw [if_neg hopen, if_neg hopen, hno, Bool.or_false]

/-- The offset lies in the text, and the brace that is to be closed is open. -/
def BlockState.Inside (t : Text) (s : BlockState) : Prop := s.offset ≤ t.length ∧ 0 < s.depth

lemma blockRound_settles (l : Limit) {s : BlockState} (hs : s.Inside t) :
    (blockRound l t s).Settles (BlockState.Inside t) (fun s => t.length - s.offset)
      (fun s => blockFrom? t (s.depth - 1) s.nested s.offset) s := by
  obtain ⟨depth, nested, i⟩ := s
  obtain ⟨hi, hd⟩ := hs
  rw [blockRound]
  have hsee := sees_look l true t i
  simp only at hi hd ⊢
  generalize look l true t i = v at hsee ⊢
  -- past a string or comment the block goes on as it was
  have hpast {k : Token} {j : Nat} (h : Stands true t i k j) (hk : ∀ c, k ≠ .char c)
      (hu : ¬ k.IsUnclosed) : (Round.next (BlockState.mk depth nested j)).Settles
        (BlockState.Inside t) (fun s => t.length - s.offset)
        (fun s => blockFrom? t (s.depth - 1) s.nested s.offset) ⟨depth, nested, i⟩ := by
    refine ⟨⟨h.le, hd⟩, h.nearer, ?_⟩
    simp only [blockFrom?_of_stands h hu, hk, if_false]
  cases hsee with
  | nothing h =>
    simp only [Round.Settles, blockFrom?, tokens_drop_of_le h]
    rfl
  | unclosed h =>
    simp only [Round.Settles, blockFrom?, tokens, h]
    rfl
  | string h => exact hpast h (by simp) (by simp [Token.IsUnclosed])
  | comment h => exact hpast h (by simp) (by simp [Token.IsUnclosed])
  | @char c h =>
    have hfrom := blockFrom?_of_stands h (by simp [Token.IsUnclosed]) (depth - 1) nested
    simp only [Token.char.injEq] at hfrom
    simp only [beq_iff_eq]
    by_cases ho : c = '{'
    · subst ho
      simp only [if_true] at hfrom ⊢
      have hdepth : depth + 1 - 1 = depth - 1 + 1 := by omega
      refine ⟨⟨h.le, Nat.succ_pos depth⟩, h.nearer, ?_⟩
      simp only [hfrom, hdepth]
      rfl
    by_cases hc : c = '}'
    · simp only [if_neg ho, if_pos hc] at hfrom ⊢
      rcases hn : depth - 1 with _ | n
      · rw [hn] at hfrom
        simp only [if_true, Round.Settles, hn]
        exact hfrom.symm
      · rw [if_neg (Nat.succ_ne_zero n)]
        rw [hn] at hfrom
        refine ⟨⟨h.le, Nat.succ_pos n⟩, h.nearer, ?_⟩
        simp only [hn, hfrom]
        rfl
    · simp only [if_neg ho, if_neg hc] at hfrom ⊢
      exact ⟨⟨h.le, hd⟩, h.nearer, hfrom.symm⟩

lemma blockEndAt?_eq (t : Text) (i : Nat) :
    blockEndAt? t i = blockFrom? t 0 false (i + 1) := by
  simp [blockEndAt?, blockFrom?]

lemma unhindered_blockLoop (hi : i < t.length) :
    Unhindered (fun l => blockLoop l t i) (fun s => s.offset ≤ t.length) (blockEndAt? t i) := by
  refine unhindered (fun l _ => blockRound_settles l)
    (fun _ => ⟨⟨hi, Nat.one_pos⟩, (blockEndAt?_eq t i).symm⟩) ?_ fun _ h _ => h.1
  simp only [blockLoop, budget]
  omega

lemma cutAt_block {b r : List Token} (hi : i < t.length)
    (h : splitBlock? 0 (tokens (t.drop (i + 1))) = some (b, r)) :
    CutAt t (i + 1) (b ++ [.char '}']) r := by
  refine cutAt hi ?_ (closed_append.mpr ⟨(balanced_of_splitBlock? h).1, ?_⟩)
  · rw [splitBlock?_eq h, List.append_assoc]
    rfl
  · simp [closed_cons, Token.IsUnclosed]

lemma blockEndAt?_bounds (hi : i < t.length) {nested : Bool}
    (h : blockEndAt? t i = some (j, nested)) : i < j ∧ j < t.length := by
  obtain ⟨⟨b, r⟩, hb, he⟩ := Option.map_eq_some_iff.mp h
  have hle := (cutAt_block hi hb).le
  simp only [Prod.mk.injEq] at he
  simp only [spell_append, spell_cons, spell_nil, Token.text, List.length_append,
    List.length_singleton, List.append_nil] at hle
  omega

/-! ### Comments taken out -/

/-- What is kept of the text, once the loop has come to the state `s`. -/
def CutState.comes (t : Text) (s : CutState) : Text :=
  s.kept ++ t.slice s.last s.offset ++ spell (dropComments (tokens (t.drop s.offset)))

lemma cutRound_settles (l : Limit) {s : CutState} (hs : s.last ≤ s.offset ∧ s.offset ≤ t.length) :
    (cutRound l t s).Settles (fun s => s.last ≤ s.offset ∧ s.offset ≤ t.length)
      (fun s => t.length - s.offset) (CutState.comes t) s := by
  obtain ⟨kept, last, i⟩ := s
  rw [cutRound]
  have hsee := sees_look l true t i
  simp only at hs ⊢
  generalize look l true t i = v at hsee ⊢
  -- what is no comment stays, and is part of what has not been decided on
  have hstays {k : Token} {j : Nat} (h : Stands true t i k j) (hk : ¬ k.isComment) :
      CutState.comes t ⟨kept, last, j⟩ = CutState.comes t ⟨kept, last, i⟩ := by
    have hkeep : dropComments (k :: tokens (t.drop j)) = k :: dropComments (tokens (t.drop j)) := by
      simp [dropComments, hk]
    simp only [CutState.comes]
    conv_rhs => rw [tokens, h.scan, ← tokens, hkeep, spell_cons, h.text, ← List.append_assoc,
      List.append_assoc kept, slice_append_slice hs.1 (Nat.le_of_lt h.lt)]
  have hrest : t.slice last i ++ t.drop i = t.drop last := slice_append_drop hs.1
  have hlast {k : Token} {j : Nat} (h : Stands true t i k j) : last ≤ j :=
    Nat.le_trans hs.1 (Nat.le_of_lt h.lt)
  cases hsee with
  | nothing h =>
    rw [List.drop_eq_nil_of_le h, List.append_nil] at hrest
    simp only [Round.Settles, CutState.finish, CutState.comes, tokens_drop_of_le h, hrest]
    exact (List.append_nil _).symm
  | unclosed h =>
    have hkeep : spell (dropComments [.unclosed (t.drop i)]) = t.drop i := by
      simp [dropComments, Token.isComment, Token.text]
    simp only [Round.Settles, CutState.finish, CutState.comes, tokens, h, hkeep]
    rw [List.append_assoc, hrest]
  | string h => exact ⟨⟨hlast h, h.le⟩, h.nearer, hstays h (by simp [Token.isComment])⟩
  | @comment c j h =>
    have hgone : dropComments (.comment c :: tokens (t.drop j)) =
        dropComments (tokens (t.drop j)) := by
      simp [dropComments, Token.isComment]
    refine ⟨⟨Nat.le_refl _, h.le⟩, h.nearer, ?_⟩
    simp only [CutState.comes, slice_self, List.append_nil]
    rw [tokens, tokens, h.scan, ← tokens, hgone]
  | char h => exact ⟨⟨hlast h, h.le⟩, h.nearer, hstays h (by simp [Token.isComment])⟩

lemma unhindered_cutLoop (t : Text) : Unhindered (fun l => cutLoop l t)
    (fun s => s.last ≤ t.length ∧ s.offset ≤ t.length) (stripComments t) := by
  refine unhindered (fun l _ => cutRound_settles l)
    (fun _ => ⟨⟨Nat.le_refl 0, Nat.zero_le _⟩, ?_⟩) ?_ fun _ h _ => ⟨Nat.le_trans h.1 h.2, h.2⟩
  · simpa [cutLoop, CutState.comes, stripComments] using slice_self t 0
  · simp only [cutLoop, budget]
    omega

/-- Nothing is lost by looking for the mark of a comment first. -/
lemma uncomment_eq (l : Limit) (t : Text) : uncomment l t = stripComments t := by
  rw [uncomment]
  split
  · exact (unhindered_cutLoop t).run_eq l
  · rename_i h
    have hfree : CommentFree t := commentFree_of_not_isInfix fun hm => h (Text.hasPiece_iff.mpr hm)
    rw [stripComments, Plain.dropComments_eq hfree, spell_tokens]

/-! ### Rules -/

lemma CutAt.uncomment_eq {ts us : List Token} {c : Char} (h : CutAt t i (ts ++ [.char c]) us)
    (l : Limit) : uncomment l (spell ts) = spell (dropComments ts) := by
  have hsolid : Solid (ts ++ [.char c]) := ⟨h.reads.allSealed_char, h.reads.apart⟩
  have hts : Solid ts := hsolid.of_isInfix (List.prefix_append ts _).isInfix
  rw [Css.uncomment_eq, stripComments, hts.tokens_spell]

lemma CutAt.slice_init {ts us : List Token} {c : Char} (h : CutAt t i (ts ++ [.char c]) us) :
    t.slice i (i + (spell ts).length : Nat) = spell ts := by
  have hcut := h.reads.spell_append
  rw [spell_append, List.append_assoc] at hcut
  exact Text.slice_of_drop hcut

/-- **A rule is read off the text as it is off the tokens.** -/
lemma ruleFrom?_eq (l : Limit) (hi : i ≤ t.length) : ruleFrom? l t i = ruleAt? t i := by
  rw [ruleFrom?, (unhindered_preludeLoop hi).run_eq l, ruleAt?, preludeEndAt?, readRule?]
  rcases hp : splitPrelude? ((tokens (t.drop i)).head? == some (.char '@')) 0 (tokens (t.drop i))
    with _ | ⟨p, e, r⟩
  · rfl
  have hcut := cutAt_prelude hi hp
  have hend : i + (spell (p ++ [.char e.char])).length = i + (spell p).length + 1 := by
    simp [Token.text, Nat.add_assoc]
  obtain ⟨-, hrest, hle, htext⟩ := id hcut
  rw [hend] at hrest hle htext
  cases e with
  | semicolon =>
    simp only [Option.map_some, Option.bind_eq_bind, Option.bind_some, Option.pure_def, htext,
      spell_append, spell_cons, spell_nil, List.length_append]
    rfl
  | brace =>
    simp only [Option.map_some, Option.bind_eq_bind, Option.bind_some, Option.pure_def]
    rw [(unhindered_blockLoop hle).run_eq l, blockEndAt?, hrest]
    rcases hb : splitBlock? 0 r with _ | ⟨b, r'⟩
    · rfl
    simp only [Option.map_some, Option.bind_some]
    rw [← hrest] at hb
    have hblock := cutAt_block hle hb
    have hstop : i + (spell p).length + 1 + (spell b).length + 1 =
        i + ((spell p).length + (spell b).length + 2) := by omega
    rw [hcut.slice_init, hblock.slice_init, hcut.uncomment_eq l, hblock.uncomment_eq l, hstop]

lemma ruleAt?_bounds (hi : i ≤ t.length) {r : Rule} (h : ruleAt? t i = some r) :
    i < r.stop ∧ r.stop ≤ t.length ∧
      readRule? i (tokens (t.drop i)) = some (r, tokens (t.drop r.stop)) := by
  obtain ⟨⟨r', us⟩, hr, rfl⟩ := Option.map_eq_some_iff.mp h
  obtain ⟨item, hv, hc, hts, rfl⟩ := readRule?_eq_some_iff.mp hr
  have hcut := cutAt hi hts hc
  have hpos := item.spell_length_pos
  rw [Item.rule_stop]
  exact ⟨by omega, hcut.le, by rw [hr, hcut.rest]⟩

/-- The rules that are read from `i` on, behind those read before. -/
def rulesFrom (t : Text) (rules : List Rule) (i : Nat) : Parsed :=
  let p := parseFrom i (tokens (t.drop i))
  ⟨rules ++ p.rules, p.stopped⟩

lemma cutAt_trivia (hi : i ≤ t.length) :
    CutAt t i ((tokens (t.drop i)).takeWhile Token.isTrivia)
      ((tokens (t.drop i)).dropWhile Token.isTrivia) :=
  cutAt hi List.takeWhile_append_dropWhile.symm
    (closed_of_allTrivia fun _ hk => List.mem_takeWhile_imp hk)

lemma triviaEndAt_bounds (hi : i ≤ t.length) : i ≤ triviaEndAt t i ∧ triviaEndAt t i ≤ t.length :=
  ⟨Nat.le_add_right .., (cutAt_trivia hi).le⟩

lemma rulesFrom_eq (rules : List Rule) (hi : i ≤ t.length) : rulesFrom t rules i =
    if t.length ≤ triviaEndAt t i then ⟨rules, none⟩
    else
      match ruleAt? t (triviaEndAt t i) with
      | none => ⟨rules, some (triviaEndAt t i)⟩
      | some r => rulesFrom t (rules ++ [r]) r.stop := by
  have hle := (triviaEndAt_bounds hi).2
  have hdrop : (tokens (t.drop i)).dropWhile Token.isTrivia = tokens (t.drop (triviaEndAt t i)) :=
    (cutAt_trivia hi).rest.symm
  rw [rulesFrom, parseFrom.eq_1, ← triviaEndAt]
  split
  · rename_i hnil
    have htext := spell_tokens (t.drop (triviaEndAt t i))
    rw [← hdrop, hnil, spell_nil] at htext
    rw [if_pos (List.drop_eq_nil_iff.mp htext.symm), List.append_nil]
  rename_i k ts hcons
  have hlt : ¬ t.length ≤ triviaEndAt t i := by
    intro hge
    rw [hdrop, tokens_drop_of_le hge] at hcons
    cases hcons
  rw [if_neg hlt]
  split
  · rename_i hnone
    rw [← hcons, hdrop] at hnone
    rw [ruleAt?, hnone, Option.map_none, List.append_nil]
  · rename_i r us hsome
    rw [← hcons, hdrop] at hsome
    have hrule : ruleAt? t (triviaEndAt t i) = some r := by rw [ruleAt?, hsome, Option.map_some]
    have hread := (ruleAt?_bounds hle hrule).2.2
    obtain rfl : us = tokens (t.drop r.stop) := by
      rw [hsome, Option.some.injEq, Prod.mk.injEq] at hread
      exact hread.2
    simp only [hrule, rulesFrom, List.append_assoc, List.singleton_append]

lemma rulesRound_settles (l : Limit) {s : List Rule × Nat} (hs : s.2 ≤ t.length) :
    (rulesRound l t s).Settles (fun s => s.2 ≤ t.length) (fun s => t.length - s.2)
      (fun s => rulesFrom t s.1 s.2) s := by
  obtain ⟨rules, i⟩ := s
  simp only at hs
  obtain ⟨hi, hle⟩ := triviaEndAt_bounds hs
  have hfrom := rulesFrom_eq rules hs
  simp only [rulesRound, (unhindered_triviaLoop hs).run_eq l, ruleFrom?_eq l hle]
  by_cases hend : t.length ≤ triviaEndAt t i
  · rw [if_pos hend] at hfrom ⊢
    exact hfrom.symm
  rw [if_neg hend] at hfrom ⊢
  rcases hr : ruleAt? t (triviaEndAt t i) with _ | r
  · rw [hr] at hfrom
    exact hfrom.symm
  · obtain ⟨hlt, hstop, -⟩ := ruleAt?_bounds hle hr
    rw [hr] at hfrom
    exact ⟨hstop, by simp only; omega, hfrom.symm⟩

lemma unhindered_rulesLoop (t : Text) :
    Unhindered (fun l => rulesLoop l t) (fun s => s.2 ≤ t.length) (parse t) := by
  refine unhindered (fun l _ => rulesRound_settles l) (fun _ => ⟨Nat.zero_le _, rfl⟩) ?_
    fun _ h _ => h
  simp only [rulesLoop, budget]
  omega

/-! ### Declarations -/

/-- The text `u` put before the first of the pieces. -/
def withFirst (u : Text) : List Text → List Text
  | [] => [u]
  | p :: ps => (u ++ p) :: ps

/-- The declarations that the loop comes to from the state `s`. -/
def PieceState.comes (t : Text) (s : PieceState) : List Text :=
  stripped (s.pieces ++ withFirst (t.slice s.last s.offset)
    ((piecesAt s.parens (quoteTokens (t.drop s.offset))).map spell))

lemma declarationRound_settles (l : Limit) {s : PieceState}
    (hs : s.last ≤ s.offset ∧ s.offset ≤ t.length) :
    (declarationRound l t s).Settles (fun s => s.last ≤ s.offset ∧ s.offset ≤ t.length)
      (fun s => t.length - s.offset) (PieceState.comes t) s := by
  obtain ⟨pieces, n, last, i⟩ := s
  rw [declarationRound]
  have hsee := sees_look l false t i
  simp only at hs ⊢
  generalize look l false t i = v at hsee ⊢
  have hrest : t.slice last i ++ t.drop i = t.drop last := slice_append_drop hs.1
  -- what does not end the piece is added to it
  have hstays {k : Token} {j : Nat} (h : Stands false t i k j) (hk : ¬ (k = .char ';' ∧ n = 0)) :
      PieceState.comes t ⟨pieces, parensAfterToken n k, last, j⟩ =
        PieceState.comes t ⟨pieces, n, last, i⟩ := by
    obtain ⟨p, ps, hps⟩ := List.exists_cons_of_ne_nil
      (piecesAt_ne_nil (parensAfterToken n k) (quoteTokens (t.drop j)))
    simp only [PieceState.comes, hps]
    rw [quoteTokens, h.scan, ← quoteTokens, piecesAt_cons hk hps]
    simp only [List.map_cons, withFirst, spell_cons, h.text, ← List.append_assoc,
      slice_append_slice hs.1 (Nat.le_of_lt h.lt)]
  have hlast {k : Token} {j : Nat} (h : Stands false t i k j) : last ≤ j :=
    Nat.le_trans hs.1 (Nat.le_of_lt h.lt)
  cases hsee with
  | nothing h =>
    rw [List.drop_eq_nil_of_le h, List.append_nil] at hrest
    have hnil : quoteTokens (t.drop i) = [] := by
      rw [List.drop_eq_nil_of_le h, quoteTokens_nil]
    simp [Round.Settles, PieceState.finish, PieceState.comes, hnil, piecesAt, withFirst, hrest]
  | unclosed h =>
    have hone : quoteTokens (t.drop i) = [.unclosed (t.drop i)] := h
    have hpiece : piecesAt n [.unclosed (t.drop i)] = [[.unclosed (t.drop i)]] :=
      piecesAt_cons (by simp) (piecesAt.eq_1 n)
    simp [Round.Settles, PieceState.finish, PieceState.comes, hone, hpiece, withFirst, Token.text,
      hrest]
  | string h => exact ⟨⟨hlast h, h.le⟩, h.nearer, hstays h (by simp)⟩
  | comment h => exact ⟨⟨hlast h, h.le⟩, h.nearer, hstays h (by simp)⟩
  | @char c h =>
    simp only [Bool.and_eq_true, beq_iff_eq]
    by_cases hc : c = ';' ∧ n = 0
    · obtain ⟨rfl, rfl⟩ := hc
      rw [if_pos ⟨rfl, rfl⟩]
      refine ⟨⟨Nat.le_refl _, h.le⟩, h.nearer, ?_⟩
      obtain ⟨p, ps, hps⟩ := List.exists_cons_of_ne_nil
        (piecesAt_ne_nil 0 (quoteTokens (t.drop (i + 1))))
      simp only [PieceState.comes, slice_self]
      rw [quoteTokens, quoteTokens, h.scan, ← quoteTokens, piecesAt_semicolon, hps]
      simp [withFirst]
    · rw [if_neg hc]
      exact ⟨⟨hlast h, h.le⟩, h.nearer, hstays h (by simpa using hc)⟩

lemma unhindered_declarationLoop (t : Text) : Unhindered (fun l => declarationLoop l t)
    (fun s => s.last ≤ t.length ∧ s.offset ≤ t.length) (splitDeclarations t) := by
  refine unhindered (fun l _ => declarationRound_settles l)
    (fun _ => ⟨⟨Nat.le_refl 0, Nat.zero_le _⟩, ?_⟩) ?_ fun _ h _ => ⟨Nat.le_trans h.1 h.2, h.2⟩
  · obtain ⟨p, ps, hps⟩ := List.exists_cons_of_ne_nil (piecesAt_ne_nil 0 (quoteTokens t))
    have hself := slice_self t 0
    simp_all [declarationLoop, PieceState.comes, splitDeclarations, stripped, withFirst]
    rfl
  · simp only [declarationLoop, budget]
    omega

/-! ### Strings blanked out -/

lemma blankRound_settles (l : Limit) {s : Text × Nat} (hs : s.2 ≤ t.length) :
    (blankRound l t s).Settles (fun s => s.2 ≤ t.length) (fun s => t.length - s.2)
      (fun s => s.1 ++ dropQuoted (t.drop s.2)) s := by
  obtain ⟨out, i⟩ := s
  simp only at hs
  rw [blankRound]
  rcases hcut : Text.cut? isQuote (t.drop i) with _ | ⟨a, q, r⟩
  · have hfree := dropQuoted_append (Text.avoids_of_cut?_none hcut) []
    simp only [List.append_nil, dropQuoted_nil] at hfree
    simp only [Round.Settles, hfree]
  obtain ⟨hq, hdrop⟩ := Text.eq_of_cut? hcut
  have hrest := Text.drop_of_drop hdrop
  have hget : t[i + a.length]? = some q := by
    rw [← List.head?_drop, hrest, List.head?_cons]
  have hr : t.drop (i + a.length + 1) = r := by
    rw [← List.drop_drop, hrest, List.drop_one, List.tail_cons]
  have hblank : dropQuoted (t.drop i) = a ++ dropQuoted (q :: r) := by
    rw [hdrop, dropQuoted_append (Text.not_marked_of_cut? hcut)]
  simp only [stringLoop_run hget l, hr]
  rcases hs' : (afterString? q r).map (offsetOf t) with _ | j
  · have hnone : afterString? q r = none := by simpa using hs'
    simp only [Round.Settles, hblank, dropQuoted_unclosed hq hnone, List.append_nil]
  · rw [← hr] at hs'
    obtain ⟨hlt, hle, hstring⟩ := stringEnd_bounds hget hs'
    rw [hr] at hstring
    refine ⟨hle, by simp only; omega, ?_⟩
    simp only [hblank, dropQuoted_string hq hstring, List.append_assoc]

lemma unhindered_blankLoop (t : Text) :
    Unhindered (fun l => blankLoop l t) (fun s => s.2 ≤ t.length) (dropQuoted t) := by
  refine unhindered (fun l _ => blankRound_settles l) (fun _ => ⟨Nat.zero_le _, rfl⟩) ?_
    fun _ h _ => h
  simp only [blankLoop, budget]
  omega

/-! ### All loops -/

/-- **No loop uses its budget up.** From every offset in a text each of the loops over strings,
blanks, preludes and blocks comes to its own end, and so do the loops over all of the text that
read its rules, take its comments out, split its declarations and blank its strings. Each ends
with what it comes to without a budget, which is what the tokens say. The offsets that are handed
on, from round to round and to the caller, lie in the text; only the loop over a string steps
over its end, by one, behind a backslash that is the last character, and then the string does
not close. -/
theorem loops_unhindered (t : Text) :
    (∀ i q, t[i]? = some q → ∃ r, stringEndAt? t i = some r ∧
      (∀ j ∈ r, i < j ∧ j ≤ t.length) ∧
      Unhindered (fun _ => stringLoop t q i)
        (fun j => j ≤ t.length ∨ j = t.length + 1 ∧ t.getLast? = some '\\' ∧ r = none) r) ∧
    (∀ i ≤ t.length, i ≤ triviaEndAt t i ∧ triviaEndAt t i ≤ t.length ∧
      Unhindered (fun _ => triviaLoop t i) (· ≤ t.length) (triviaEndAt t i)) ∧
    (∀ i ≤ t.length, (∀ e j, preludeEndAt? t i = some (e, j) → i ≤ j ∧ j < t.length) ∧
      Unhindered (fun l => preludeLoop l t i) (fun s => s.2 ≤ t.length) (preludeEndAt? t i)) ∧
    (∀ i < t.length, (∀ j nested, blockEndAt? t i = some (j, nested) → i < j ∧ j < t.length) ∧
      Unhindered (fun l => blockLoop l t i) (fun s => s.offset ≤ t.length) (blockEndAt? t i)) ∧
    Unhindered (fun l => rulesLoop l t) (fun s => s.2 ≤ t.length) (parse t) ∧
    Unhindered (fun l => cutLoop l t) (fun s => s.last ≤ t.length ∧ s.offset ≤ t.length)
      (stripComments t) ∧
    Unhindered (fun l => declarationLoop l t) (fun s => s.last ≤ t.length ∧ s.offset ≤ t.length)
      (splitDeclarations t) ∧
    Unhindered (fun l => blankLoop l t) (fun s => s.2 ≤ t.length) (dropQuoted t) := by
  refine ⟨fun i q hq => ?_, fun i hi => ?_, fun i hi => ?_, fun i hi => ?_, unhindered_rulesLoop t,
    unhindered_cutLoop t, unhindered_declarationLoop t, unhindered_blankLoop t⟩
  · have hr : stringEndAt? t i = some ((afterString? q (t.drop (i + 1))).map (offsetOf t)) := by
      rw [stringEndAt?, drop_cons hq]
    refine ⟨_, hr, fun j hj => ?_, unhindered_stringLoop hq hr⟩
    obtain ⟨hlt, hle, -⟩ := stringEnd_bounds hq hj
    exact ⟨hlt, hle⟩
  · obtain ⟨hle, hend⟩ := triviaEndAt_bounds hi
    exact ⟨hle, hend, unhindered_triviaLoop hi⟩
  · exact ⟨fun e j => preludeEndAt?_bounds hi, unhindered_preludeLoop hi⟩
  · exact ⟨fun j nested => blockEndAt?_bounds hi, unhindered_blockLoop hi⟩

/-- The step over the end of the text. -/
example : afterRounds (stringRound ['"', '\\'] '"') 1 1 = .next 3 := by decide

end ClassPurge.Css
