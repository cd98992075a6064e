import ClassPurge.Css.Declaration
import ClassPurge.Proofs.Css.Joining
import ClassPurge.Proofs.Text.Stripping

/-!
Text spelled from tokens, stripped and read again. Stripping takes whole tokens off both ends, and
with the comments taken out the tokens that are left are read back, unless two of them come
together as the mark of a new comment.
-/

namespace ClassPurge.Css

namespace Token

/-- The token is a blank character, of any script. -/
def isBlank : Token → Bool
  | char c => Text.isBlank c
  | _ => false

/-- The token is a comment or blank. -/
def isVoid (k : Token) : Bool := k.isComment || k.isBlank

end Token

def AllBlank (ts : List Token) : Prop := ∀ k ∈ ts, k.isBlank

instance (ts : List Token) : Decidable (AllBlank ts) := List.decidableBAll _ ts

def Void (ts : List Token) : Prop := ∀ k ∈ ts, k.isVoid

instance (ts : List Token) : Decidable (Void ts) := List.decidableBAll _ ts

/-- No token is a comment. -/
def Plain (ts : List Token) : Prop := ∀ k ∈ ts, ¬ k.isComment

instance (ts : List Token) : Decidable (Plain ts) := List.decidableBAll _ ts

/-- No comment is read in the text. -/
def CommentFree (t : Text) : Prop := Plain (tokens t)

instance (t : Text) : Decidable (CommentFree t) := inferInstanceAs (Decidable (Plain (tokens t)))

/-- The tokens end by themselves and do not run into each other. -/
structure Solid (ts : List Token) : Prop where
  sealed : AllSealed ts
  apart : Apart ts

/-! ### Solid tokens -/

@[simp] lemma solid_nil : Solid [] := ⟨allSealed_nil, .nil⟩

lemma solid_char {c : Char} (hc : ¬ isQuote c) : Solid [.char c] :=
  ⟨allSealed_cons.mpr ⟨.char hc, allSealed_nil⟩, .singleton _⟩

lemma Solid.append {ts us : List Token} (ht : Solid ts) (hu : Solid us)
    (h : ts.getLast? = some (.char '/') → us.head? ≠ some (.char '*')) : Solid (ts ++ us) := by
  refine ⟨allSealed_append.mpr ⟨ht.sealed, hu.sealed⟩,
    List.isChain_append.mpr ⟨ht.apart, hu.apart, ?_⟩⟩
  rintro j hj k hk rfl rfl
  exact h hj hk

lemma Solid.cons_char {c : Char} {ts : List Token} (hq : ¬ isQuote c) (hc : c ≠ '/')
    (h : Solid ts) : Solid (.char c :: ts) :=
  (solid_char hq).append h fun hl => absurd (by simpa using hl) hc

lemma Solid.append_char {c : Char} {ts : List Token} (h : Solid ts) (hq : ¬ isQuote c)
    (hc : c ≠ '*') : Solid (ts ++ [.char c]) :=
  h.append (solid_char hq) fun _ => by simpa using hc

lemma Solid.of_isInfix {ts us : List Token} (h : Solid ts) (hu : us <:+: ts) : Solid us := by
  refine ⟨fun k hk => h.sealed k (hu.subset hk), ?_⟩
  obtain ⟨a, b, rfl⟩ := hu
  exact h.apart.left_of_append.right_of_append

lemma AllSealed.closed {ts : List Token} (h : AllSealed ts) : Closed ts :=
  fun k hk => (h k hk).not_unclosed

lemma Solid.closed {ts : List Token} (h : Solid ts) : Closed ts := AllSealed.closed h.sealed

lemma Solid.tokens_append {ts : List Token} (h : Solid ts) {r : Text}
    (hl : ts.getLast? = some (.char '/') → r.head? ≠ some '*') :
    tokens (spell ts ++ r) = ts ++ tokens r :=
  (tokenizes_spell h.sealed h.apart hl).tokens_eq

lemma Solid.tokens_spell {ts : List Token} (h : Solid ts) : tokens (spell ts) = ts := by
  simpa using h.tokens_append (r := []) (by simp)

lemma Decomposes.solid {css r : Text} {ps : List Piece} (h : Decomposes css ps r) :
    Solid (piecesTokens ps) := ⟨h.allSealed, Tokenizes.apart h⟩

lemma solid_tokens {t : Text} (h : AllSealed (tokens t)) : Solid (tokens t) := by
  obtain ⟨r, hr, -⟩ := tokenizes_of_tokens_eq (List.append_nil (tokens t)).symm
    (AllSealed.closed h)
  exact ⟨h, hr.apart⟩

/-! ### Comments taken out -/

lemma dropComments_append (ts us : List Token) :
    dropComments (ts ++ us) = dropComments ts ++ dropComments us := List.filter_append ..

lemma plain_dropComments (ts : List Token) : Plain (dropComments ts) := by
  intro k hk
  simpa using (List.mem_filter.mp hk).2

lemma Plain.dropComments_eq {ts : List Token} (h : Plain ts) : dropComments ts = ts :=
  List.filter_eq_self.mpr fun k hk => by simpa using h k hk

lemma allSealed_dropComments {ts : List Token} (h : AllSealed ts) :
    AllSealed (dropComments ts) := fun k hk => h k (List.mem_filter.mp hk).1

/-- A token other than a comment is read where comments mean nothing, whatever follows it. -/
lemma Token.Sealed.quoteTokens_append {k : Token} (h : k.Sealed) (hk : ¬ k.isComment) (t : Text) :
    quoteTokens (k.text ++ t) = k :: quoteTokens t := by
  cases h with
  | @string q b hq hb =>
    have hcut : q :: (b ++ [q]) ++ t = q :: (b ++ q :: t) := by simp
    rw [Token.text, hcut]
    exact scan_string false hq hb t
  | comment => exact absurd rfl hk
  | char hq => exact scan_char hq (by simp)

lemma quoteTokens_spell_append {ts : List Token} (hs : AllSealed ts) (hp : Plain ts) (t : Text) :
    quoteTokens (spell ts ++ t) = ts ++ quoteTokens t := by
  induction ts with
  | nil => rfl
  | cons k ts ih =>
    obtain ⟨hk, hs⟩ := allSealed_cons.mp hs
    obtain ⟨hpk, hp⟩ := List.forall_mem_cons.mp hp
    rw [spell_cons, List.append_assoc, hk.quoteTokens_append hpk, ih hs hp, List.cons_append]

lemma quoteTokens_spell {ts : List Token} (hs : AllSealed ts) (hp : Plain ts) :
    quoteTokens (spell ts) = ts := by
  have hread := quoteTokens_spell_append hs hp []
  rwa [List.append_nil, quoteTokens_nil, List.append_nil] at hread

/-- If no comment is read in what the tokens spell, none of them runs into the next. -/
lemma solid_of_commentFree {ts : List Token} (hs : AllSealed ts) (h : CommentFree (spell ts)) :
    Solid ts := by
  induction ts with
  | nil => exact solid_nil
  | cons k ts ih =>
    obtain ⟨hk, hs⟩ := allSealed_cons.mp hs
    have hstar : k = .char '/' → (spell ts).head? ≠ some '*' := by
      rintro rfl hr
      obtain ⟨r, hr⟩ := List.head?_eq_some_iff.mp hr
      rw [CommentFree, spell_cons, hr, Token.text, List.singleton_append, tokens_comment] at h
      exact h _ List.mem_cons_self rfl
    rw [CommentFree, spell_cons, (hk.lexes hstar).tokens_eq] at h
    have hk' : Solid [k] := ⟨allSealed_cons.mpr ⟨hk, allSealed_nil⟩, .singleton _⟩
    refine hk'.append (ih hs (List.forall_mem_cons.mp h).2) fun hl hh => ?_
    obtain ⟨us, rfl⟩ := List.head?_eq_some_iff.mp hh
    exact hstar (by simpa using hl) rfl

lemma Solid.commentFree {ts : List Token} (h : Solid ts) (hp : Plain ts) :
    CommentFree (spell ts) := by
  rwa [CommentFree, h.tokens_spell]

lemma CommentFree.not_isPrefix {t : Text} (h : CommentFree t) : ¬ commentMark <+: t := by
  rintro ⟨r, rfl⟩
  have hmark : tokens (commentMark ++ r) = _ :: _ := tokens_comment r
  rw [CommentFree, hmark] at h
  exact h _ List.mem_cons_self rfl

lemma plain_of_not_isInfix {ts : List Token} (hs : AllSealed ts) (h : ¬ commentMark <:+: spell ts) :
    Plain ts := fun k hk hc =>
  h ((commentMark_isPrefix_text (hs k hk) hc).isInfix.trans (text_isInfix hk))

lemma commentFree_of_not_isInfix {t : Text} (h : ¬ commentMark <:+: t) : CommentFree t := by
  unfold CommentFree tokens Plain
  fun_induction scan true t with
  | case1 => simp
  | case2 c r => simp [Token.isComment]
  | case3 c r _ r' hr ih =>
    have hs : r' <:+ c :: r := (afterString?_suffix hr).trans (List.suffix_cons c r)
    refine List.forall_mem_cons.mpr ⟨by simp [Token.isComment], ih fun hi => h ?_⟩
    exact hi.trans hs.isInfix
  | case4 c r _ hm ih =>
    rw [commentMark_infix_cons, not_or] at h
    exact absurd (by simpa using hm) h.1
  | case5 c r _ _ ih =>
    rw [commentMark_infix_cons, not_or] at h
    exact List.forall_mem_cons.mpr ⟨by simp [Token.isComment], ih h.2⟩

/-! ### Blanks taken off -/

lemma allBlank_spell {ts : List Token} (h : AllBlank ts) : Text.AllBlank (spell ts) := by
  intro x hx
  obtain ⟨k, hk, hxk⟩ := List.mem_flatMap.mp hx
  have hb := h k hk
  cases k with
  | char c =>
    obtain rfl : x = c := by simpa [Token.text] using hxk
    exact hb
  | _ => cases hb

lemma Void.allBlank_dropComments {ts : List Token} (h : Void ts) :
    AllBlank (dropComments ts) := by
  intro k hk
  have hv := h k (List.mem_filter.mp hk).1
  have hc := plain_dropComments ts k hk
  simpa [Token.isVoid, hc] using hv

lemma not_isBlank_of_isQuote {q : Char} (hq : isQuote q) : ¬ Text.isBlank q := by
  rcases isQuote_iff.mp hq with rfl | rfl <;> decide

lemma Token.Sealed.head_not_blank {k : Token} (h : k.Sealed) (hk : ¬ k.isBlank) :
    ∀ x ∈ k.text.head?, ¬ Text.isBlank x := by
  intro x hx
  cases h with
  | string hq _ =>
    obtain rfl : _ = x := by simpa [text] using hx
    exact not_isBlank_of_isQuote hq
  | comment _ =>
    obtain rfl : _ = x := by simpa [text] using hx
    decide
  | char _ =>
    obtain rfl : _ = x := by simpa [text] using hx
    exact hk

lemma Token.Sealed.last_not_blank {k : Token} (h : k.Sealed) (hk : ¬ k.isBlank) :
    ∀ x ∈ k.text.getLast?, ¬ Text.isBlank x := by
  intro x hx
  cases h with
  | string hq _ =>
    obtain rfl : _ = x := by simpa [text, List.getLast?_cons] using hx
    exact not_isBlank_of_isQuote hq
  | comment _ =>
    obtain rfl : _ = x := by simpa [text, List.getLast?_cons, endMark] using hx
    decide
  | char _ =>
    obtain rfl : _ = x := by simpa [text] using hx
    exact hk

/-- What the tokens spell is trimmed if neither the first nor the last is blank. -/
lemma trimmed_spell {ts : List Token} (hs : AllSealed ts) (hh : ∀ k ∈ ts.head?, ¬ k.isBlank)
    (hl : ∀ k ∈ ts.getLast?, ¬ k.isBlank) : Text.Trimmed (spell ts) := by
  constructor
  · cases ts with
    | nil => simp
    | cons k ts =>
      have hk := (allSealed_cons.mp hs).1
      rw [spell_cons, List.head?_append_of_ne_nil _ hk.text_ne_nil]
      exact hk.head_not_blank (hh k rfl)
  · rcases List.eq_nil_or_concat ts with rfl | ⟨us, k, rfl⟩
    · simp
    · rw [List.concat_eq_append] at hs hl ⊢
      have hk := (allSealed_cons.mp (allSealed_append.mp hs).2).1
      rw [spell_append, spell_cons, spell_nil, List.append_nil,
        List.getLast?_append_of_ne_nil _ hk.text_ne_nil]
      exact hk.last_not_blank (hl k (by simp))

lemma exists_strip_spell {ts : List Token} (hs : AllSealed ts) :
    ∃ a m b, ts = a ++ (m ++ b) ∧ AllBlank a ∧ AllBlank b ∧ (spell ts).strip = spell m ∧
      Text.Trimmed (spell m) := by
  obtain ⟨a, m, b, rfl, ha, hb, hh, hl⟩ := Text.exists_trim Token.isBlank ts
  have hm : Text.Trimmed (spell m) :=
    trimmed_spell (allSealed_append.mp (allSealed_append.mp hs).2).1 hh hl
  refine ⟨a, m, b, rfl, ha, hb, ?_, hm⟩
  rw [spell_append, spell_append, Text.strip_blank_append (allBlank_spell ha),
    Text.strip_append_blank (allBlank_spell hb), Text.strip_of_trimmed hm]

/-! ### Semicolons and parentheses -/

/-- The tokens without comments and blanks. -/
def essence (ts : List Token) : List Token := ts.filter fun k => !k.isVoid

lemma essence_append (ts us : List Token) : essence (ts ++ us) = essence ts ++ essence us :=
  List.filter_append ..

lemma Void.essence_eq {ts : List Token} (h : Void ts) : essence ts = [] :=
  List.filter_eq_nil_iff.mpr fun k hk => by simp [h k hk]

lemma AllBlank.void {ts : List Token} (h : AllBlank ts) : Void ts :=
  fun k hk => by simp [Token.isVoid, h k hk]

lemma essence_dropComments (ts : List Token) : essence (dropComments ts) = essence ts := by
  rw [essence, dropComments, List.filter_filter, essence]
  refine List.filter_congr fun k _ => ?_
  cases hk : k.isComment <;> simp [Token.isVoid, hk]

lemma parensAfterToken_of_isVoid {k : Token} (hk : k.isVoid) (n : Nat) :
    parensAfterToken n k = n ∧ k ≠ .char ';' := by
  cases k with
  | char c =>
    have hb : Text.isBlank c := hk
    have hne {d : Char} (hd : ¬ Text.isBlank d) : c ≠ d := fun h => hd (h ▸ hb)
    simp [parensAfterToken, parensAfter, hne (d := '(') (by decide), hne (d := ')') (by decide),
      hne (d := ';') (by decide)]
  | _ => simp [parensAfterToken]

lemma parensAfterTokens_essence (n : Nat) (ts : List Token) :
    parensAfterTokens n (essence ts) = parensAfterTokens n ts := by
  induction ts generalizing n with
  | nil => rfl
  | cons k ts ih =>
    rw [essence, List.filter_cons]
    split
    · exact ih _
    · rename_i hk
      rw [parensAfterTokens_cons, (parensAfterToken_of_isVoid (by simpa using hk) n).1]
      exact ih n

lemma semicolonFree_essence {n : Nat} {ts : List Token} :
    SemicolonFree n (essence ts) ↔ SemicolonFree n ts := by
  induction ts generalizing n with
  | nil => rfl
  | cons k ts ih =>
    rw [essence, List.filter_cons, semicolonFree_cons]
    split
    · rw [semicolonFree_cons, ← essence, ih]
    · rename_i hk
      have hv := parensAfterToken_of_isVoid (by simpa using hk) n
      rw [← essence, ih, hv.1]
      exact ⟨fun h => ⟨fun hs => absurd hs hv.2, h⟩, And.right⟩

lemma balanced_essence {d : Nat} {ts : List Token} : Balanced d (essence ts) ↔ Balanced d ts :=
  balanced_filter (by decide) (by decide)

lemma mem_essence {k : Token} (hk : ¬ k.isVoid) {ts : List Token} : k ∈ essence ts ↔ k ∈ ts := by
  simp [essence, hk]

/-- No semicolon of the tokens stands outside parentheses, and all parentheses close. -/
def Whole (n : Nat) (ts : List Token) : Prop := SemicolonFree n ts ∧ parensAfterTokens n ts = 0

instance (n : Nat) (ts : List Token) : Decidable (Whole n ts) := inferInstanceAs (Decidable (_ ∧ _))

lemma whole_essence {n : Nat} {ts : List Token} : Whole n (essence ts) ↔ Whole n ts := by
  rw [Whole, Whole, semicolonFree_essence, parensAfterTokens_essence]

/-- The tokens up to the first semicolon outside parentheses are whole. -/
lemma exists_whole {n : Nat} {ts : List Token} (h : ¬ SemicolonFree n ts) :
    ∃ s r, ts = s ++ .char ';' :: r ∧ Whole n s := by
  induction ts generalizing n with
  | nil => exact absurd (semicolonFree_nil n) h
  | cons k ts ih =>
    by_cases hk : k = .char ';' ∧ n = 0
    · obtain ⟨rfl, rfl⟩ := hk
      exact ⟨[], ts, rfl, semicolonFree_nil 0, rfl⟩
    · have hsc : k = .char ';' → n ≠ 0 := fun hs hn => hk ⟨hs, hn⟩
      rw [semicolonFree_cons, not_and] at h
      obtain ⟨s, r, rfl, hw⟩ := ih (h hsc)
      exact ⟨k :: s, r, rfl, semicolonFree_cons.mpr ⟨hsc, hw.1⟩, hw.2⟩

/-! ### Stripped without comments -/

/-- The tokens `m` are what is left of `ts` without the comments and without blanks at the ends. -/
structure Leaves (ts m : List Token) : Prop where
  text : (spell (dropComments ts)).strip = spell m
  part : m <:+: dropComments ts
  trimmed : Text.Trimmed (spell m)
  sealed : AllSealed m
  plain : Plain m
  reread : quoteTokens (spell m) = m
  essence : essence m = essence ts

lemma exists_leaves_cut {ts : List Token} (hs : AllSealed ts) : ∃ a m b,
    dropComments ts = a ++ (m ++ b) ∧ AllBlank a ∧ AllBlank b ∧ Leaves ts m := by
  obtain ⟨a, m, b, hcut, ha, hb, hstrip, htrim⟩ := exists_strip_spell (allSealed_dropComments hs)
  have hm : m <:+: dropComments ts := ⟨a, b, by rw [hcut, List.append_assoc]⟩
  have hsm : AllSealed m := fun k hk => allSealed_dropComments hs k (hm.subset hk)
  have hpm : Plain m := fun k hk => plain_dropComments ts k (hm.subset hk)
  refine ⟨a, m, b, hcut, ha, hb, hstrip, hm, htrim, hsm, hpm, quoteTokens_spell hsm hpm, ?_⟩
  rw [← essence_dropComments ts, hcut, essence_append, essence_append, ha.void.essence_eq,
    hb.void.essence_eq, List.nil_append, List.append_nil]

lemma exists_leaves {ts : List Token} (hs : AllSealed ts) : ∃ m, Leaves ts m := by
  obtain ⟨-, m, -, -, -, -, hm⟩ := exists_leaves_cut hs
  exact ⟨m, hm⟩

lemma Leaves.strip_eq {ts m : List Token} (h : Leaves ts m) (hp : Plain ts) :
    (spell ts).strip = spell m := by
  rw [← h.text, hp.dropComments_eq]

lemma Leaves.subset {ts m : List Token} (h : Leaves ts m) : m ⊆ ts :=
  fun _ hk => (List.mem_filter.mp (h.part.subset hk)).1

end ClassPurge.Css
