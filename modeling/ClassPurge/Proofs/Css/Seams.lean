import ClassPurge.Proofs.Css.Respelling

/-!
Text with its comments taken out. No other token of it is lost, and its closed strings come in their
order, as they were written. But a slash and a star that only comments kept apart come together as
the mark of a new comment. Then, and only then, taking comments out once more takes something out.
-/

namespace ClassPurge.Css

/-- The closed string that the token is. -/
def Token.string? : Token → Option Text
  | .string t => some t
  | _ => none

/-- The closed strings among the tokens, as they are written. -/
def closedStrings (ts : List Token) : List Text := ts.filterMap Token.string?

lemma closedStrings_dropComments (ts : List Token) :
    closedStrings (dropComments ts) = closedStrings ts := by
  rw [closedStrings, dropComments, List.filterMap_filter]
  refine List.filterMap_congr fun k _ => ?_
  cases k <;> rfl

/-! ### The tokens that are left -/

lemma dropComments_cons {k : Token} (h : ¬ k.isComment) (ts : List Token) :
    dropComments (k :: ts) = k :: dropComments ts :=
  List.filter_cons_of_pos (by simpa using h)

lemma dropComments_comment (c : Text) (ts : List Token) :
    dropComments (.comment c :: ts) = dropComments ts := rfl

/-- A token that is no comment is read where comments mean nothing, whatever follows it. -/
lemma Lexes.quoteTokens_append {t r : Text} {k : Token} (h : Lexes t k r) (hk : ¬ k.isComment)
    (s : Text) : quoteTokens (k.text ++ s) = k :: quoteTokens s := by
  have hsealed : k.Sealed := by
    cases h with
    | string hq hb => exact .string hq hb
    | comment => exact absurd rfl hk
    | openComment => exact absurd rfl hk
    | char hq _ => exact .char hq
  exact hsealed.quoteTokens_append hk s

/-- **What is left are the tokens other than comments.** -/
lemma quoteTokens_stripComments (t : Text) :
    quoteTokens (stripComments t) = dropComments (tokens t) := by
  rw [stripComments]
  induction t using lexes_induction with
  | nil => rw [tokens_nil]; exact scan_nil false
  | unclosed q r hq h =>
    have hspell : spell (dropComments [.unclosed (q :: r)]) = q :: r := by
      simp [dropComments, Token.isComment, Token.text]
    rw [tokens, scan_unclosed true hq h, hspell]
    exact scan_unclosed false hq h
  | token t k r h ih =>
    rw [h.tokens_eq]
    by_cases hk : k.isComment
    · obtain ⟨c, rfl⟩ : ∃ c, k = .comment c := by cases k <;> simp_all [Token.isComment]
      rw [dropComments_comment, ih]
    · rw [dropComments_cons hk, spell_cons, h.quoteTokens_append hk, ih]

/-! ### Text without comments -/

lemma head?_quoteTokens {t : Text} {c : Char} (h : (quoteTokens t).head? = some (.char c)) :
    t.head? = some c := by
  obtain ⟨ts, hts⟩ := List.head?_eq_some_iff.mp h
  rw [← spell_quoteTokens t, hts]
  rfl

lemma quoteTokens_commentMark (r : Text) :
    quoteTokens ('/' :: '*' :: r) = .char '/' :: .char '*' :: quoteTokens r := by
  rw [quoteTokens, scan_char (by decide) (by simp), scan_char (by decide) (by simp)]
  rfl

lemma not_apart_commentMark (ts : List Token) : ¬ Apart (.char '/' :: .char '*' :: ts) :=
  fun h => (List.isChain_cons_cons.mp h).1 rfl rfl

/-- **A text has no comment exactly if no slash of it stands before a star**, strings apart. -/
lemma commentFree_iff_apart (t : Text) : CommentFree t ↔ Apart (quoteTokens t) := by
  induction t using lexes_induction with
  | nil => exact iff_of_true (by simp [CommentFree, Plain]) (by rw [quoteTokens, scan_nil]; exact .nil)
  | unclosed q r hq h =>
    rw [CommentFree, tokens, scan_unclosed true hq h, quoteTokens, scan_unclosed false hq h]
    exact iff_of_true (by simp [Plain, Token.isComment]) (.singleton _)
  | token t k r h ih =>
    by_cases hk : k.isComment
    · -- the marks of a comment are characters where comments mean nothing
      refine iff_of_false (fun hfree => ?_) ?_
      · rw [CommentFree, h.tokens_eq] at hfree
        exact hfree k List.mem_cons_self hk
      · cases h with
        | string => cases hk
        | char => cases hk
        | comment => rw [quoteTokens_commentMark]; exact not_apart_commentMark _
        | openComment => rw [quoteTokens_commentMark]; exact not_apart_commentMark _
    · have hstar : ∀ j ∈ (quoteTokens r).head?, k = .char '/' → j ≠ .char '*' := by
        rintro j hj rfl rfl
        obtain _ | _ | _ | ⟨_, hc⟩ := h
        exact hc rfl (head?_quoteTokens hj)
      rw [CommentFree, h.tokens_eq, Plain, List.forall_mem_cons, and_iff_right hk, h.text_append,
        h.quoteTokens_append hk, Apart, List.isChain_cons, and_iff_right hstar]
      exact ih

lemma CommentFree.stripComments_eq {t : Text} (h : CommentFree t) : stripComments t = t := by
  rw [stripComments, Plain.dropComments_eq h, spell_tokens]

lemma CommentFree.tokens_eq {t : Text} (h : CommentFree t) : tokens t = quoteTokens t := by
  conv_rhs => rw [← h.stripComments_eq]
  rw [quoteTokens_stripComments, Plain.dropComments_eq h]

lemma text_ne_nil_of_mem_tokens {t : Text} {k : Token} (h : k ∈ tokens t) : k.text ≠ [] := by
  induction t using lexes_induction with
  | nil => simp at h
  | unclosed q r hq hr =>
    rw [tokens, scan_unclosed true hq hr, List.mem_singleton] at h
    simp [h, Token.text]
  | token t j r hj ih =>
    rw [hj.tokens_eq] at h
    rcases List.mem_cons.mp h with rfl | h
    · exact hj.text_ne_nil
    · exact ih h

lemma length_dropComments (ts : List Token) :
    (spell (dropComments ts)).length + (spell (ts.filter Token.isComment)).length =
      (spell ts).length := by
  induction ts with
  | nil => rfl
  | cons k ts ih =>
    cases hk : k.isComment <;>
      simp only [dropComments, List.filter_cons, hk, Bool.not_false, Bool.not_true, if_true,
        Bool.false_eq_true, if_false, spell_cons, List.length_append] at ih ⊢ <;>
      omega

lemma commentFree_of_stripComments_eq {t : Text} (h : stripComments t = t) : CommentFree t := by
  intro k hk hc
  have hlength := length_dropComments (tokens t)
  rw [← stripComments, h, spell_tokens] at hlength
  have hnil : spell ((tokens t).filter Token.isComment) = [] :=
    List.eq_nil_of_length_eq_zero (by omega)
  have hpart := text_isInfix (List.mem_filter.mpr ⟨hk, hc⟩)
  rw [hnil, List.infix_nil] at hpart
  exact text_ne_nil_of_mem_tokens hk hpart

/-! ### Stripped -/

lemma AllBlank.apart {ts : List Token} (h : AllBlank ts) : Apart ts := by
  refine List.Pairwise.isChain (List.pairwise_of_forall_mem_list fun j hj k _ hslash => ?_)
  subst hslash
  exact absurd (h _ hj) (by decide)

lemma apart_padded {a m c : List Token} (ha : AllBlank a) (hc : AllBlank c) :
    Apart (a ++ (m ++ c)) ↔ Apart m := by
  refine ⟨fun h => h.right_of_append.left_of_append, fun h => ?_⟩
  refine List.isChain_append.mpr ⟨ha.apart, List.isChain_append.mpr ⟨h, hc.apart, ?_⟩, ?_⟩
  · rintro j - k hk - rfl
    exact absurd (hc _ (List.mem_of_head? hk)) (by decide)
  · rintro j hj k - rfl
    exact absurd (ha _ (List.mem_of_getLast? hj)) (by decide)

lemma commentFree_strip_iff {t : Text} (hs : AllSealed (tokens t)) :
    CommentFree (stripComments t).strip ↔ Apart (dropComments (tokens t)) := by
  obtain ⟨a, m, c, hcut, ha, hc, hm⟩ := exists_leaves_cut hs
  rw [stripComments, hm.text, hcut, apart_padded ha hc, commentFree_iff_apart, hm.reread]

/-! ### Taken out twice -/

/-- **Taking comments out leaves the other tokens, and no comment, exactly if no slash comes to
stand before a star.** The strings are left in any case. -/
theorem stripComments_twice_iff (t : Text) :
    (stripComments (stripComments t) = stripComments t ↔ Apart (dropComments (tokens t))) ∧
      (CommentFree (stripComments t) ↔ Apart (dropComments (tokens t))) ∧
      quoteTokens (stripComments t) = dropComments (tokens t) ∧
      closedStrings (quoteTokens (stripComments t)) = closedStrings (tokens t) := by
  have hquote := quoteTokens_stripComments t
  have hfree : CommentFree (stripComments t) ↔ Apart (dropComments (tokens t)) := by
    rw [commentFree_iff_apart, hquote]
  refine ⟨Iff.trans ⟨commentFree_of_stripComments_eq, CommentFree.stripComments_eq⟩ hfree, hfree,
    hquote, ?_⟩
  rw [hquote, closedStrings_dropComments]

/-- **A comment may be left**: a slash and a star stand on both sides of the comment in `//**/*`. -/
theorem stripComments_leaves_comment :
    let t : Text := ['/', '/', '*', '*', '/', '*']
    stripComments t = ['/', '*'] ∧ ¬ CommentFree (stripComments t) ∧
      stripComments (stripComments t) = [] := by
  decide +kernel

end ClassPurge.Css
