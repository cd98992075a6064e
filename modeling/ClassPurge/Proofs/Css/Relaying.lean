import ClassPurge.Css.Rule
import ClassPurge.Proofs.Css.Respelling
import ClassPurge.Proofs.Text.Parts

/-!
Declarations laid out one a line. Each is written with a semicolon of its own, so they are split
again where they were split before, provided that each closes the parentheses that it opens.
-/

namespace ClassPurge.Css

/-! ### Splitting at semicolons -/

lemma piecesAt_semicolon (ts : List Token) :
    piecesAt 0 (.char ';' :: ts) = [] :: piecesAt 0 ts := by
  rw [piecesAt, if_pos ⟨rfl, rfl⟩]

lemma piecesAt_cons {n : Nat} {k : Token} {ts p : List Token} {ps : List (List Token)}
    (hk : ¬ (k = .char ';' ∧ n = 0)) (h : piecesAt (parensAfterToken n k) ts = p :: ps) :
    piecesAt n (k :: ts) = (k :: p) :: ps := by
  rw [piecesAt, if_neg hk, h]

/-- **The declarations split at a semicolon.** -/
lemma piecesAt_append {n : Nat} {p : List Token} (h : Whole n p) (ts : List Token) :
    piecesAt n (p ++ .char ';' :: ts) = p :: piecesAt 0 ts := by
  induction p generalizing n with
  | nil =>
    obtain rfl : n = 0 := h.2
    exact piecesAt_semicolon ts
  | cons k p ih =>
    obtain ⟨hk, hp⟩ := semicolonFree_cons.mp h.1
    exact piecesAt_cons (fun hn => hk hn.1 hn.2) (ih ⟨hp, h.2⟩)

lemma piecesAt_whole {n : Nat} {ts : List Token} (h : parensAfterTokens n ts = 0) :
    ∃ p ps, piecesAt n ts = p :: ps ∧ Whole n p ∧ ∀ q ∈ ps, Whole 0 q := by
  induction ts generalizing n with
  | nil => exact ⟨[], [], rfl, ⟨semicolonFree_nil n, h⟩, by simp⟩
  | cons k ts ih =>
    obtain ⟨p, ps, hps, hp, hq⟩ := ih h
    by_cases hk : k = .char ';' ∧ n = 0
    · obtain ⟨rfl, rfl⟩ := hk
      refine ⟨[], p :: ps, by rw [piecesAt_semicolon, ← hps]; rfl, ⟨semicolonFree_nil 0, rfl⟩, ?_⟩
      exact List.forall_mem_cons.mpr ⟨hp, hq⟩
    · refine ⟨k :: p, ps, piecesAt_cons hk hps, ⟨semicolonFree_cons.mpr ⟨?_, hp.1⟩, hp.2⟩, hq⟩
      exact fun hs hn => hk ⟨hs, hn⟩

lemma infix_of_mem_piecesAt {n : Nat} {ts q : List Token} (h : q ∈ piecesAt n ts) : q <:+: ts := by
  suffices hpre : ∃ p ps, piecesAt n ts = p :: ps ∧ p <+: ts ∧ ∀ q ∈ ps, q <:+: ts by
    obtain ⟨p, ps, hps, hp, hq⟩ := hpre
    rw [hps] at h
    rcases List.mem_cons.mp h with rfl | h
    · exact hp.isInfix
    · exact hq q h
  clear h
  induction ts generalizing n with
  | nil => exact ⟨[], [], rfl, List.prefix_refl _, by simp⟩
  | cons k ts ih =>
    have hcons {q : List Token} (hq : q <:+: ts) : q <:+: k :: ts :=
      hq.trans (List.suffix_cons k ts).isInfix
    by_cases hk : k = .char ';' ∧ n = 0
    · obtain ⟨rfl, rfl⟩ := hk
      obtain ⟨p, ps, hps, hp, hq⟩ := @ih 0
      refine ⟨[], p :: ps, by rw [piecesAt_semicolon, hps], List.nil_prefix, ?_⟩
      exact List.forall_mem_cons.mpr ⟨hcons hp.isInfix, fun q h => hcons (hq q h)⟩
    · obtain ⟨p, ps, hps, hp, hq⟩ := @ih (parensAfterToken n k)
      exact ⟨k :: p, ps, piecesAt_cons hk hps, (List.prefix_cons_inj k).mpr hp,
        fun q h => hcons (hq q h)⟩

/-- The pieces, with the semicolons put back, are what was cut. -/
lemma join_piecesAt (n : Nat) (ts : List Token) :
    Text.join [';'] ((piecesAt n ts).map spell) = spell ts := by
  suffices hcut : ∃ p ps, piecesAt n ts = p :: ps ∧
      Text.join [';'] ((p :: ps).map spell) = spell ts by
    obtain ⟨p, ps, hps, hjoin⟩ := hcut
    rw [hps, hjoin]
  induction ts generalizing n with
  | nil => exact ⟨[], [], rfl, rfl⟩
  | cons k ts ih =>
    by_cases hk : k = .char ';' ∧ n = 0
    · obtain ⟨rfl, rfl⟩ := hk
      obtain ⟨p, ps, hps, hjoin⟩ := ih 0
      refine ⟨[], p :: ps, by rw [piecesAt_semicolon, hps], ?_⟩
      rw [spell_cons, ← hjoin]
      rfl
    · obtain ⟨p, ps, hps, hjoin⟩ := ih (parensAfterToken n k)
      refine ⟨k :: p, ps, piecesAt_cons hk hps, ?_⟩
      rw [List.map_cons, Text.join_cons] at hjoin ⊢
      rw [spell_cons, spell_cons, List.append_assoc, hjoin]

/-! ### A body and its declarations -/

/-- A declaration of the body that `ts` spell: some of these tokens, stripped. -/
structure IsDeclaration (ts : List Token) (d : Text) : Prop where
  part : quoteTokens d <:+: ts
  trimmed : Text.Trimmed d
  ne_nil : d ≠ []

lemma mem_splitDeclarations {ts : List Token} (hs : AllSealed ts) (hp : Plain ts) {d : Text}
    (h : d ∈ splitDeclarations (spell ts)) :
    ∃ p ∈ piecesAt 0 ts, IsDeclaration ts d ∧ essence (quoteTokens d) = essence p := by
  rw [splitDeclarations, quoteTokens_spell hs hp, List.mem_filter, List.mem_map] at h
  obtain ⟨⟨p, hmem, rfl⟩, hne⟩ := h
  have hpart := infix_of_mem_piecesAt hmem
  have hplain : Plain p := fun k hk => hp k (hpart.subset hk)
  obtain ⟨m, hm⟩ := exists_leaves fun k hk => hs k (hpart.subset hk)
  have hin : m <:+: ts := by
    have hinside := hm.part
    rw [hplain.dropComments_eq] at hinside
    exact hinside.trans hpart
  rw [hm.strip_eq hplain] at hne ⊢
  refine ⟨p, hmem, ⟨hm.reread.symm ▸ hin, hm.trimmed, by simpa using hne⟩, ?_⟩
  rw [hm.reread, hm.essence]

lemma whole_of_mem_splitDeclarations {ts : List Token} (hs : AllSealed ts) (hp : Plain ts)
    (hn : parensAfterTokens 0 ts = 0) {d : Text} (h : d ∈ splitDeclarations (spell ts)) :
    Whole 0 (quoteTokens d) := by
  obtain ⟨p, hmem, -, hess⟩ := mem_splitDeclarations hs hp h
  obtain ⟨q, qs, hqs, hq, hall⟩ := piecesAt_whole hn
  rw [← whole_essence, hess, whole_essence]
  rw [hqs] at hmem
  rcases List.mem_cons.mp hmem with rfl | hmem
  · exact hq
  · exact hall p hmem

/-! ### Lines -/

/-- A line for a declaration, behind the end of the line before. -/
def lineTokens (d : Text) : List Token :=
  .char '\n' :: .char ' ' :: .char ' ' :: (quoteTokens d ++ [.char ';'])

/-- The declarations of a body, one a line, with the end of the last line. -/
def bodyTokens (ds : List Text) : List Token :=
  if ds = [] then [] else ds.flatMap lineTokens ++ [.char '\n']

lemma spell_lineTokens (d : Text) : spell (lineTokens d) = '\n' :: ' ' :: ' ' :: (d ++ [';']) := by
  simp [lineTokens, Token.text]

section

variable {P : Token → Prop} {ds : List Text} (hn : P (.char '\n')) (hb : P (.char ' '))
  (hs : P (.char ';')) (h : ∀ d ∈ ds, ∀ k ∈ quoteTokens d, P k)

include hn hb hs h

lemma forall_mem_lines : ∀ k ∈ ds.flatMap lineTokens, P k := by
  intro k hk
  obtain ⟨d, hd, hk⟩ := List.mem_flatMap.mp hk
  simp only [lineTokens, List.mem_cons, List.mem_append, List.not_mem_nil, or_false] at hk
  rcases hk with rfl | rfl | rfl | hk | rfl
  · exact hn
  · exact hb
  · exact hb
  · exact h d hd k hk
  · exact hs

lemma forall_mem_bodyTokens : ∀ k ∈ bodyTokens ds, P k := by
  intro k hk
  rw [bodyTokens] at hk
  split at hk
  · cases hk
  · rcases List.mem_append.mp hk with hk | hk
    · exact forall_mem_lines hn hb hs h k hk
    · rw [List.mem_singleton.mp hk]
      exact hn

end

lemma flatMap_lines (ds : List Text) :
    (ds.map fun d => ' ' :: ' ' :: d ++ [';']).flatMap (['\n'] ++ ·) =
      spell (ds.flatMap lineTokens) := by
  induction ds with
  | nil => rfl
  | cons d ds ih =>
    rw [List.map_cons, List.flatMap_cons, ih, List.flatMap_cons, spell_append, spell_lineTokens]
    rfl

/-- A flat rule as it is written: the selector, and the body with each declaration on its line. -/
lemma layOut_flat (selector body source : Text) : layOut selector body false source =
    selector ++ ' ' :: '{' :: (spell (bodyTokens (splitDeclarations body)) ++ ['}']) := by
  rw [layOut, if_neg (by decide), bodyTokens]
  cases splitDeclarations body with
  | nil => simp
  | cons d ds =>
    simp only [List.map_cons, Text.join_cons, flatMap_lines, reduceCtorEq, if_false,
      List.flatMap_cons, spell_append, spell_lineTokens]
    simp [Token.text]

/-! ### The lines read again -/

/-- What makes a text a declaration that is read again as it was. -/
structure Rereadable (d : Text) : Prop where
  solid : Solid (quoteTokens d)
  plain : Plain (quoteTokens d)
  trimmed : Text.Trimmed d
  ne_nil : d ≠ []

lemma getLast?_lineTokens (d : Text) : (lineTokens d).getLast? = some (.char ';') := by
  simp [lineTokens, List.getLast?_cons]

lemma solid_lineTokens {d : Text} (h : Solid (quoteTokens d)) : Solid (lineTokens d) :=
  (((h.append_char (by decide) (by decide)).cons_char (by decide) (by decide)).cons_char
    (by decide) (by decide)).cons_char (by decide) (by decide)

lemma solid_lines {ds : List Text} (h : ∀ d ∈ ds, Solid (quoteTokens d)) :
    Solid (ds.flatMap lineTokens) := by
  induction ds with
  | nil => exact solid_nil
  | cons d ds ih =>
    obtain ⟨hd, hds⟩ := List.forall_mem_cons.mp h
    rw [List.flatMap_cons]
    refine (solid_lineTokens hd).append (ih hds) fun hl => ?_
    rw [getLast?_lineTokens] at hl
    exact absurd hl (by simp)

lemma solid_bodyTokens {ds : List Text} (h : ∀ d ∈ ds, Solid (quoteTokens d)) :
    Solid (bodyTokens ds) := by
  rw [bodyTokens]
  split
  · exact solid_nil
  · exact (solid_lines h).append_char (by decide) (by decide)

lemma declarations_lines {ds : List Text}
    (h : ∀ d ∈ ds, Rereadable d ∧ Whole 0 (quoteTokens d)) :
    ((piecesAt 0 (ds.flatMap lineTokens)).map fun p => (spell p).strip).filter
      (fun d => !d.isEmpty) = ds := by
  induction ds with
  | nil => rfl
  | cons d ds ih =>
    obtain ⟨⟨hd, hw⟩, hds⟩ := List.forall_mem_cons.mp h
    let lead : List Token := [.char '\n', .char ' ', .char ' ']
    have hlead : AllBlank lead := by decide
    have hwhole : Whole 0 (lead ++ quoteTokens d) := by
      rw [← whole_essence, essence_append, hlead.void.essence_eq, List.nil_append, whole_essence]
      exact hw
    have hline : lineTokens d ++ ds.flatMap lineTokens =
        (lead ++ quoteTokens d) ++ .char ';' :: ds.flatMap lineTokens := by
      simp [lineTokens, lead]
    have hstrip : (spell (lead ++ quoteTokens d)).strip = d := by
      rw [spell_append, Text.strip_blank_append (allBlank_spell hlead), spell_quoteTokens,
        Text.strip_of_trimmed hd.trimmed]
    rw [List.flatMap_cons, hline, piecesAt_append hwhole, List.map_cons, hstrip,
      List.filter_cons_of_pos (by simpa using hd.ne_nil), ih hds]

lemma getLast?_lines (ds : List Text) :
    (';' :: spell (ds.flatMap lineTokens)).getLast? = some ';' := by
  rcases List.eq_nil_or_concat ds with rfl | ⟨es, e, rfl⟩
  · rfl
  · simp [spell_lineTokens, List.getLast?_cons]

/-- **Declarations on lines of their own are split again as they were.** -/
lemma splitDeclarations_bodyTokens {ds : List Text}
    (h : ∀ d ∈ ds, Rereadable d ∧ Whole 0 (quoteTokens d)) :
    splitDeclarations (spell (bodyTokens ds)).strip = ds := by
  cases ds with
  | nil => simp [bodyTokens, splitDeclarations, quoteTokens, piecesAt]
  | cons d ds =>
    obtain ⟨⟨hd, hw⟩, hds⟩ := List.forall_mem_cons.mp h
    let m := quoteTokens d ++ .char ';' :: ds.flatMap lineTokens
    have hm : spell m = d ++ ';' :: spell (ds.flatMap lineTokens) := by
      simp [m, Token.text]
    have hbody : spell (bodyTokens (d :: ds)) = ['\n', ' ', ' '] ++ (spell m ++ ['\n']) := by
      rw [bodyTokens, if_neg (by simp), hm]
      simp [spell_lineTokens, Token.text]
    have htrim : Text.Trimmed (spell m) := by
      rw [hm]
      constructor
      · rw [List.head?_append_of_ne_nil _ hd.ne_nil]
        exact hd.trimmed.1
      · rw [List.getLast?_append_of_ne_nil _ (by simp), getLast?_lines]
        rintro x hx
        obtain rfl : ';' = x := by simpa using hx
        decide
    have hlead : Text.AllBlank ['\n', ' ', ' '] := by decide
    have hlast : Text.AllBlank ['\n'] := by decide
    have hseal : AllSealed m := by
      refine allSealed_append.mpr ⟨hd.solid.sealed, allSealed_cons.mpr ⟨.char (by decide), ?_⟩⟩
      exact (solid_lines fun e he => (hds e he).1.solid).sealed
    have hplain : Plain m := by
      refine List.forall_mem_append.mpr ⟨hd.plain, List.forall_mem_cons.mpr ⟨by decide, ?_⟩⟩
      exact forall_mem_lines (by decide) (by decide) (by decide) fun e he => (hds e he).1.plain
    rw [hbody, Text.strip_blank_append hlead, Text.strip_append_blank hlast,
      Text.strip_of_trimmed htrim, splitDeclarations, quoteTokens_spell hseal hplain,
      piecesAt_append hw, List.map_cons, spell_quoteTokens, Text.strip_of_trimmed hd.trimmed,
      List.filter_cons_of_pos (by simpa using hd.ne_nil), declarations_lines hds]

end ClassPurge.Css
