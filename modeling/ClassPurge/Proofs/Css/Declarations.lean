import ClassPurge.Proofs.Css.Branches
import ClassPurge.Proofs.Css.Relaying

/-!
Declarations joined and split again. Behind a text that leaves no string and no parenthesis open,
and the semicolon that follows it, splitting starts afresh. So declarations that leave nothing open
come back from any text that has them between semicolons. And those that splitting finds in a text
come back whatever the text is: only the last of them can leave something open.
-/

namespace ClassPurge.Css

/-- The text leaves no string and no parenthesis open. -/
structure Complete (t : Text) : Prop where
  closed : Closed (quoteTokens t)
  parens : parensAfterTokens 0 (quoteTokens t) = 0

/-- A declaration that can stand among others. -/
structure Standalone (d : Text) : Prop where
  ne_nil : d ≠ []
  trimmed : Text.Trimmed d
  complete : Complete d
  semicolonFree : SemicolonFree 0 (quoteTokens d)

instance (t : Text) : Decidable (Complete t) :=
  decidable_of_iff (Closed (quoteTokens t) ∧ parensAfterTokens 0 (quoteTokens t) = 0)
    ⟨fun ⟨hc, hp⟩ => ⟨hc, hp⟩, fun h => ⟨h.closed, h.parens⟩⟩

instance (d : Text) : Decidable (Standalone d) :=
  decidable_of_iff (d ≠ [] ∧ Text.Trimmed d ∧ Complete d ∧ SemicolonFree 0 (quoteTokens d))
    ⟨fun ⟨hn, ht, hc, hs⟩ => ⟨hn, ht, hc, hs⟩,
      fun h => ⟨h.ne_nil, h.trimmed, h.complete, h.semicolonFree⟩⟩

/-- `Padded ds ps`: the texts `ps` are the declarations `ds` in their order, with blanks on both
sides of each, and texts of blanks among them. -/
inductive Padded : List Text → List Text → Prop
  | nil : Padded [] []
  | blank {ds ps : List Text} {p : Text} (hp : Text.AllBlank p) (h : Padded ds ps) :
      Padded ds (p :: ps)
  | declaration {ds ps : List Text} {a d b : Text} (ha : Text.AllBlank a) (hb : Text.AllBlank b)
      (h : Padded ds ps) : Padded (d :: ds) ((a ++ (d ++ b)) :: ps)

/-! ### Texts one behind the other -/

/-- All tokens are sealed, but for a string at the end that does not close. -/
lemma exists_sealed (t : Text) : ∃ ts us, quoteTokens t = ts ++ us ∧ AllSealed ts ∧ Plain ts ∧
    ∀ k ∈ us, k.IsUnclosed := by
  have hquoted := quoted_quoteTokens t
  generalize quoteTokens t = ks at hquoted
  induction hquoted with
  | nil => exact ⟨[], [], rfl, allSealed_nil, by simp [Plain], by simp⟩
  | unclosed u =>
    exact ⟨[], [.unclosed u], rfl, allSealed_nil, by simp [Plain], by simp [Token.IsUnclosed]⟩
  | @cons k ks hs hp _ ih =>
    obtain ⟨ts, us, rfl, hts, hplain, hus⟩ := ih
    exact ⟨k :: ts, us, rfl, allSealed_cons.mpr ⟨hs, hts⟩, List.forall_mem_cons.mpr ⟨hp, hplain⟩,
      hus⟩

/-- What another token follows is sealed. -/
lemma Quoted.sealed_left {ts us : List Token} {k : Token} (h : Quoted (ts ++ k :: us)) :
    AllSealed ts ∧ Plain ts := by
  induction ts with
  | nil => exact ⟨allSealed_nil, by simp [Plain]⟩
  | cons j ts ih =>
    obtain ⟨hs, hp⟩ := h.cases_cons.resolve_right (by simp)
    obtain ⟨-, hrest⟩ := h.of_append (List.singleton_append ..).symm
    obtain ⟨hts, hplain⟩ := ih hrest
    exact ⟨allSealed_cons.mpr ⟨hs, hts⟩, List.forall_mem_cons.mpr ⟨hp, hplain⟩⟩

lemma sealed_of_closed {t : Text} (h : Closed (quoteTokens t)) :
    AllSealed (quoteTokens t) ∧ Plain (quoteTokens t) := by
  obtain ⟨ts, us, hcut, hts, hplain, hus⟩ := exists_sealed t
  have hnil : us = [] := by
    refine List.eq_nil_iff_forall_not_mem.mpr fun k hk => ?_
    have hmem : k ∈ quoteTokens t := hcut ▸ List.mem_append_right ts hk
    exact h k hmem (hus k hk)
  rw [hcut, hnil, List.append_nil]
  exact ⟨hts, hplain⟩

/-- Text that leaves no string open is read as it is read alone. -/
lemma quoteTokens_append {a : Text} (h : Closed (quoteTokens a)) (b : Text) :
    quoteTokens (a ++ b) = quoteTokens a ++ quoteTokens b := by
  obtain ⟨hs, hp⟩ := sealed_of_closed h
  have happend := quoteTokens_spell_append hs hp b
  rwa [spell_quoteTokens] at happend

lemma quoteTokens_cons {c : Char} (hc : ¬ isQuote c) (t : Text) :
    quoteTokens (c :: t) = .char c :: quoteTokens t := scan_char hc (by simp)

lemma allBlank_quoteTokens {t : Text} (h : Text.AllBlank t) : AllBlank (quoteTokens t) := by
  induction t with
  | nil => simp [AllBlank]
  | cons c t ih =>
    obtain ⟨hc, ht⟩ := List.forall_mem_cons.mp h
    have hquote : ¬ isQuote c := fun hq => not_isBlank_of_isQuote hq hc
    rw [quoteTokens_cons hquote]
    exact List.forall_mem_cons.mpr ⟨hc, ih ht⟩

lemma AllBlank.closed {ts : List Token} (h : AllBlank ts) : Closed ts := by
  intro k hk
  have hb := h k hk
  cases k <;> simp_all [Token.isBlank, Token.IsUnclosed]

lemma quoteTokens_padded {a d b : Text} (ha : Text.AllBlank a) (hd : Closed (quoteTokens d)) :
    quoteTokens (a ++ (d ++ b)) = quoteTokens a ++ (quoteTokens d ++ quoteTokens b) := by
  rw [quoteTokens_append (allBlank_quoteTokens ha).closed, quoteTokens_append hd]

/-! ### Splitting afresh -/

lemma piecesAt_ne_nil (n : Nat) (ts : List Token) : piecesAt n ts ≠ [] := by
  cases ts with
  | nil => simp [piecesAt]
  | cons k ts =>
    rw [piecesAt]
    split
    · simp
    · split <;> simp

/-- Where no parenthesis is open a semicolon cuts, and nothing before it counts behind it. -/
lemma piecesAt_append_semicolon {n : Nat} {ts : List Token} (h : parensAfterTokens n ts = 0)
    (us : List Token) :
    piecesAt n (ts ++ .char ';' :: us) = piecesAt n ts ++ piecesAt 0 us := by
  induction ts generalizing n with
  | nil =>
    obtain rfl : n = 0 := h
    exact piecesAt_semicolon us
  | cons k ts ih =>
    by_cases hk : k = .char ';' ∧ n = 0
    · obtain ⟨rfl, rfl⟩ := hk
      have hrest := ih (n := 0) h
      rw [List.cons_append, piecesAt_semicolon, piecesAt_semicolon, hrest, List.cons_append]
    · have hrest := ih h
      obtain ⟨p, ps, hps⟩ := List.exists_cons_of_ne_nil (piecesAt_ne_nil (parensAfterToken n k) ts)
      rw [hps, List.cons_append] at hrest
      rw [List.cons_append, piecesAt_cons hk hrest, piecesAt_cons hk hps, List.cons_append]

lemma piecesAt_semicolonFree {n : Nat} {ts : List Token} (h : SemicolonFree n ts) :
    piecesAt n ts = [ts] := by
  induction ts generalizing n with
  | nil => rfl
  | cons k ts ih =>
    obtain ⟨hk, hts⟩ := semicolonFree_cons.mp h
    exact piecesAt_cons (fun hn => hk hn.1 hn.2) (ih hts)

lemma splitDeclarations_nil : splitDeclarations [] = [] := by
  simp [splitDeclarations, piecesAt]

lemma splitDeclarations_semicolonFree {t : Text} (h : SemicolonFree 0 (quoteTokens t)) :
    splitDeclarations t = if t.strip = [] then [] else [t.strip] := by
  rw [splitDeclarations, piecesAt_semicolonFree h, List.map_singleton, spell_quoteTokens]
  split
  · rename_i hnil
    rw [hnil]
    rfl
  · rename_i hne
    rw [List.filter_cons_of_pos (by simpa using hne), List.filter_nil]

/-- **Behind a complete text splitting starts afresh.** -/
lemma splitDeclarations_append {p : Text} (h : Complete p) (r : Text) :
    splitDeclarations (p ++ ';' :: r) = splitDeclarations p ++ splitDeclarations r := by
  have htokens : quoteTokens (p ++ ';' :: r) =
      quoteTokens p ++ .char ';' :: quoteTokens r := by
    rw [quoteTokens_append h.closed, quoteTokens_cons (by decide)]
  rw [splitDeclarations, htokens, piecesAt_append_semicolon h.parens, List.map_append,
    List.filter_append]
  rfl

lemma splitDeclarations_join_cons {p : Text} (h : Complete p) (ps : List Text) :
    splitDeclarations (Text.join [';'] (p :: ps)) =
      splitDeclarations p ++ splitDeclarations (Text.join [';'] ps) := by
  cases ps with
  | nil => rw [Text.join, Text.join, splitDeclarations_nil, List.append_nil]
  | cons q qs =>
    rw [Text.join.eq_3 _ _ _ (by simp), List.append_assoc]
    exact splitDeclarations_append h _

/-! ### Declarations among blanks -/

lemma complete_of_allBlank {p : Text} (h : Text.AllBlank p) : Complete p := by
  have hblank := allBlank_quoteTokens h
  refine ⟨hblank.closed, ?_⟩
  rw [← parensAfterTokens_essence, hblank.void.essence_eq, parensAfterTokens_nil]

lemma splitDeclarations_of_allBlank {p : Text} (h : Text.AllBlank p) :
    splitDeclarations p = [] := by
  have hfree : SemicolonFree 0 (quoteTokens p) := by
    rw [← semicolonFree_essence, (allBlank_quoteTokens h).void.essence_eq]
    exact semicolonFree_nil 0
  rw [splitDeclarations_semicolonFree hfree, if_pos (Text.strip_eq_nil h)]

section

variable {a d b : Text}

lemma essence_padded (ha : Text.AllBlank a) (hb : Text.AllBlank b) (hd : Closed (quoteTokens d)) :
    essence (quoteTokens (a ++ (d ++ b))) = essence (quoteTokens d) := by
  rw [quoteTokens_padded ha hd, essence_append, essence_append,
    (allBlank_quoteTokens ha).void.essence_eq, (allBlank_quoteTokens hb).void.essence_eq,
    List.nil_append, List.append_nil]

lemma Complete.padded (h : Complete d) (ha : Text.AllBlank a) (hb : Text.AllBlank b) :
    Complete (a ++ (d ++ b)) := by
  constructor
  · rw [quoteTokens_padded ha h.closed, closed_append, closed_append]
    exact ⟨(allBlank_quoteTokens ha).closed, h.closed, (allBlank_quoteTokens hb).closed⟩
  · rw [← parensAfterTokens_essence, essence_padded ha hb h.closed, parensAfterTokens_essence]
    exact h.parens

lemma Standalone.splitDeclarations_padded (h : Standalone d) (ha : Text.AllBlank a)
    (hb : Text.AllBlank b) : splitDeclarations (a ++ (d ++ b)) = [d] := by
  have hfree : SemicolonFree 0 (quoteTokens (a ++ (d ++ b))) := by
    rw [← semicolonFree_essence, essence_padded ha hb h.complete.closed, semicolonFree_essence]
    exact h.semicolonFree
  have hstrip : (a ++ (d ++ b)).strip = d := by
    rw [Text.strip_blank_append ha, Text.strip_append_blank hb, Text.strip_of_trimmed h.trimmed]
  rw [splitDeclarations_semicolonFree hfree, hstrip, if_neg h.ne_nil]

end

lemma splitDeclarations_padded {ds ps : List Text} (h : Padded ds ps)
    (hds : ∀ d ∈ ds, Standalone d) : splitDeclarations (Text.join [';'] ps) = ds := by
  induction h with
  | nil => exact splitDeclarations_nil
  | blank hp _ ih =>
    rw [splitDeclarations_join_cons (complete_of_allBlank hp), splitDeclarations_of_allBlank hp,
      ih hds, List.nil_append]
  | declaration ha hb _ ih =>
    obtain ⟨hd, hds⟩ := List.forall_mem_cons.mp hds
    rw [splitDeclarations_join_cons (hd.complete.padded ha hb),
      hd.splitDeclarations_padded ha hb, ih hds, List.singleton_append]

/-! ### Declarations that were found -/

lemma exists_strip (t : Text) : ∃ a b, t = a ++ (t.strip ++ b) ∧ Text.AllBlank a ∧
    Text.AllBlank b := by
  obtain ⟨a, m, b, hcut, ha, hb, hm⟩ := Text.exists_trim Text.isBlank t
  have hstrip : t.strip = m := by
    rw [hcut, Text.strip_blank_append ha, Text.strip_append_blank hb, Text.strip_of_trimmed hm]
  rw [hstrip]
  exact ⟨a, b, hcut, ha, hb⟩

/-- What is cut off at the end opened no semicolon before it. -/
lemma semicolonFree_of_append {m c : Text} (h : SemicolonFree 0 (quoteTokens (m ++ c))) :
    SemicolonFree 0 (quoteTokens m) := by
  obtain ⟨ts, us, hcut, hts, hplain, hus⟩ := exists_sealed m
  have htext : m = spell ts ++ spell us := by rw [← spell_append, ← hcut, spell_quoteTokens]
  have hread : quoteTokens (m ++ c) = ts ++ quoteTokens (spell us ++ c) := by
    rw [htext, List.append_assoc]
    exact quoteTokens_spell_append hts hplain _
  intro p s hps
  -- a semicolon is no open string, so it stands among the sealed tokens
  obtain ⟨v, hv⟩ : ∃ v, ts = p ++ .char ';' :: v := by
    rw [hcut] at hps
    rcases List.append_eq_append_iff.mp hps with ⟨u, hu, hsemi⟩ | ⟨u, hu, hsemi⟩
    · have hmem : Token.char ';' ∈ us := by
        rw [hsemi]
        simp
      exact absurd (hus _ hmem) (by simp [Token.IsUnclosed])
    · cases u with
      | nil =>
        have hmem : Token.char ';' ∈ us := by
          rw [← List.nil_append us, ← hsemi]
          exact List.mem_cons_self
        exact absurd (hus _ hmem) (by simp [Token.IsUnclosed])
      | cons k u =>
        obtain ⟨rfl, -⟩ := List.cons.inj hsemi
        exact ⟨u, hu⟩
  rw [hread, hv] at h
  exact h p (v ++ quoteTokens (spell us ++ c)) (by simp)

lemma semicolonFree_strip {t : Text} (h : SemicolonFree 0 (quoteTokens t)) :
    SemicolonFree 0 (quoteTokens t.strip) := by
  obtain ⟨a, b, hcut, ha, -⟩ := exists_strip t
  have hblank := allBlank_quoteTokens ha
  rw [hcut, quoteTokens_append hblank.closed, ← semicolonFree_essence, essence_append,
    hblank.void.essence_eq, List.nil_append, semicolonFree_essence] at h
  exact semicolonFree_of_append h

lemma Complete.strip {t : Text} (h : Complete t) : Complete t.strip := by
  obtain ⟨hs, hp⟩ := sealed_of_closed h.closed
  obtain ⟨m, hm⟩ := exists_leaves hs
  have htext : t.strip = spell m := by
    have hstrip := hm.strip_eq hp
    rwa [spell_quoteTokens] at hstrip
  have hread : quoteTokens t.strip = m := by rw [htext, hm.reread]
  constructor
  · rw [hread]
    exact hm.sealed.closed
  · rw [hread, ← parensAfterTokens_essence, hm.essence, parensAfterTokens_essence]
    exact h.parens

lemma splitDeclarations_strip {t : Text} (h : SemicolonFree 0 (quoteTokens t)) :
    splitDeclarations t.strip = splitDeclarations t := by
  have htwice : t.strip.strip = t.strip := Text.strip_of_trimmed (Text.trimmed_strip t)
  rw [splitDeclarations_semicolonFree h, splitDeclarations_semicolonFree (semicolonFree_strip h),
    htwice]

lemma exists_cut {t : Text} (h : ¬ SemicolonFree 0 (quoteTokens t)) :
    ∃ p r, t = p ++ ';' :: r ∧ Complete p ∧ SemicolonFree 0 (quoteTokens p) := by
  obtain ⟨s, r, hcut, hfree, hparens⟩ := exists_whole h
  have hquoted := quoted_quoteTokens t
  rw [hcut] at hquoted
  obtain ⟨hs, hp⟩ := hquoted.sealed_left
  have hread : quoteTokens (spell s) = s := quoteTokens_spell hs hp
  have htext : t = spell s ++ ';' :: spell r := by
    rw [← spell_quoteTokens t, hcut, spell_append]
    rfl
  have hcomplete : Complete (spell s) := ⟨hread.symm ▸ AllSealed.closed hs, hread.symm ▸ hparens⟩
  exact ⟨spell s, spell r, htext, hcomplete, hread.symm ▸ hfree⟩

/-- **What was found is found again.** -/
lemma splitDeclarations_again (t : Text) :
    splitDeclarations (Text.join [';'] (splitDeclarations t)) = splitDeclarations t := by
  induction hn : t.length using Nat.strongRecOn generalizing t with
  | _ n ih =>
    by_cases hfree : SemicolonFree 0 (quoteTokens t)
    · have hone := splitDeclarations_semicolonFree hfree
      by_cases hnil : t.strip = []
      · rw [if_pos hnil] at hone
        rw [hone]
        exact splitDeclarations_nil
      · rw [if_neg hnil] at hone
        rw [hone, Text.join, splitDeclarations_strip hfree, hone]
    · obtain ⟨p, r, rfl, hp, hpfree⟩ := exists_cut hfree
      have hr : splitDeclarations (Text.join [';'] (splitDeclarations r)) = splitDeclarations r :=
        ih r.length (by simp at hn; omega) r rfl
      have hone := splitDeclarations_semicolonFree hpfree
      have hstrip := splitDeclarations_strip hpfree
      rw [splitDeclarations_append hp]
      by_cases hnil : p.strip = []
      · rw [if_pos hnil] at hone
        rw [hone, List.nil_append, hr]
      · rw [if_neg hnil] at hone
        rw [hone] at hstrip ⊢
        rw [List.singleton_append, splitDeclarations_join_cons hp.strip, hstrip, hr,
          List.singleton_append]

/-- **Splitting undoes joining.** -/
theorem splitDeclarations_join :
    (∀ ds ps : List Text, (∀ d ∈ ds, Standalone d) → Padded ds ps →
      splitDeclarations (Text.join [';'] ps) = ds) ∧
    ∀ t : Text, splitDeclarations (Text.join [';'] (splitDeclarations t)) = splitDeclarations t :=
  ⟨fun _ _ hds h => splitDeclarations_padded h hds, splitDeclarations_again⟩

/-- Semicolons in parentheses and in a string that holds a parenthesis and an escaped quote; and a
text whose last declaration leaves a parenthesis and a string open and has an escaped blank. -/
theorem splitDeclarations_join_two :
    let image : Text := "a: url(x;y)".toList
    let quoted : Text := "b:')\\';'".toList
    let pieces : List Text := [[' '], '\n' :: (image ++ [' ']), [], quoted]
    let opened : Text := ";a:b ; (c: \"d;\\ ".toList
    (∀ d ∈ [image, quoted], Standalone d) ∧ Padded [image, quoted] pieces ∧
      splitDeclarations (Text.join [';'] pieces) = [image, quoted] ∧
      splitDeclarations opened = ["a:b".toList, "(c: \"d;\\".toList] ∧
      splitDeclarations (Text.join [';'] (splitDeclarations opened)) =
        splitDeclarations opened := by
  intro image quoted pieces opened
  have halone : ∀ d ∈ [image, quoted], Standalone d := by decide +kernel
  have hpadded : Padded [image, quoted] pieces := by
    have hlast : Padded [quoted] [quoted] :=
      .declaration (a := []) (b := []) (by decide) (by decide) .nil
    have himage : Padded [image, quoted] ['\n' :: (image ++ [' ']), [], quoted] :=
      .declaration (a := ['\n']) (by decide) (by decide) (.blank (by decide) hlast)
    exact .blank (by decide) himage
  have hfound : splitDeclarations opened = ["a:b".toList, "(c: \"d;\\".toList] := by
    decide +kernel
  obtain ⟨hjoin, hagain⟩ := splitDeclarations_join
  exact ⟨halone, hpadded, hjoin _ _ halone hpadded, hfound, hagain opened⟩

end ClassPurge.Css
