import ClassPurge.Extract.Registry
import ClassPurge.Proofs.Extract.LineEnds
import ClassPurge.Proofs.Text.Blanks
import ClassPurge.Proofs.Text.FirstMentions
import ClassPurge.Proofs.Text.Stripping

/-!
Candidates stand in the text. Each recogniser answers with pieces of the text that it is given, and
a word that is put together behind an interpolation was one before: what takes the place of the
interpolation is a blank, and no word has one. So nothing is made up, and only the literals of
conditionals have blanks.
-/

namespace ClassPurge.Extract

open Text

variable {α : Type} {t s r w : Text}

/-- `w` is one piece of `t`, not empty and without blanks. -/
structure IsWordOf (w t : Text) : Prop where
  ne_nil : w ≠ []
  noBlank : Avoids isBlank w
  isInfix : w <:+: t

lemma IsWordOf.of_isInfix (h : IsWordOf w s) (hs : s <:+: t) : IsWordOf w t :=
  ⟨h.ne_nil, h.noBlank, h.isInfix.trans hs⟩

/-! ### Searches -/

/-- What `m` finds is in the relation `P` with the text where it is found. -/
def Yields (m : Recognizer α) (P : Text → α → Prop) : Prop :=
  ∀ before t a r, m before t = some (a, r) → P t a

section

variable {m : Recognizer α} {P : Text → α → Prop} {before : Option Char} {a : α}

lemma Yields.of_mem (hm : Yields m P) (h : a ∈ occurrencesFrom m before t) :
    ∃ s, s <:+ t ∧ P s a := by
  fun_induction occurrencesFrom m before t with
  | case1 => cases h
  | case2 before c r a' r' hfound k ih =>
    rcases List.mem_cons.mp h with rfl | hrest
    · exact ⟨c :: r, List.suffix_rfl, hm _ _ _ _ hfound⟩
    · obtain ⟨s, hs, hP⟩ := ih hrest
      exact ⟨s, hs.trans ((List.drop_suffix k r).trans (List.suffix_cons c r)), hP⟩
  | case3 before c r _ ih =>
    obtain ⟨s, hs, hP⟩ := ih h
    exact ⟨s, hs.trans (List.suffix_cons c r), hP⟩

lemma exists_of_firstFrom? (h : firstFrom? m before t = some (a, r)) :
    ∃ before' s, s <:+ t ∧ m before' s = some (a, r) := by
  induction t generalizing before with
  | nil => cases h
  | cons c t ih =>
    rw [firstFrom?] at h
    rcases Option.or_eq_some_iff.mp h with hhere | ⟨-, hrest⟩
    · exact ⟨before, c :: t, List.suffix_rfl, hhere⟩
    · obtain ⟨before', s, hs, hm⟩ := ih hrest
      exact ⟨before', s, hs.trans (List.suffix_cons c t), hm⟩

lemma isPrefix_of_replaced {x : Char} (hw : x ∉ w) (h : w <+: replaceFrom m [x] before t) :
    w <+: t := by
  induction w generalizing before t with
  | nil => exact List.nil_prefix
  | cons y w ih =>
    rw [List.mem_cons, not_or] at hw
    cases t with
    | nil => simp [replaceFrom] at h
    | cons c t =>
      rw [replaceFrom.eq_2] at h
      split at h
      · exact absurd (List.cons_prefix_cons.mp h).1.symm hw.1
      · obtain ⟨rfl, hrest⟩ := List.cons_prefix_cons.mp h
        exact List.cons_prefix_cons.mpr ⟨rfl, ih hw.2 hrest⟩

/-- A piece without the character that is put in was a piece before. -/
lemma isInfix_of_replaced {x : Char} (hw : x ∉ w) (h : w <:+: replaceFrom m [x] before t) :
    w <:+: t := by
  fun_induction replaceFrom m [x] before t with
  | case1 => exact h
  | case2 before c r _ r' _ k ih =>
    have hbehind : w <:+: r.drop k := ih (isInfix_of_append_left (by simpa using hw) h)
    exact hbehind.trans ((List.drop_suffix k r).trans (List.suffix_cons c r)).isInfix
  | case3 before c r hnone ih =>
    rcases List.infix_cons_iff.mp h with hpre | hrest
    · have hwhole : replaceFrom m [x] before (c :: r) = c :: replaceFrom m [x] (some c) r := by
        rw [replaceFrom.eq_2, hnone]
      exact (isPrefix_of_replaced hw (hwhole ▸ hpre)).isInfix
    · exact (ih hrest).trans (List.suffix_cons c r).isInfix

end

/-! ### What is left, and what is enclosed -/

lemma isSuffix_of_after? (h : after? w t = some r) : r <:+ t := ⟨w, (eq_append_of_after? h).symm⟩

lemma isSuffix_stripStart (t : Text) : stripStart t <:+ t := List.dropWhile_suffix _

lemma isSuffix_behind (h : after? w t = some r) : stripStart r <:+ t :=
  (isSuffix_stripStart r).trans (isSuffix_of_after? h)

lemma eq_of_enclosed? {q : Char} {barred : Char → Bool} (h : enclosed? q barred t = some (w, r)) :
    t = w ++ q :: r ∧ Avoids barred w := by
  unfold enclosed? at h
  split at h
  · rename_i a d b hcut
    split at h
    · rename_i hd
      obtain ⟨rfl, rfl⟩ : a = w ∧ b = r := by simpa using h
      obtain rfl : d = q := by simpa using hd
      refine ⟨(eq_of_cut? hcut).2, fun x hx hb => not_marked_of_cut? hcut x hx ?_⟩
      simp [hb]
    · cases h
  · cases h

lemma isInfix_of_opened {c q : Char} {barred : Char → Bool}
    (h : enclosed? q barred s = some (w, r)) (hs : c :: s <:+ t) : w <:+: t := by
  have hin : w <:+: s := ⟨[], q :: r, by rw [(eq_of_enclosed? h).1]; rfl⟩
  exact hin.trans ((List.suffix_cons c s).trans hs).isInfix

section

variable (quote : Char → Bool) (barred : Char → Char → Bool)

lemma eq_of_string? (h : string? quote barred t = some (w, r)) : ∃ q, t = q :: (w ++ q :: r) := by
  cases t with
  | nil => cases h
  | cons q t =>
    rw [string?] at h
    split at h
    · exact ⟨q, by rw [(eq_of_enclosed? h).1]⟩
    · cases h

lemma isInfix_of_string? (h : string? quote barred t = some (w, r)) : w <:+: t := by
  obtain ⟨q, rfl⟩ := eq_of_string? quote barred h
  exact ⟨[q], q :: r, by simp⟩

end

/-! ### Words in one piece -/

/-- From the text `t` to its end `r` no blank is skipped. -/
def Skips (t r : Text) : Prop := ∃ p, t = p ++ r ∧ Avoids isBlank p

lemma Skips.refl (t : Text) : Skips t t := ⟨[], rfl, by simp [Avoids]⟩

lemma Skips.trans (h : Skips t s) (h' : Skips s r) : Skips t r := by
  obtain ⟨p, rfl, hp⟩ := h
  obtain ⟨q, rfl, hq⟩ := h'
  exact ⟨p ++ q, by simp, List.forall_mem_append.mpr ⟨hp, hq⟩⟩

lemma Skips.cons {c : Char} (hc : ¬ isBlank c) (h : Skips t r) : Skips (c :: t) r := by
  obtain ⟨p, rfl, hp⟩ := h
  exact ⟨c :: p, rfl, List.forall_mem_cons.mpr ⟨hc, hp⟩⟩

lemma skips_dropWhile {p : Char → Bool} (hp : ∀ c, p c → ¬ isBlank c) (t : Text) :
    Skips t (t.dropWhile p) :=
  ⟨t.takeWhile p, List.takeWhile_append_dropWhile.symm,
    fun c hc => hp c (List.mem_takeWhile_imp hc)⟩

lemma isWordOf_upTo {c : Char} (hc : ¬ isBlank c) (hstart : Skips t (c :: s)) (hs : Skips s r) :
    IsWordOf (upTo t r) t := by
  obtain ⟨p, rfl, hp⟩ := hstart
  obtain ⟨q, rfl, hq⟩ := hs
  have hread : upTo (p ++ c :: (q ++ r)) r = p ++ c :: q := by
    have htext : p ++ c :: (q ++ r) = (p ++ c :: q) ++ r := by simp
    rw [htext, upTo, List.length_append, Nat.add_sub_cancel, List.take_left]
  rw [hread]
  exact ⟨by simp, List.forall_mem_append.mpr ⟨hp, List.forall_mem_cons.mpr ⟨hc, hq⟩⟩,
    ⟨[], r, by simp⟩⟩

lemma not_isBlank_of_isSegment {c : Char} (h : isSegment c) : ¬ isBlank c := by
  rw [isSegment, Bool.or_eq_true] at h
  rcases h with h | h
  · exact not_isBlank_of_isName h
  · obtain rfl : c = '.' := by simpa using h
    decide

lemma skips_afterSegments (t : Text) : Skips t (afterSegments t) := by
  fun_induction afterSegments t with
  | case1 c d r hcd ih =>
    obtain ⟨hmark, hsegment⟩ := Bool.and_eq_true_iff.mp hcd
    have hc : ¬ isBlank c :=
      not_isBlank_of_kind (p := fun c => c == ':' || c == '/') (by decide +kernel) hmark
    have hd : ¬ isBlank d := not_isBlank_of_isSegment hsegment
    have hdrop : Skips r (r.dropWhile isSegment) :=
      skips_dropWhile (fun _ => not_isBlank_of_isSegment) r
    exact ((hdrop.trans ih).cons hd).cons hc
  | case2 c d r _ => exact .refl _
  | case3 t _ => exact .refl t

lemma skips_hyphen (t : Text) : Skips t ((after? ['-'] t).getD t) := by
  cases h : after? ['-'] t with
  | none => exact .refl t
  | some r => exact ⟨['-'], eq_append_of_after? h, by decide⟩

lemma yields_classWord : Yields classWord fun t w => IsWordOf w t := by
  intro before t w r h
  have hstart := skips_hyphen t
  unfold classWord at h
  split at h
  · cases h
  · split at h
    · rename_i c s hs
      split at h
      · rename_i hletter
        obtain ⟨rfl, rfl⟩ := Prod.mk.inj (Option.some.inj h)
        have hc : ¬ isBlank c := not_isBlank_of_kind (p := Char.isAlpha) (by decide +kernel) hletter
        have hname : Skips s (s.dropWhile isName) :=
          skips_dropWhile (fun _ => not_isBlank_of_isName) s
        rw [hs] at hstart
        exact isWordOf_upTo hc hstart (hname.trans (skips_afterSegments _))
      · cases h
    · cases h

lemma yields_arbitrary : Yields arbitrary fun t w => IsWordOf w t := by
  intro before t w r h
  unfold arbitrary at h
  split at h
  · cases h
  · obtain ⟨s, hscale, h⟩ := Option.bind_eq_some_iff.mp h
    obtain ⟨⟨a, r'⟩, hvalue, h⟩ := Option.bind_eq_some_iff.mp h
    obtain ⟨p, hp, hafter⟩ := List.exists_of_findSome?_eq_some hscale
    dsimp only at h
    split at h
    · cases h
    · obtain ⟨rfl, rfl⟩ := Prod.mk.inj (Option.some.inj h)
      have hscales : ∀ p ∈ [] :: scales.map (· ++ ['-']), Avoids isBlank p := by decide +kernel
      have hstart : Skips t ('[' :: s) :=
        ⟨p, by rw [eq_append_of_after? hafter]; simp, hscales p hp⟩
      obtain ⟨htext, hbarred⟩ := eq_of_enclosed? hvalue
      have ha : Avoids isBlank a := fun x hx hb => hbarred x hx (by simp [hb])
      have hclose : Avoids isBlank [']'] := by decide
      have hrest : Skips s r' :=
        ⟨a ++ [']'], by rw [htext]; simp, List.forall_mem_append.mpr ⟨ha, hclose⟩⟩
      exact isWordOf_upTo (by decide) hstart hrest

/-! ### The other recognisers -/

lemma yields_attributeValue (name : Text) : Yields (attributeValue name) fun t w => w <:+: t := by
  intro before t w r h
  unfold attributeValue at h
  split at h
  · cases h
  · obtain ⟨s, hname, h⟩ := Option.bind_eq_some_iff.mp h
    obtain ⟨s', hequals, h⟩ := Option.bind_eq_some_iff.mp h
    have hvalue : w <:+: stripStart s' :=
      isInfix_of_string? (fun q => q == '"' || q == '\'') (fun _ => nothingBarred) h
    have hleft : stripStart s' <:+ t := (isSuffix_behind hequals).trans (isSuffix_behind hname)
    exact hvalue.trans hleft.isInfix

lemma yields_fragment : Yields fragment fun t w => w <:+: t := fun _ _ _ _ h =>
  isInfix_of_string? isStringQuote (fun q c => q != '\x60' && c == '\n') h

lemma yields_stringLiteral : Yields stringLiteral fun t w => w <:+: t := fun _ _ _ _ h =>
  isInfix_of_string? isStringQuote (fun _ => nothingBarred) h

lemma isSuffix_of_attributeName {before : Option Char} {u : Unit}
    (h : attributeName before t = some (u, r)) : r <:+ t := by
  unfold attributeName at h
  split at h
  · cases h
  · obtain ⟨name, -, h⟩ := List.exists_of_findSome?_eq_some h
    obtain ⟨s, hname, h⟩ := Option.bind_eq_some_iff.mp h
    split at h
    · cases h
    · obtain ⟨-, rfl⟩ := Prod.mk.inj (Option.some.inj h)
      exact isSuffix_of_after? hname

/-- A literal lies in the text, and what follows it is an end of the text. -/
lemma literal?_pieces (h : literal? t = some (w, r)) : w <:+: t ∧ r <:+ t := by
  obtain ⟨q, rfl⟩ := eq_of_string? isStringQuote (fun _ c => isStringQuote c || c == '\n') h
  exact ⟨⟨[q], q :: r, by simp⟩, ⟨q :: (w ++ [q]), by simp⟩⟩

lemma yields_conditional : Yields conditional fun t ls => ∀ l ∈ ls, l <:+: t := by
  intro before t ls r h
  obtain ⟨s, hmark, h⟩ := Option.bind_eq_some_iff.mp h
  obtain ⟨⟨a, s'⟩, hfirst, h⟩ := Option.bind_eq_some_iff.mp h
  obtain ⟨s'', hcolon, h⟩ := Option.bind_eq_some_iff.mp h
  obtain ⟨ha, hs'⟩ := literal?_pieces hfirst
  have hs : stripStart s <:+ t := isSuffix_behind hmark
  have hs'' : stripStart s'' <:+ t :=
    (isSuffix_behind hcolon).trans ((isSuffix_stripStart s').trans (hs'.trans hs))
  split at h
  · rename_i b r' hsecond
    obtain ⟨rfl, -⟩ := Prod.mk.inj (Option.some.inj h)
    obtain ⟨hb, -⟩ := literal?_pieces hsecond
    simpa using ⟨ha.trans hs.isInfix, hb.trans hs''.isInfix⟩
  · obtain ⟨rfl, -⟩ := Prod.mk.inj (Option.some.inj h)
    simpa using ha.trans hs.isInfix

lemma yields_helperCall : Yields helperCall fun t pieces => ∀ p ∈ pieces, p <:+: t := by
  intro before t pieces r h
  unfold helperCall at h
  split at h
  · cases h
  · obtain ⟨name, -, h⟩ := List.exists_of_findSome?_eq_some h
    obtain ⟨s, hname, h⟩ := Option.bind_eq_some_iff.mp h
    have hrest : stripStart s <:+ t := isSuffix_behind hname
    split at h
    · rename_i s' hs
      obtain ⟨⟨a, r'⟩, hcall, h⟩ := Option.bind_eq_some_iff.mp h
      obtain ⟨rfl, -⟩ := Prod.mk.inj (Option.some.inj h)
      have hinside : a <:+: t := isInfix_of_opened hcall (hs ▸ hrest)
      intro p hp
      obtain ⟨u, hu, hpu⟩ := yields_stringLiteral.of_mem hp
      exact hpu.trans (hu.isInfix.trans hinside)
    · rename_i s' hs
      obtain ⟨⟨a, r'⟩, htag, h⟩ := Option.bind_eq_some_iff.mp h
      obtain ⟨rfl, -⟩ := Prod.mk.inj (Option.some.inj h)
      have hinside : a <:+: t := isInfix_of_opened htag (hs ▸ hrest)
      simpa using hinside
    · cases h

lemma isWordOf_of_mem_words (h : w ∈ words t) : IsWordOf w t :=
  ⟨ne_nil_of_mem_words h, noBlank_of_mem_words h, isInfix_of_mem_words h⟩

lemma yields_plainWords : Yields plainWords fun t ws => ∀ w ∈ ws, IsWordOf w t := by
  intro before t ws r h
  unfold plainWords at h
  split at h
  · rename_i q t
    split at h
    · obtain ⟨⟨a, r'⟩, hstring, h⟩ := Option.bind_eq_some_iff.mp h
      dsimp only at h
      split at h
      · obtain ⟨rfl, -⟩ := Prod.mk.inj (Option.some.inj h)
        have hinside : a <:+: q :: t := isInfix_of_opened hstring List.suffix_rfl
        exact fun w hw => (isWordOf_of_mem_words hw).of_isInfix hinside
      · cases h
    · cases h
  · cases h

/-! ### The heuristics -/

lemma isWordOf_attributeWords {name : Text} (h : w ∈ attributeWords name t) : IsWordOf w t := by
  obtain ⟨value, hvalue, hw⟩ := List.mem_flatMap.mp h
  obtain ⟨s, hs, hin⟩ := (yields_attributeValue name).of_mem hvalue
  exact (isWordOf_of_mem_words hw).of_isInfix (hin.trans hs.isInfix)

lemma isWordOf_classWords (h : w ∈ classWords t) : IsWordOf w t := by
  obtain ⟨s, hs, hw⟩ := yields_classWord.of_mem h
  exact hw.of_isInfix hs.isInfix

lemma IsWordOf.of_dropInterpolations (h : IsWordOf w (dropInterpolations t)) : IsWordOf w t := by
  have hspace : ' ' ∉ w := fun hmem => h.noBlank ' ' hmem (by decide)
  exact ⟨h.ne_nil, h.noBlank, isInfix_of_replaced hspace h.isInfix⟩

lemma isWordOf_fragmentWords (h : w ∈ fragmentWords t) : IsWordOf w t := by
  unfold fragmentWords at h
  split at h
  · rename_i u rest hfirst
    obtain ⟨before, s, hs, hname⟩ := exists_of_firstFrom? hfirst
    have hrest : rest <:+ t := (isSuffix_of_attributeName hname).trans hs
    have hword : IsWordOf w (dropInterpolations rest) :=
      isWordOf_classWords (List.mem_filter.mp h).1
    exact hword.of_dropInterpolations.of_isInfix hrest.isInfix
  · cases h

lemma isWordOf_templateFragments (h : w ∈ templateFragments t) : IsWordOf w t := by
  obtain ⟨f, hf, hw⟩ := List.mem_flatMap.mp h
  obtain ⟨s, hs, hin⟩ := yields_fragment.of_mem hf
  exact (isWordOf_fragmentWords hw).of_isInfix (hin.trans hs.isInfix)

lemma isInfix_of_ternaryLiterals (h : w ∈ ternaryLiterals t) : w ≠ [] ∧ w <:+: t := by
  obtain ⟨hw, hne⟩ := List.mem_filter.mp h
  obtain ⟨ls, hls, hw⟩ := List.mem_flatMap.mp hw
  obtain ⟨l, hl, rfl⟩ := List.mem_map.mp hw
  obtain ⟨s, hs, hin⟩ := yields_conditional.of_mem hls
  exact ⟨by simpa using hne, (strip_isInfix l).trans ((hin l hl).trans hs.isInfix)⟩

lemma isWordOf_arbitraryValues (h : w ∈ arbitraryValues t) : IsWordOf w t := by
  obtain ⟨s, hs, hw⟩ := yields_arbitrary.of_mem (List.mem_filter.mp h).1
  exact hw.of_isInfix hs.isInfix

lemma isWordOf_pieceWords (h : w ∈ pieceWords t) : IsWordOf w t :=
  (isWordOf_classWords (List.mem_filter.mp h).1).of_dropInterpolations

lemma isWordOf_catchAll (h : w ∈ catchAll t) : IsWordOf w t := by
  rcases List.mem_append.mp h with hcall | hquoted
  · obtain ⟨pieces, hpieces, hw⟩ := List.mem_flatMap.mp hcall
    obtain ⟨p, hp, hw⟩ := List.mem_flatMap.mp hw
    obtain ⟨s, hs, hin⟩ := yields_helperCall.of_mem hpieces
    exact (isWordOf_pieceWords hw).of_isInfix ((hin p hp).trans hs.isInfix)
  · obtain ⟨ws, hws, hw⟩ := List.mem_flatMap.mp (List.mem_filter.mp hquoted).1
    obtain ⟨s, hs, hin⟩ := yields_plainWords.of_mem hws
    exact (hin w hw).of_isInfix hs.isInfix

/-- What the heuristics find besides the literals of conditionals. -/
def foundWords (t : Text) : List Text :=
  classAttribute t ++ classNameAttribute t ++ templateFragments t ++ arbitraryValues t ++ catchAll t

lemma isWordOf_foundWords (h : w ∈ foundWords t) : IsWordOf w t := by
  simp only [foundWords, List.mem_append] at h
  rcases h with (((h | h) | h) | h) | h
  · exact isWordOf_attributeWords h
  · exact isWordOf_attributeWords h
  · exact isWordOf_templateFragments h
  · exact isWordOf_arbitraryValues h
  · exact isWordOf_catchAll h

lemma mem_heuristics : w ∈ (heuristics.flatMap fun h => h t) ↔
    w ∈ foundWords t ∨ w ∈ ternaryLiterals t := by
  simp only [heuristics, foundWords, List.flatMap_cons, List.flatMap_nil, List.append_nil,
    List.mem_append]
  tauto

/-- Nothing that is found is empty, so nothing is left out. -/
lemma candidates_eq (t : Text) : candidates t = (heuristics.flatMap fun h => h t).eraseDups := by
  rw [candidates, List.filter_eq_self.mpr]
  intro w hw
  have hne : w ≠ [] := by
    rcases mem_heuristics.mp hw with hword | hliteral
    · exact (isWordOf_foundWords hword).ne_nil
    · exact (isInfix_of_ternaryLiterals hliteral).1
  simpa using hne

/-! ### The order of the candidates -/

/-- The heuristic `h` is the first that finds `w`, and finds it first behind `found`. -/
structure FoundFirst (t w : Text) (earlier : List (Text → List Text)) (h : Text → List Text)
    (found : List Text) : Prop where
  listed : earlier ++ [h] <+: heuristics
  missed : ∀ g ∈ earlier, w ∉ g t
  finds : found ++ [w] <+: h t
  new : w ∉ found

lemma exists_foundFirst (h : w ∈ candidates t) :
    ∃ earlier h found, FoundFirst t w earlier h found := by
  rw [candidates_eq, List.mem_eraseDups, List.mem_flatMap] at h
  obtain ⟨f, hf, hw⟩ := h
  have hsome : (heuristics.find? fun h => decide (w ∈ h t)).isSome := by
    rw [List.find?_isSome]
    exact ⟨f, hf, decide_eq_true hw⟩
  obtain ⟨h, hfind⟩ := Option.isSome_iff_exists.mp hsome
  obtain ⟨hmem, earlier, later, hlist, hmissed⟩ := List.find?_eq_some_iff_append.mp hfind
  obtain ⟨found, rest, hfound, hnew⟩ := List.eq_append_cons_of_mem (of_decide_eq_true hmem)
  exact ⟨earlier, h, found, ⟨later, by rw [hlist]; simp⟩, fun g hg => by simpa using hmissed g hg,
    ⟨rest, by rw [hfound]; simp⟩, hnew⟩

/-- Before it stands what was found before it. -/
lemma FoundFirst.candidates_eq {earlier : List (Text → List Text)} {h : Text → List Text}
    {found : List Text} (hfirst : FoundFirst t w earlier h found) :
    ∃ after, candidates t = ((earlier.flatMap fun g => g t) ++ found).eraseDups ++ w :: after := by
  obtain ⟨later, hlist⟩ := hfirst.listed
  obtain ⟨rest, hfound⟩ := hfirst.finds
  have hnew : w ∉ (earlier.flatMap fun g => g t) ++ found := by
    rw [List.mem_append, List.mem_flatMap]
    rintro (⟨g, hg, hw⟩ | hw)
    · exact hfirst.missed g hg hw
    · exact hfirst.new hw
  have hall : (heuristics.flatMap fun h => h t) = ((earlier.flatMap fun g => g t) ++ found) ++
      w :: (rest ++ later.flatMap fun g => g t) := by
    rw [← hlist, List.flatMap_append, List.flatMap_append, List.flatMap_singleton, ← hfound]
    simp
  rw [Extract.candidates_eq, hall]
  exact eraseDups_append_cons hnew _

/-- **No class is made up.** -/
theorem extractClasses_found {extractors : Registry Extractor} {path : Files.Path}
    (hpath : extractors.forPath? path = none) (t : Text) :
    ∃ cs, extractClasses extractors path t = .ok cs ∧ cs.Nodup ∧
      cs = (heuristics.flatMap fun h => h t).eraseDups ∧
      (∀ w ∈ cs, w ≠ [] ∧ w <:+: t ∧ (¬ Avoids isBlank w → w ∈ ternaryLiterals t)) ∧
      (∀ w ∈ foundWords t, Avoids isBlank w) ∧
      ∀ w ∈ cs, ∃ earlier h found after, FoundFirst t w earlier h found ∧
        cs = ((earlier.flatMap fun g => g t) ++ found).eraseDups ++ w :: after := by
  have hcs : extractClasses extractors path t = .ok (candidates t) := by
    rw [extractClasses, hpath]
  refine ⟨candidates t, hcs, ?_, candidates_eq t, fun w hw => ?_,
    fun w hw => (isWordOf_foundWords hw).noBlank, fun w hw => ?_⟩
  · rw [candidates_eq]
    exact nodup_eraseDups _
  · rw [candidates_eq, List.mem_eraseDups, mem_heuristics] at hw
    rcases hw with hword | hliteral
    · have hw := isWordOf_foundWords hword
      exact ⟨hw.ne_nil, hw.isInfix, fun hblank => absurd hw.noBlank hblank⟩
    · obtain ⟨hne, hin⟩ := isInfix_of_ternaryLiterals hliteral
      exact ⟨hne, hin, fun _ => hliteral⟩
  · obtain ⟨earlier, h, found, hfirst⟩ := exists_foundFirst hw
    obtain ⟨after, hafter⟩ := hfirst.candidates_eq
    exact ⟨earlier, h, found, after, hfirst, hafter⟩

/-- A class that two heuristics find stands where the first of them found it, a literal keeps its
blank, and the words on both sides of an interpolation stay two. An extractor for another suffix
is not asked. -/
theorem extractClasses_found_markup :
    let t : Text :=
      "<p class=\"a b\" x=on ? \"c d\" : 'e'>`class=p-$\x7bn\x7dq m-[2px]` cx('a f')".toList
    let extractors : Registry Extractor := .ofList [("vue".toList, .silent "other".toList)]
    let path : Files.Path := .ofText "page.html".toList
    let names : List Text :=
      ["a", "b", "p-", "q", "m-", "c d", "e", "m-[2px]", "f", "c", "d"].map String.toList
    extractors.forPath? path = none ∧
      ∃ cs, extractClasses extractors path t = .ok cs ∧ cs.Nodup ∧ cs = names ∧
        (∀ w ∈ cs, w <:+: t) ∧ "c d".toList ∈ ternaryLiterals t := by
  intro t extractors path names
  have hpath : extractors.forPath? path = none := rfl
  have hnames : (heuristics.flatMap fun h => h t).eraseDups = names := by decide +kernel
  obtain ⟨cs, hcs, hnodup, heq, hpieces, -, -⟩ := extractClasses_found hpath t
  have hliteral : "c d".toList ∈ cs := by
    rw [heq, hnames]
    decide +kernel
  exact ⟨hpath, cs, hcs, hnodup, heq.trans hnames, fun w hw => (hpieces w hw).2.1,
    (hpieces _ hliteral).2.2 (by decide +kernel)⟩

end ClassPurge.Extract
