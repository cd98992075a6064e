import ClassPurge.Text.Case
import ClassPurge.Proofs.Text.Blanks
import ClassPurge.Proofs.Text.Stripping

/-!
Small letters stay as they are. No run of capital letters has a small letter of another, or one of
its own, among its capitals, so what was made small once is small wherever it stands.
-/

namespace ClassPurge.Text

/-! ### Runs of capital letters -/

namespace CaseRun

variable {r s : CaseRun} {n : Nat}

def lead (r : CaseRun) : Nat := (r.first + r.shift).toNat

def final (r : CaseRun) : Nat := (r.last + r.shift).toNat

/-- The code point is that of a capital letter of the run. -/
def Has (r : CaseRun) (n : Nat) : Prop := r.first ≤ n ∧ n ≤ r.last ∧ (n - r.first) % r.step = 0

instance (r : CaseRun) (n : Nat) : Decidable (r.Has n) := inferInstanceAs (Decidable (_ ∧ _))

/-- The small letters of `r` lie apart from the capital letters of `s`, or between them. -/
def apart (r s : CaseRun) : Bool :=
  r.final.blt s.first || s.last.blt r.lead ||
    (s.step == 2 && (r.step == 2 || r.first == r.last) && (r.lead + s.first) % 2 == 1)

/-- The small letters are characters, and outside ASCII unless there is only one. -/
def proper (r : CaseRun) : Bool :=
  0 ≤ r.first + r.shift && (r.final.blt 0xd800 || Nat.blt 0xdfff r.lead && r.final.blt 0x110000) &&
    (Nat.ble 128 r.lead || r.first == r.last)

lemma not_has_of_apart (hr : r.proper) (h : r.apart s) (hn : r.Has n) :
    ¬ s.Has (n + r.shift).toNat := by
  simp only [proper, apart, lead, final, Has, Bool.and_eq_true, Bool.or_eq_true, Nat.blt_eq,
    Nat.ble_eq, beq_iff_eq, decide_eq_true_eq] at hr h hn ⊢
  rintro ⟨hfirst, hlast, hstep⟩
  rcases h with (h | h) | ⟨⟨h2, hr2⟩, hodd⟩
  · omega
  · omega
  · rw [h2] at hstep
    rcases hr2 with hr2 | hr2
    · rw [hr2] at hn
      omega
    · omega

end CaseRun

/-- A capital letter outside ASCII has its small letter in its run; all else stays as it is. -/
lemma lowerChar_cases {c : Char} (hc : 128 ≤ c.toNat) :
    (lowerChar c = c ∧ ∀ s ∈ caseRuns, ¬ s.Has c.toNat) ∨
      ∃ r ∈ caseRuns, r.Has c.toNat ∧ lowerChar c = Char.ofNat (c.toNat + r.shift).toNat := by
  rw [lowerChar, if_neg (by omega)]
  split
  · rename_i r hfind
    have hin := List.find?_some hfind
    simp only [Bool.and_eq_true, decide_eq_true_eq, beq_iff_eq, and_assoc] at hin
    exact .inr ⟨r, List.mem_of_find?_eq_some hfind, hin, rfl⟩
  · rename_i hfind
    refine .inl ⟨rfl, fun s hs hin => ?_⟩
    have hnone := List.find?_eq_none.mp hfind s hs
    simp only [Bool.and_eq_true, decide_eq_true_eq, beq_iff_eq, and_assoc] at hnone
    exact hnone hin

lemma toNat_small {r : CaseRun} (hr : r.proper) {n : Nat} (hn : r.Has n) :
    (Char.ofNat (n + r.shift).toNat).toNat = (n + r.shift).toNat := by
  have hvalid : (n + r.shift).toNat.isValidChar := by
    simp only [CaseRun.proper, CaseRun.lead, CaseRun.final, CaseRun.Has, Bool.and_eq_true,
      Bool.or_eq_true, Nat.blt_eq, decide_eq_true_eq] at hr hn
    rw [Nat.isValidChar]
    omega
  rw [Char.ofNat, dif_pos hvalid]
  rfl

lemma proper_of_mem : ∀ r ∈ caseRuns, r.proper := by decide +kernel

lemma apart_of_mem {r s : CaseRun} (hr : r ∈ caseRuns) (hs : s ∈ caseRuns) : r.apart s := by
  have hall : (caseRuns.all fun r => caseRuns.all fun s => r.apart s) = true := by decide +kernel
  exact List.all_eq_true.mp (List.all_eq_true.mp hall r hr) s hs

/-- A character that stays as it is when a text is made small. -/
def IsSmall (c : Char) : Prop := lowerChar c = c ∧ c ≠ 'Σ' ∧ c ≠ 'İ'

instance (c : Char) : Decidable (IsSmall c) := inferInstanceAs (Decidable (_ ∧ _))

lemma isSmall_of_not_has {c : Char} (hc : 128 ≤ c.toNat) (h : ∀ s ∈ caseRuns, ¬ s.Has c.toNat) :
    IsSmall c := by
  refine ⟨?_, ?_, ?_⟩
  · rcases lowerChar_cases hc with ⟨hsame, -⟩ | ⟨r, hr, hin, -⟩
    · exact hsame
    · exact absurd hin (h r hr)
  · rintro rfl
    have hrun : ∃ r ∈ caseRuns, r.Has 'Σ'.toNat := by decide +kernel
    obtain ⟨r, hr, hin⟩ := hrun
    exact h r hr hin
  · rintro rfl
    have hrun : ∃ r ∈ caseRuns, r.Has 'İ'.toNat := by decide +kernel
    obtain ⟨r, hr, hin⟩ := hrun
    exact h r hr hin

/-- **A small letter is small.** -/
lemma isSmall_lowerChar (c : Char) : IsSmall (lowerChar c) := by
  by_cases hc : 128 ≤ c.toNat
  · rcases lowerChar_cases hc with ⟨hsame, hnone⟩ | ⟨r, hr, hin, hsmall⟩
    · rw [hsame]
      exact isSmall_of_not_has hc hnone
    · have hcode := toNat_small (proper_of_mem r hr) hin
      rw [hsmall]
      by_cases hm : 128 ≤ (c.toNat + r.shift).toNat
      · refine isSmall_of_not_has (by rwa [hcode]) fun s hs => ?_
        rw [hcode]
        exact CaseRun.not_has_of_apart (proper_of_mem r hr) (apart_of_mem hr hs) hin
      · -- The only small letters in ASCII are those of single capitals.
        have hlead : ∀ r ∈ caseRuns, r.lead < 128 → IsSmall (Char.ofNat r.lead) := by
          decide +kernel
        have hfirst : (c.toNat + r.shift).toNat = r.lead := by
          have hr := proper_of_mem r hr
          simp only [CaseRun.proper, CaseRun.lead, CaseRun.Has, Bool.and_eq_true, Bool.or_eq_true,
            Nat.ble_eq, beq_iff_eq, decide_eq_true_eq] at hr hin ⊢
          omega
        rw [hfirst] at hm ⊢
        exact hlead r hr (Nat.lt_of_not_le hm)
  · have hascii : ∀ n < 128, IsSmall (lowerChar (Char.ofNat n)) := by decide +kernel
    simpa using hascii c.toNat (Nat.lt_of_not_le hc)

/-! ### What small letters are not -/

/-- Where the small letters of capital letters lie, with other characters between them, and what
else capital letters become. -/
def smallRanges : Ranges :=
  (0x307, 0x307) :: (0x3c2, 0x3c2) :: (0x61, 0x7a) :: caseRuns.map fun r => (r.lead, r.final)

lemma lowerChar_eq_or (c : Char) : lowerChar c = c ∨ smallRanges.has (lowerChar c).toNat := by
  by_cases hc : 128 ≤ c.toNat
  · rcases lowerChar_cases hc with ⟨hsame, -⟩ | ⟨r, hr, hin, hsmall⟩
    · exact .inl hsame
    · have hproper := proper_of_mem r hr
      have hrange : r.lead ≤ (lowerChar c).toNat ∧ (lowerChar c).toNat ≤ r.final := by
        rw [hsmall, toNat_small hproper hin]
        simp only [CaseRun.proper, CaseRun.lead, CaseRun.final, CaseRun.Has, Bool.and_eq_true,
          decide_eq_true_eq] at hproper hin ⊢
        omega
      have hmem : (r.lead, r.final) ∈ smallRanges := by
        simp only [smallRanges, List.mem_cons]
        exact .inr (.inr (.inr (List.mem_map_of_mem hr)))
      exact .inr (List.any_eq_true.mpr ⟨_, hmem, by simpa using hrange⟩)
  · have hascii : ∀ n < 128, lowerChar (Char.ofNat n) = Char.ofNat n ∨
        smallRanges.has (lowerChar (Char.ofNat n)).toNat := by decide +kernel
    simpa using hascii c.toNat (Nat.lt_of_not_le hc)

/-! ### Texts -/

/-- What can come of a character: its small letter, or one that depends on the place. -/
inductive Lowers (c : Char) : Text → Prop
  | plain : Lowers c [lowerChar c]
  | atEnd : Lowers c ['ς']
  | dotted : Lowers c ['i', Char.ofNat 0x307]

section

variable {c x : Char} {s t : Text}

lemma Lowers.ne_nil (h : Lowers c s) : s ≠ [] := by
  cases h <;> simp

lemma Lowers.isSmall (h : Lowers c s) (hx : x ∈ s) : IsSmall x := by
  cases h with
  | plain => exact List.mem_singleton.mp hx ▸ isSmall_lowerChar c
  | atEnd =>
    have hall : ∀ x ∈ ['ς'], IsSmall x := List.forall_mem_singleton.mpr (by decide +kernel)
    exact hall x hx
  | dotted =>
    have hall : ∀ x ∈ ['i', Char.ofNat 0x307], IsSmall x :=
      List.forall_mem_cons.mpr
        ⟨by decide +kernel, List.forall_mem_singleton.mpr (by decide +kernel)⟩
    exact hall x hx

/-- Nothing comes of other characters that lies apart from all small letters. -/
lemma Lowers.not_has {bs : Ranges} (hbs : smallRanges.apart bs) (hc : ¬ bs.has c.toNat)
    (h : Lowers c s) (hx : x ∈ s) : ¬ bs.has x.toNat := by
  have hsmall (y : Char) (hy : smallRanges.has y.toNat) : ¬ bs.has y.toNat :=
    fun hin => Ranges.not_has_of_apart hbs hin hy
  cases h with
  | plain =>
    rw [List.mem_singleton.mp hx]
    rcases lowerChar_eq_or c with hsame | hin
    · rwa [hsame]
    · exact hsmall _ hin
  | atEnd =>
    have hall : ∀ x ∈ ['ς'], smallRanges.has x.toNat :=
      List.forall_mem_singleton.mpr (by decide +kernel)
    exact hsmall x (hall x hx)
  | dotted =>
    have hall : ∀ x ∈ ['i', Char.ofNat 0x307], smallRanges.has x.toNat :=
      List.forall_mem_cons.mpr
        ⟨by decide +kernel, List.forall_mem_singleton.mpr (by decide +kernel)⟩
    exact hsmall x (hall x hx)

lemma exists_lowerFrom_cons (before : Text) (c : Char) (t : Text) :
    ∃ s, Lowers c s ∧ lowerFrom before (c :: t) = s ++ lowerFrom (c :: before) t := by
  refine ⟨_, ?_, rfl⟩
  split_ifs with hsigma hend hdotted
  · exact .atEnd
  · have hsmall : lowerChar c = 'σ' := by
      rw [eq_of_beq hsigma]
      decide +kernel
    exact hsmall ▸ .plain
  · exact .dotted
  · exact .plain

lemma exists_lowerFrom_append (before t : Text) (c : Char) :
    ∃ s u, Lowers c s ∧ lowerFrom before (t ++ [c]) = u ++ s := by
  induction t generalizing before with
  | nil =>
    obtain ⟨s, hs, hcons⟩ := exists_lowerFrom_cons before c []
    exact ⟨s, [], hs, hcons.trans (List.append_nil s)⟩
  | cons d t ih =>
    obtain ⟨s, u, hs, hrest⟩ := ih (d :: before)
    obtain ⟨v, -, hcons⟩ := exists_lowerFrom_cons before d (t ++ [c])
    exact ⟨s, v ++ u, hs, by rw [List.cons_append, hcons, hrest, List.append_assoc]⟩

lemma exists_of_mem_lowerFrom (before : Text) (hx : x ∈ lowerFrom before t) :
    ∃ c ∈ t, ∃ s, Lowers c s ∧ x ∈ s := by
  induction t generalizing before with
  | nil => cases hx
  | cons c t ih =>
    obtain ⟨s, hs, hcons⟩ := exists_lowerFrom_cons before c t
    rw [hcons, List.mem_append] at hx
    rcases hx with hx | hx
    · exact ⟨c, List.mem_cons_self, s, hs, hx⟩
    · obtain ⟨d, hd, rest⟩ := ih (c :: before) hx
      exact ⟨d, List.mem_cons_of_mem c hd, rest⟩

lemma isSmall_of_mem_lower (hx : x ∈ lower t) : IsSmall x := by
  obtain ⟨c, -, s, hs, hxs⟩ := exists_of_mem_lowerFrom [] hx
  exact hs.isSmall hxs

/-- No dot comes of a text without dots, and one at most of a text that only begins with one. -/
lemma count_dot_lower_cons (hc : '.' ∉ t) : (lower ('.' :: t)).count '.' ≤ 1 := by
  have hdot : smallRanges.apart [('.'.toNat, '.'.toNat)] := by decide +kernel
  obtain ⟨s, hs, hcons⟩ := exists_lowerFrom_cons [] '.' t
  have hrest : '.' ∉ lowerFrom ['.'] t := by
    intro h
    obtain ⟨c, hct, u, hu, hxu⟩ := exists_of_mem_lowerFrom ['.'] h
    refine hu.not_has hdot (fun hin => hc ?_) hxu (by decide)
    have hcode : c.toNat = '.'.toNat := by
      simp only [Ranges.has, List.any_cons, List.any_nil, Bool.or_false, Bool.and_eq_true,
        decide_eq_true_eq] at hin
      omega
    rwa [← Char.ofNat_toNat c, hcode] at hct
  have hone : s.count '.' ≤ 1 := by
    cases hs with
    | plain => exact List.count_le_length
    | atEnd => decide
    | dotted => decide
  rw [lower, hcons, List.count_append, List.count_eq_zero_of_not_mem hrest]
  exact hone

lemma lower_of_isSmall (ht : ∀ c ∈ t, IsSmall c) : lower t = t := by
  have hfrom (before : Text) : lowerFrom before t = t := by
    induction t generalizing before with
    | nil => rfl
    | cons c t ih =>
      obtain ⟨⟨hc, hsigma, hdotted⟩, ht⟩ := List.forall_mem_cons.mp ht
      rw [lowerFrom, ih ht, if_neg (by simpa using hsigma), if_neg (by simpa using hdotted), hc]
      rfl
  exact hfrom []

lemma trimmed_lower (ht : Trimmed t) : Trimmed (lower t) := by
  have hblanks : smallRanges.apart blankRanges := by decide +kernel
  constructor
  · cases t with
    | nil => simp [lower, lowerFrom]
    | cons c t =>
      obtain ⟨s, hs, hcons⟩ := exists_lowerFrom_cons [] c t
      intro x hx
      rw [lower, hcons, List.head?_append_of_ne_nil s hs.ne_nil] at hx
      exact hs.not_has hblanks (ht.1 c rfl) (List.mem_of_mem_head? hx)
  · rcases t.eq_nil_or_concat with rfl | ⟨t, c, rfl⟩
    · simp [lower, lowerFrom]
    · rw [List.concat_eq_append] at ht ⊢
      obtain ⟨s, u, hs, happend⟩ := exists_lowerFrom_append [] t c
      intro x hx
      rw [lower, happend, List.getLast?_append_of_ne_nil u hs.ne_nil] at hx
      exact hs.not_has hblanks (ht.2 c (by simp)) (List.mem_of_getLast? hx)

end

end ClassPurge.Text
