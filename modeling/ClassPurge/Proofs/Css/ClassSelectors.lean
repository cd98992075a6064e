import ClassPurge.Proofs.Css.Names
import ClassPurge.Proofs.Text.Blanks

/-!
Selectors made of class names. Each name stands behind a dot, with backslashes before its special
characters, and between two of them blanks, combinators and commas may stand, or nothing at all. A
quote of a name opens no string, since every quote behind it stands behind a backslash. So the
classes of the selector are the names, whatever their characters.
-/

namespace ClassPurge.Css

/-- The characters that part two classes of a selector. -/
def isSeparator (x : Char) : Bool :=
  Text.isBlank x || x == '>' || x == '+' || x == '~' || x == ','

/-- Blanks, combinators and commas, and nothing else. -/
def Separators (sep : Text) : Prop := ∀ x ∈ sep, isSeparator x

instance (sep : Text) : Decidable (Separators sep) := List.decidableBAll _ sep

@[simp] lemma separators_nil : Separators [] := by simp [Separators]

/-- The classes one behind the other, each with what parts it from the one before. -/
def spellClasses (cs : List (Text × Text)) : Text :=
  cs.flatMap fun (sep, name) => sep ++ '.' :: escape name

@[simp] lemma spellClasses_nil : spellClasses [] = [] := rfl

lemma spellClasses_cons (sep name : Text) (cs : List (Text × Text)) :
    spellClasses ((sep, name) :: cs) = sep ++ '.' :: (escape name ++ spellClasses cs) := by
  simp [spellClasses]

/-! ### Separators -/

lemma separates_of_isSeparator {x : Char} (h : isSeparator x) : Separates x := by
  simp only [isSeparator, Bool.or_eq_true, beq_iff_eq] at h
  rcases h with (((h | rfl) | rfl) | rfl) | rfl
  · refine ⟨fun hn => Text.not_isBlank_of_isName hn h, ?_, ?_⟩
    · rintro rfl
      exact absurd h (by decide)
    · rintro rfl
      exact absurd h (by decide)
  all_goals exact ⟨by decide, by decide, by decide⟩

lemma not_isQuote_of_isSeparator {x : Char} (h : isSeparator x) : ¬ isQuote x := by
  intro hq
  rcases isQuote_iff.mp hq with rfl | rfl
  · exact absurd h (by decide)
  · exact absurd h (by decide)

/-! ### No quote of a name closes a string -/

lemma afterString?_skip {q c : Char} (hs : c ≠ '\\') (hc : c ≠ q) (r : Text) :
    afterString? q (c :: r) = afterString? q r := by
  rw [afterString?_cons hs, if_neg (by simpa using hc)]

/-- A name cannot close a string that was opened before it. -/
lemma afterString?_escape {q : Char} (hq : isQuote q) (name r : Text) :
    afterString? q (escape name ++ r) = afterString? q r := by
  induction name with
  | nil => rfl
  | cons x name ih =>
    rw [escape_cons, List.append_assoc, escapeChar]
    split
    · rename_i hx
      have hne : x ≠ q := by
        rintro rfl
        rcases isQuote_iff.mp hq with rfl | rfl
        · exact absurd hx (by decide)
        · exact absurd hx (by decide)
      rw [List.singleton_append, afterString?_skip (ne_backslash_of_isBare hx) hne, ih]
    · rw [List.cons_append, List.singleton_append, afterString?.eq_3, ih]

/-- No string closes in the text, of whichever quote. -/
def ClosesNone (t : Text) : Prop := ∀ q, isQuote q → afterString? q t = none

lemma closesNone_nil : ClosesNone [] := fun q _ => afterString?.eq_1 q

lemma ClosesNone.escape_append {t : Text} (h : ClosesNone t) (name : Text) :
    ClosesNone (escape name ++ t) := fun q hq => by rw [afterString?_escape hq, h q hq]

lemma ClosesNone.cons {t : Text} (h : ClosesNone t) {c : Char} (hs : c ≠ '\\') (hq : ¬ isQuote c) :
    ClosesNone (c :: t) := fun q hquote => by
  rw [afterString?_skip hs (fun hc => hq (hc ▸ hquote)), h q hquote]

lemma ClosesNone.append {u t : Text} (h : ClosesNone t)
    (hu : ∀ x ∈ u, x ≠ '\\' ∧ ¬ isQuote x) : ClosesNone (u ++ t) := by
  induction u with
  | nil => exact h
  | cons c u ih =>
    obtain ⟨hc, hu⟩ := List.forall_mem_cons.mp hu
    exact (ih hu).cons hc.1 hc.2

/-- Before such a text a quote is an ordinary character. -/
lemma ClosesNone.blankStrings_cons {t : Text} (h : ClosesNone t) (c : Char) :
    blankStrings (c :: t) = c :: blankStrings t := by
  rw [blankStrings.eq_2]
  split
  · rename_i hq
    split
    · rename_i hr
      rw [h c hq] at hr
      cases hr
    · rfl
  · rfl

lemma ClosesNone.blankStrings_escape {t : Text} (h : ClosesNone t) (name : Text) :
    blankStrings (escape name ++ t) = escape name ++ blankStrings t := by
  induction name with
  | nil => rfl
  | cons x name ih =>
    have hrest := h.escape_append name
    rw [escape_cons, List.append_assoc, escapeChar]
    split
    · rw [List.singleton_append, hrest.blankStrings_cons, ih]
      rfl
    · -- the backslash may stand before a quote, but what follows closes no string
      have hpair : ¬ isQuote '\\' := by decide
      rw [List.cons_append, List.singleton_append, blankStrings.eq_2, if_neg hpair,
        hrest.blankStrings_cons, ih]
      rfl

lemma ClosesNone.blankStrings_append {u t : Text} (h : ClosesNone t)
    (hu : ∀ x ∈ u, x ≠ '\\' ∧ ¬ isQuote x) :
    blankStrings (u ++ t) = u ++ blankStrings t := by
  induction u with
  | nil => rfl
  | cons c u ih =>
    have hu' := (List.forall_mem_cons.mp hu).2
    rw [List.cons_append, (h.append hu').blankStrings_cons, ih hu', List.cons_append]

/-! ### The classes of the selector -/

variable {cs : List (Text × Text)}

lemma plain_separator {sep : Text} (h : Separators sep) :
    ∀ x ∈ sep, x ≠ '\\' ∧ ¬ isQuote x := fun x hx =>
  ⟨(separates_of_isSeparator (h x hx)).notBackslash, not_isQuote_of_isSeparator (h x hx)⟩

lemma blankStrings_spellClasses (hs : ∀ c ∈ cs, Separators c.1) :
    ClosesNone (spellClasses cs) ∧ blankStrings (spellClasses cs) = spellClasses cs := by
  induction cs with
  | nil => exact ⟨closesNone_nil, blankStrings.eq_1⟩
  | cons c cs ih =>
    obtain ⟨sep, name⟩ := c
    obtain ⟨hsep, hs⟩ := List.forall_mem_cons.mp hs
    obtain ⟨hnone, hblank⟩ := ih hs
    have hname := hnone.escape_append name
    have hdot := hname.cons (c := '.') (by decide) (by decide)
    rw [spellClasses_cons]
    refine ⟨hdot.append (plain_separator hsep), ?_⟩
    rw [hdot.blankStrings_append (plain_separator hsep), hname.blankStrings_cons,
      hnone.blankStrings_escape, hblank]

/-- A name ends where the next class begins. -/
lemma nameRest_spellClasses (hs : ∀ c ∈ cs, Separators c.1) :
    nameRest (spellClasses cs) = ([], spellClasses cs) := by
  cases cs with
  | nil => exact nameRest.eq_1
  | cons c cs =>
    obtain ⟨sep, name⟩ := c
    rw [spellClasses_cons]
    cases sep with
    | nil => exact nameRest_of_not_isName (by decide) (by decide) _
    | cons x sep =>
      have hx : isSeparator x := hs (x :: sep, name) List.mem_cons_self x List.mem_cons_self
      exact (separates_of_isSeparator hx).nameRest _

lemma classesIn_separators {sep : Text} (h : Separators sep) (t : Text) :
    classesIn (sep ++ t) = classesIn t := by
  induction sep with
  | nil => rfl
  | cons x sep ih =>
    obtain ⟨hx, h⟩ := List.forall_mem_cons.mp h
    rw [List.cons_append, (separates_of_isSeparator hx).classesIn_cons, ih h]

/-- **The names are read one behind the other**, with their repetitions. -/
lemma classesIn_spellClasses (hn : ∀ c ∈ cs, StartsName c.2)
    (hs : ∀ c ∈ cs, Separators c.1) :
    classesIn (spellClasses cs) = cs.map Prod.snd := by
  induction cs with
  | nil => exact classesIn.eq_1
  | cons c cs ih =>
    obtain ⟨sep, name⟩ := c
    obtain ⟨hname, hn⟩ := List.forall_mem_cons.mp hn
    obtain ⟨hsep, hs⟩ := List.forall_mem_cons.mp hs
    have hread := className?_escape hname.readably (nameRest_spellClasses hs)
    rw [spellClasses_cons, classesIn_separators hsep, classesIn_dot hread, ih hn hs, List.map_cons]

lemma blankStrings_escape (name : Text) : blankStrings (escape name) = escape name := by
  have h := closesNone_nil.blankStrings_escape name
  rwa [blankStrings.eq_1, List.append_nil] at h

lemma selectorClasses_readable {name : Text} (hn : StartsReadably name) :
    selectorClasses ('.' :: escape name) = [name] := by
  rw [selectorClasses, blankStrings.eq_2, if_neg (by decide), blankStrings_escape,
    classesIn_dot (className?_escape_end hn), classesIn.eq_1]
  rfl

lemma selectorClasses_escape {name : Text} (hn : StartsName name) :
    selectorClasses ('.' :: escape name) = [name] := selectorClasses_readable hn.readably

/-- **The names come back from the selector that spells them**, each once, in the order in which
they are first met. -/
theorem selectorClasses_spellClasses {name : Text} {others : List (Text × Text)}
    (hn : ∀ n ∈ name :: others.map Prod.snd, StartsName n)
    (hs : ∀ sep ∈ others.map Prod.fst, Separators sep) :
    selectorClasses (spellClasses (([], name) :: others)) =
      (name :: others.map Prod.snd).eraseDups := by
  have hnames : ∀ c ∈ ([], name) :: others, StartsName c.2 := by
    refine List.forall_mem_cons.mpr ⟨hn name List.mem_cons_self, fun c hc => ?_⟩
    exact hn c.2 (List.mem_cons_of_mem _ (List.mem_map_of_mem hc))
  have hseps : ∀ c ∈ ([], name) :: others, Separators c.1 := by
    refine List.forall_mem_cons.mpr ⟨by simp, fun c hc => ?_⟩
    exact hs c.1 (List.mem_map_of_mem hc)
  rw [selectorClasses, (blankStrings_spellClasses hseps).2, classesIn_spellClasses hnames hseps]
  rfl

/-- Two names with quotes, one of them twice, and one with a hyphen in front, a line end and a
backslash at its end. -/
theorem selectorClasses_spellClasses_quotes :
    let quoted : Text := ['a', '"', '{']
    let broken : Text := ['-', '_', '\n', '\'', '\\']
    let others : List (Text × Text) := [([' ', '>', ' '], broken), ([], quoted)]
    (∀ n ∈ quoted :: others.map Prod.snd, StartsName n) ∧
      (∀ sep ∈ others.map Prod.fst, Separators sep) ∧
      selectorClasses (spellClasses (([], quoted) :: others)) = [quoted, broken] := by
  intro quoted broken others
  have hquoted : StartsName quoted := ⟨'a', _, by decide, .inl rfl⟩
  have hbroken : StartsName broken := ⟨'_', _, by decide, .inr rfl⟩
  have hn : ∀ n ∈ quoted :: others.map Prod.snd, StartsName n := by
    simp [others, hquoted, hbroken]
  have hs : ∀ sep ∈ others.map Prod.fst, Separators sep := by decide
  exact ⟨hn, hs, selectorClasses_spellClasses hn hs⟩

end ClassPurge.Css
