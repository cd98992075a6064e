import ClassPurge.Proofs.Css.Branches
import ClassPurge.Proofs.Css.ClassSelectors
import ClassPurge.Proofs.Retention

/-!
Names that begin with a digit. No identifier begins with one, and behind a backslash a digit stands
for a code; so a selector spells it by its own code, in hexadecimal digits that a space ends. But
what is read behind a backslash is one character, and the space ends the name. So such a name is
not read back, and that it is used keeps no rule.
-/

namespace ClassPurge.Css

/-- The code of the character behind a backslash, and the space that ends it. -/
def hexEscape (x : Char) : Text := '\\' :: (Nat.toDigits 16 x.toNat ++ [' '])

def serializeCore : Text → Text
  | [] => []
  | x :: r => (if x.isDigit then hexEscape x else escapeChar x) ++ escape r

/-- The name as an identifier: a digit that it begins with, behind a hyphen if it has one, is
spelled by its code. -/
def serialize : Text → Text
  | '-' :: r => '-' :: serializeCore r
  | t => serializeCore t

/-- The name begins readably, or its spelling is misread as the name itself. -/
def ReadsBack (name : Text) : Prop :=
  StartsReadably name ∨ name = ['3', '3'] ∨ name = ['-', '3', '3']

/-- The name begins with the digit, behind the hyphen `h` if there is one. -/
structure StartsWithDigit (name h : Text) (d : Char) (r : Text) : Prop where
  eq : name = h ++ d :: r
  hyphen : h = [] ∨ h = ['-']
  digit : d.isDigit

/-! ### Spelling -/

lemma hexEscape_of_isDigit {d : Char} (h : d.isDigit) : hexEscape d = ['\\', '3', d, ' '] := by
  have hall : ∀ n ∈ List.range' 48 10,
      hexEscape (Char.ofNat n) = ['\\', '3', Char.ofNat n, ' '] := by decide +kernel
  have hbounds := toNat_of_isDigit h
  rw [← Char.ofNat_toNat d]
  exact hall _ (List.mem_range'_1.mpr (by omega))

lemma serialize_hyphen (r : Text) : serialize ('-' :: r) = '-' :: serializeCore r := rfl

lemma serialize_of_ne {x : Char} (hx : x ≠ '-') (r : Text) :
    serialize (x :: r) = serializeCore (x :: r) :=
  serialize.eq_2 _ fun _ he => hx (List.cons.inj he).1

lemma serializeCore_escape {x : Char} (hx : ¬ x.isDigit) (r : Text) :
    serializeCore (x :: r) = escape (x :: r) := by
  rw [serializeCore, if_neg hx, escape_cons]

lemma serializeCore_digit {d : Char} (hd : d.isDigit) (r : Text) :
    serializeCore (d :: r) = ['\\', '3', d, ' '] ++ escape r := by
  rw [serializeCore, if_pos hd, hexEscape_of_isDigit hd]

lemma ne_hyphen_of_isDigit {d : Char} (hd : d.isDigit) : d ≠ '-' := by
  rintro rfl
  exact absurd hd (by decide)

lemma StartsWithDigit.serialize_eq {name h r : Text} {d : Char} (hn : StartsWithDigit name h d r) :
    serialize name = h ++ (['\\', '3', d, ' '] ++ escape r) := by
  obtain ⟨rfl, rfl | rfl, hd⟩ := hn
  · rw [List.nil_append, serialize_of_ne (ne_hyphen_of_isDigit hd), serializeCore_digit hd]
    rfl
  · rw [List.singleton_append, serialize_hyphen, serializeCore_digit hd]
    rfl

lemma serialize_cases (name : Text) :
    serialize name = escape name ∨ ∃ h d r, StartsWithDigit name h d r := by
  cases name with
  | nil => exact .inl rfl
  | cons x r =>
    by_cases hd : x.isDigit
    · exact .inr ⟨[], x, r, rfl, .inl rfl, hd⟩
    by_cases hx : x = '-'
    · subst hx
      cases r with
      | nil => exact .inl rfl
      | cons y s =>
        by_cases hy : y.isDigit
        · exact .inr ⟨['-'], y, s, rfl, .inr rfl, hy⟩
        · exact .inl (by rw [serialize_hyphen, serializeCore_escape hy, ← escape_hyphen])
    · exact .inl (by rw [serialize_of_ne hx, serializeCore_escape hd])

lemma StartsWithDigit.not_startsReadably {name h r : Text} {d : Char}
    (hn : StartsWithDigit name h d r) : ¬ StartsReadably name := by
  have hdigit : ¬ isReadableStart d := by simp [isReadableStart, hn.digit]
  have hhyphen : ¬ isReadableStart '-' := by decide
  rintro ⟨x, t, hx, ht⟩
  obtain ⟨rfl, rfl | rfl, hd⟩ := hn
  · rcases ht with ht | ht
    · exact hdigit ((List.cons.inj ht).1 ▸ hx)
    · exact ne_hyphen_of_isDigit hd (List.cons.inj ht).1
  · rcases ht with ht | ht
    · exact hhyphen ((List.cons.inj ht).1 ▸ hx)
    · exact hdigit ((List.cons.inj (List.cons.inj ht).2).1 ▸ hx)

lemma serialize_of_startsReadably {name : Text} (hn : StartsReadably name) :
    serialize name = escape name := by
  rcases serialize_cases name with h | ⟨_, _, _, hdigit⟩
  · exact h
  · exact absurd hn hdigit.not_startsReadably

/-! ### Reading -/

lemma nameCore?_escape_eq_none {x : Char} (hx : ¬ isReadableStart x) (r : Text) :
    nameCore? (escape (x :: r)) = none := by
  have hcases : x.isDigit ∨ x = '-' := by
    simpa [isReadableStart, or_iff_not_imp_left] using hx
  have hb : isBare x := by
    rcases hcases with hd | rfl
    · simp [isBare, Char.isAlphanum, hd]
    · decide
  rw [escape_cons, escapeChar, if_pos hb, List.singleton_append,
    nameCore?.eq_2 x _ fun _ _ h => absurd h (ne_backslash_of_isBare hb),
    if_neg fun h => hx (isReadableStart_of_isNameStart h)]

lemma className?_escape_eq_none {name : Text} (h : ¬ StartsReadably name) :
    className? (escape name) = none := by
  cases name with
  | nil => rfl
  | cons x r =>
    have hx : ¬ isReadableStart x := fun hx => h ⟨x, r, hx, .inl rfl⟩
    by_cases hhyphen : x = '-'
    · subst hhyphen
      have hcore : nameCore? (escape r) = none := by
        cases r with
        | nil => rfl
        | cons y s => exact nameCore?_escape_eq_none (fun hy => h ⟨y, s, hy, .inr rfl⟩) s
      rw [escape_hyphen, className?.eq_1, hcore]
      rfl
    · have hhead := head?_escape_ne_hyphen hhyphen r []
      rw [List.append_nil] at hhead
      rw [className?_of_head? hhead, nameCore?_escape_eq_none hx]

/-- What is read inside a spelling stands behind a dot of the name. -/
lemma length_lt_of_mem_classesIn_escape {w name : Text} (h : w ∈ classesIn (escape name)) :
    w.length < name.length := by
  induction name with
  | nil => simp [classesIn.eq_1] at h
  | cons x r ih =>
    have hrest (hw : w ∈ classesIn (escape r)) : w.length < (x :: r).length :=
      (ih hw).trans (Nat.lt_succ_self _)
    by_cases hx : x = '.'
    · subst hx
      rw [escape_cons, escapeChar, if_neg (by decide), List.cons_append, List.singleton_append,
        classesIn_skip fun hc => absurd hc (by decide)] at h
      by_cases hr : StartsReadably r
      · rw [classesIn_dot (className?_escape_end hr), classesIn.eq_1, List.mem_singleton] at h
        simp [h]
      · rw [classesIn_skip fun _ => className?_escape_eq_none hr] at h
        exact hrest h
    · refine hrest ?_
      rw [escape_cons, escapeChar] at h
      split at h
      · rwa [List.singleton_append, classesIn_skip fun hc => absurd hc hx] at h
      · rwa [List.cons_append, List.singleton_append, classesIn_skip fun hc => absurd hc (by decide),
          classesIn_skip fun hc => absurd hc hx] at h

/-- A name that does not begin readably is no class of the selector that spells it without codes. -/
lemma not_mem_selectorClasses_escape {name : Text} (h : ¬ StartsReadably name) :
    name ∉ selectorClasses ('.' :: escape name) := by
  rw [selectorClasses, blankStrings_char (by decide), blankStrings_escape,
    classesIn_skip fun _ => className?_escape_eq_none h, List.mem_eraseDups]
  exact fun hw => absurd (length_lt_of_mem_classesIn_escape hw) (lt_irrefl _)

section

variable {name h r : Text} {d : Char}

lemma StartsWithDigit.blankStrings_eq (hn : StartsWithDigit name h d r) :
    blankStrings ('.' :: serialize name) = '.' :: serialize name := by
  have hquote : ¬ isQuote d := by
    intro hq
    rcases isQuote_iff.mp hq with rfl | rfl
    · exact absurd hn.digit (by decide)
    · exact absurd hn.digit (by decide)
  have htail : blankStrings (d :: ' ' :: escape r) = d :: ' ' :: escape r := by
    rw [blankStrings_char hquote, blankStrings_char (by decide), blankStrings_escape]
  rw [hn.serialize_eq]
  rcases hn.hyphen with rfl | rfl
  · simp [blankStrings_char, isQuote, htail]
  · simp [blankStrings_char, isQuote, htail]

/-- **Of the code only the first digit is read**, and the digit that stands behind it. -/
lemma StartsWithDigit.className?_eq (hn : StartsWithDigit name h d r) :
    className? (serialize name) = some (h ++ ['3', d], ' ' :: escape r) := by
  have hspace : Separates ' ' := separates_of_isSeparator (by decide)
  have hbare : isBare d := by simp [isBare, Char.isAlphanum, hn.digit]
  have hrest : nameRest (d :: ' ' :: escape r) = ([d], ' ' :: escape r) := by
    rw [nameRest_name (ne_backslash_of_isBare hbare) (isName_of_isBare hbare), hspace.nameRest]
  rw [hn.serialize_eq]
  rcases hn.hyphen with rfl | rfl
  · simp [className?, nameCore?, hrest]
  · simp [className?, nameCore?, hrest]

lemma StartsWithDigit.selectorClasses_eq (hn : StartsWithDigit name h d r) :
    selectorClasses ('.' :: serialize name) =
      ((h ++ ['3', d]) :: classesIn (escape r)).eraseDups := by
  have hspace : Separates ' ' := separates_of_isSeparator (by decide)
  rw [selectorClasses, hn.blankStrings_eq, classesIn_dot hn.className?_eq, hspace.classesIn_cons]

end

lemma selectorClasses_serialize {name : Text} (hn : ReadsBack name) :
    selectorClasses ('.' :: serialize name) = [name] := by
  rcases hn with hn | rfl | rfl
  · rw [serialize_of_startsReadably hn, selectorClasses_readable hn]
  · decide +kernel
  · decide +kernel

lemma readsBack_of_mem {name : Text} (h : name ∈ selectorClasses ('.' :: serialize name)) :
    ReadsBack name := by
  rcases serialize_cases name with hs | ⟨p, d, r, hn⟩
  · rw [hs] at h
    exact .inl (by_contra fun hr => not_mem_selectorClasses_escape hr h)
  · rw [hn.selectorClasses_eq, List.mem_eraseDups, List.mem_cons] at h
    rcases h with h | h
    · -- the code is misread as the name itself
      obtain ⟨rfl, hp, -⟩ := hn
      obtain ⟨rfl, rfl⟩ : d = '3' ∧ r = [d] := by simpa using h
      rcases hp with rfl | rfl
      · exact .inr (.inl rfl)
      · exact .inr (.inr rfl)
    · have hshort := length_lt_of_mem_classesIn_escape h
      rw [hn.eq, List.length_append, List.length_cons] at hshort
      omega

end ClassPurge.Css

namespace ClassPurge.Config

open Css

/-- **A name is read back from its spelling exactly if it begins readably**, but for `33` and `-33`,
which their misread codes yield. Then its use keeps the rule of the selector that spells it; for
every other name it makes no difference to that rule. -/
theorem keeps_serialize (name : Text) :
    (selectorClasses ('.' :: serialize name) = [name] ↔ ReadsBack name) ∧
    (∀ h d r, StartsWithDigit name h d r →
      (selectorClasses ('.' :: serialize name)).head? = some (h ++ ['3', d])) ∧
    ∀ (c : Config) (used : TextSet) (rule : Rule), rule.selector = '.' :: serialize name →
      (ReadsBack name → (c.keeps used rule = true ↔
        ¬ c.Overrules rule ∧ c.isWanted used name = true)) ∧
      (¬ ReadsBack name → c.keeps (used.insert name) rule = c.keeps used rule) := by
  refine ⟨⟨fun h => readsBack_of_mem (by rw [h]; exact List.mem_singleton_self name),
    selectorClasses_serialize⟩, fun h d r hn => ?_, fun c used rule hrule => ⟨fun hn => ?_,
    fun hn => ?_⟩⟩
  · rw [hn.selectorClasses_eq, List.eraseDups_cons]
    rfl
  · have hat : rule.isAt = false := by rw [Rule.isAt, hrule]; rfl
    have hclasses : selectorClasses rule.selector = [name] := by
      rw [hrule, selectorClasses_serialize hn]
    have hmem : name ∈ selectorClasses rule.selector := by simp [hclasses]
    rw [keeps_iff hat hmem, hclasses]
    simp
  · refine keeps_congr ⟨rfl, rfl, rfl⟩ (fun w hw => ?_) fun w _ => Iff.rfl
    have hne : w ≠ name := by
      rintro rfl
      rw [hrule] at hw
      exact hn (readsBack_of_mem hw)
    simp only [isWanted_iff, TextSet.mem_insert, hne, false_or]

/-- A name that begins with an escaped letter, and one that begins with a digit behind a hyphen. -/
theorem keeps_serialize_two :
    let read : Text := "é:w-1/2".toList
    let misread : Text := "-2m.b".toList
    let used : TextSet := TextSet.ofList [read]
    let r : Rule := ⟨'.' :: serialize read, [], 0, 14, true, false⟩
    let s : Rule := ⟨'.' :: serialize misread, [], 0, 14, true, false⟩
    ReadsBack read ∧ selectorClasses r.selector = [read] ∧ Config.default.keeps used r = true ∧
      StartsWithDigit misread ['-'] '2' "m.b".toList ∧ ¬ ReadsBack misread ∧
      (selectorClasses s.selector).head? = some ['-', '3', '2'] ∧
      Config.default.keeps (used.insert misread) s = Config.default.keeps used s := by
  intro read misread used r s
  have hread : ReadsBack read := .inl ⟨'é', _, by decide, .inl rfl⟩
  have hdigit : StartsWithDigit misread ['-'] '2' "m.b".toList := ⟨rfl, .inr rfl, by decide⟩
  obtain ⟨hiff, -, hkeeps⟩ := keeps_serialize read
  obtain ⟨hmisread, hhead, hsame⟩ := keeps_serialize misread
  have hnot : ¬ ReadsBack misread := fun h => absurd (hmisread.mpr h) (by decide +kernel)
  have hstays : Config.default.keeps used r = true :=
    ((hkeeps Config.default used r rfl).1 hread).mpr ⟨by decide +kernel, by decide +kernel⟩
  exact ⟨hread, hiff.mpr hread, hstays, hdigit, hnot, hhead _ _ _ hdigit,
    (hsame Config.default used s rfl).2 hnot⟩

/-- **The code of a digit is not decoded**: the class that begins with `2` is read as `32`, and its
rule goes though the class is used. -/
theorem hex_escape_misread :
    let name : Text := "2xl:p-4".toList
    let r : Rule := ⟨'.' :: serialize name, [], 0, 16, true, false⟩
    r.selector = ".\\32 xl\\:p-4".toList ∧ selectorClasses r.selector = [['3', '2']] ∧
      ¬ Config.default.Overrules r ∧
      Config.default.keeps (TextSet.ofList [name]) r = false := by
  decide +kernel

end ClassPurge.Config
