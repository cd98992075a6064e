import ClassPurge.Css.Selector
import ClassPurge.Proofs.Css.Joining
import ClassPurge.Proofs.Text.Digits

/-!
Class names as a selector spells them: a backslash goes before every character that is no letter
or digit of ASCII, no underscore and no hyphen. What is read behind the dot is the name.
-/

namespace ClassPurge.Css

/-- The characters that a selector may have in a name as they are. -/
def isBare (x : Char) : Bool := x.isAlphanum || x == '_' || x == '-'

def escapeChar (x : Char) : Text := if isBare x then [x] else ['\\', x]

/-- The name as a selector spells it. -/
def escape (name : Text) : Text := name.flatMap escapeChar

/-- The name begins with a letter or an underscore, behind a hyphen if it has one. -/
def StartsName (name : Text) : Prop :=
  ∃ x r, isNameStart x ∧ (name = x :: r ∨ name = '-' :: x :: r)

/-- The characters, escaped or not, that a name is read from. -/
def isReadableStart (x : Char) : Bool := !x.isDigit && x != '-'

/-- The name begins with neither a digit nor a hyphen, behind a hyphen if it has one. -/
def StartsReadably (name : Text) : Prop :=
  ∃ x r, isReadableStart x ∧ (name = x :: r ∨ name = '-' :: x :: r)

@[simp] lemma escape_nil : escape [] = [] := rfl

lemma escape_cons (x : Char) (r : Text) : escape (x :: r) = escapeChar x ++ escape r := rfl

lemma escape_hyphen (r : Text) : escape ('-' :: r) = '-' :: escape r := rfl

lemma toNat_lt_of_isAlphanum {x : Char} (h : x.isAlphanum) : x.toNat < 128 := by
  rcases Bool.or_eq_true_iff.mp h with h | h
  · have hbounds := toNat_of_isAlpha h
    omega
  · have hbounds := toNat_of_isDigit h
    omega

lemma isName_of_isBare {x : Char} (h : isBare x) : Text.isName x := by
  simp only [isBare, Bool.or_eq_true, beq_iff_eq] at h
  rcases h with (h | rfl) | rfl
  · simp [Text.isName, Text.isWord_of_isAlphanum (toNat_lt_of_isAlphanum h) h]
  · decide
  · decide

lemma isBare_of_isNameStart {x : Char} (h : isNameStart x) : isBare x := by
  simp only [isNameStart, Bool.or_eq_true, beq_iff_eq] at h
  rcases h with h | rfl
  · simp [isBare, Char.isAlphanum, h]
  · decide

lemma ne_backslash_of_isBare {x : Char} (h : isBare x) : x ≠ '\\' := by
  rintro rfl
  exact absurd h (by decide)

lemma nameRest_name {x : Char} (hx : x ≠ '\\') (hn : Text.isName x) (t : Text) :
    nameRest (x :: t) = (x :: (nameRest t).1, (nameRest t).2) := by
  rw [nameRest.eq_4 x t (fun h => absurd h hx) (fun _ _ h => absurd h hx), if_pos hn]

lemma nameRest_escape {r : Text} (hr : nameRest r = ([], r)) (name : Text) :
    nameRest (escape name ++ r) = (name, r) := by
  induction name with
  | nil => exact hr
  | cons x name ih =>
    rw [escape_cons, List.append_assoc, escapeChar]
    split
    · rename_i hx
      rw [List.singleton_append, nameRest_name (ne_backslash_of_isBare hx) (isName_of_isBare hx),
        ih]
    · rw [List.cons_append, List.singleton_append, nameRest.eq_3, ih]

lemma isNameStart_of_isReadableStart {x : Char} (hx : isReadableStart x) (hb : isBare x) :
    isNameStart x := by
  simp only [isReadableStart, Bool.and_eq_true, Bool.not_eq_true', bne_iff_ne] at hx
  simpa [isBare, isNameStart, Char.isAlphanum, hx.1, hx.2] using hb

lemma isReadableStart_of_isNameStart {x : Char} (h : isNameStart x) : isReadableStart x := by
  simp only [isNameStart, Bool.or_eq_true, beq_iff_eq] at h
  rcases h with h | rfl
  · refine Bool.and_eq_true_iff.mpr ⟨?_, bne_iff_ne.mpr ?_⟩
    · simpa using not_isDigit_of_isAlpha h
    · rintro rfl
      exact absurd h (by decide)
  · decide

lemma StartsName.readably {name : Text} (h : StartsName name) : StartsReadably name := by
  obtain ⟨x, r, hx, hname⟩ := h
  exact ⟨x, r, isReadableStart_of_isNameStart hx, hname⟩

lemma nameCore?_escape {r : Text} (hr : nameRest r = ([], r)) {x : Char}
    (hx : isReadableStart x) (name : Text) :
    nameCore? (escape (x :: name) ++ r) = some (x :: name, r) := by
  rw [escape_cons, List.append_assoc, escapeChar]
  split
  · rename_i hb
    have hne := ne_backslash_of_isBare hb
    rw [List.singleton_append, nameCore?.eq_2 x _ (fun _ _ h => absurd h hne),
      if_pos (isNameStart_of_isReadableStart hx hb), nameRest_escape hr]
  · rw [List.cons_append, List.singleton_append, nameCore?.eq_1, nameRest_escape hr]

lemma head?_escape_ne_hyphen {x : Char} (hx : x ≠ '-') (name r : Text) :
    (escape (x :: name) ++ r).head? ≠ some '-' := by
  rw [escape_cons, escapeChar]
  split
  · simpa using hx
  · simp

lemma className?_of_head? {t : Text} (h : t.head? ≠ some '-') : className? t = nameCore? t :=
  className?.eq_2 t fun _ he => h (by rw [he]; rfl)

lemma className?_escape_hyphen (name r : Text) : className? (escape ('-' :: name) ++ r) =
    (nameCore? (escape name ++ r)).map fun (n, s) => ('-' :: n, s) := by
  rw [escape_hyphen, List.cons_append, className?.eq_1]

/-- **A name is read back behind the dot**, whatever its characters. -/
theorem className?_escape {name r : Text} (hn : StartsReadably name) (hr : nameRest r = ([], r)) :
    className? (escape name ++ r) = some (name, r) := by
  obtain ⟨x, t, hx, rfl | rfl⟩ := hn
  · have hne : x ≠ '-' := by
      rintro rfl
      exact absurd hx (by decide)
    rw [className?_of_head? (head?_escape_ne_hyphen hne t r), nameCore?_escape hr hx]
  · rw [className?_escape_hyphen, nameCore?_escape hr hx]
    rfl

lemma className?_escape_end {name : Text} (hn : StartsReadably name) :
    className? (escape name) = some (name, []) := by
  simpa using className?_escape hn nameRest.eq_1

lemma mem_escape {x : Char} {name : Text} (h : x ∈ escape name) : x = '\\' ∨ x ∈ name := by
  obtain ⟨y, hy, hx⟩ := List.mem_flatMap.mp h
  rw [escapeChar] at hx
  split at hx
  · rw [List.mem_singleton] at hx
    exact .inr (hx ▸ hy)
  · rcases List.mem_cons.mp hx with rfl | hx
    · exact .inl rfl
    · rw [List.mem_singleton] at hx
      exact .inr (hx ▸ hy)

lemma getLast?_escape (name : Text) : (escape name).getLast? = name.getLast? := by
  induction name with
  | nil => rfl
  | cons x name ih =>
    have hx : (escapeChar x).getLast? = some x := by
      rw [escapeChar]
      split <;> rfl
    rw [escape_cons, List.getLast?_append, ih, hx, List.getLast?_cons]
    cases name.getLast? <;> rfl

lemma head?_escape_ne_star (name : Text) : (escape name).head? ≠ some '*' := by
  cases name with
  | nil => simp
  | cons x name =>
    rw [escape_cons, escapeChar]
    split
    · rename_i hx
      rw [List.singleton_append, List.head?_cons, ne_eq, Option.some.injEq]
      rintro rfl
      exact absurd hx (by decide)
    · rw [List.cons_append, List.head?_cons]
      decide

/-- A star is written behind a backslash, so no comment begins inside a name. -/
lemma not_commentMark_escape (name : Text) : ¬ commentMark <:+: escape name := by
  induction name with
  | nil => simp [commentMark]
  | cons x name ih =>
    have hstar := head?_escape_ne_star name
    rw [escape_cons, escapeChar]
    split
    · rename_i hx
      rw [List.singleton_append, commentMark_infix_cons, not_or]
      refine ⟨?_, ih⟩
      rintro ⟨rfl, -⟩
      exact absurd hx (by decide)
    · rw [List.cons_append, List.singleton_append, commentMark_infix_cons, commentMark_infix_cons]
      simp [ih, hstar]

/-! ### A class of a selector -/

lemma classesIn_dot {t name r : Text} (h : className? t = some (name, r)) :
    classesIn ('.' :: t) = name :: classesIn r := by
  rw [classesIn.eq_2, if_pos (beq_self_eq_true '.')]
  split
  · rename_i name' r' h'
    obtain ⟨rfl, rfl⟩ : name = name' ∧ r = r' := by simpa [h] using h'
    rfl
  · simp_all

end ClassPurge.Css
