import ClassPurge.Proofs.Css.Escaping

/-!
Where a class name ends. A name goes up to the first character that is none of a name and that no
backslash escapes, and such a character, unless it is a dot, begins no name either. So the names
before it and behind it are read as they are read apart.
-/

namespace ClassPurge.Css

/-- No name goes on with the character, and none begins with it. -/
structure Separates (c : Char) : Prop where
  notName : ¬ Text.isName c
  notBackslash : c ≠ '\\'
  notDot : c ≠ '.'

/-- Read from the left in pairs, every backslash has a character behind it. -/
def EscapesClose : Text → Prop
  | [] => True
  | ['\\'] => False
  | '\\' :: _ :: r => EscapesClose r
  | _ :: r => EscapesClose r

lemma escapesClose_cons {c : Char} (hc : c ≠ '\\') (t : Text) :
    EscapesClose (c :: t) ↔ EscapesClose t := by
  rw [EscapesClose.eq_4 c t (fun h => absurd h hc) fun _ _ h => absurd h hc]

instance decidableEscapesClose : (t : Text) → Decidable (EscapesClose t)
  | [] => .isTrue trivial
  | [c] => decidable_of_iff (c ≠ '\\') <| by
    by_cases hc : c = '\\'
    · simp [hc, EscapesClose]
    · simp [hc, escapesClose_cons hc, EscapesClose]
  | c :: d :: r =>
    have := decidableEscapesClose r
    have := decidableEscapesClose (d :: r)
    decidable_of_iff (if c = '\\' then EscapesClose r else EscapesClose (d :: r)) <| by
      split
      · simp_all [EscapesClose]
      · rename_i hc
        exact (escapesClose_cons hc _).symm

lemma ne_backslash_of_cases {c : Char} {t : Text} (hnil : c = '\\' → t = [] → False)
    (hcons : ∀ d r, c = '\\' → t = d :: r → False) : c ≠ '\\' := by
  rintro rfl
  cases t with
  | nil => exact hnil rfl rfl
  | cons d r => exact hcons d r rfl rfl

/-- A dot ends whatever escape it stands in. -/
lemma EscapesClose.after_dot {a b : Text} (h : EscapesClose (a ++ '.' :: b)) : EscapesClose b := by
  induction a using EscapesClose.induct with
  | case1 => exact (escapesClose_cons (by decide) b).mp h
  | case2 => exact h
  | case3 c a ih => exact ih h
  | case4 c a hnil hcons ih =>
    have hc := ne_backslash_of_cases hnil hcons
    exact ih ((escapesClose_cons hc _).mp h)

lemma EscapesClose.append {a b : Text} (ha : EscapesClose a) (hb : EscapesClose b) :
    EscapesClose (a ++ b) := by
  induction a using EscapesClose.induct with
  | case1 => exact hb
  | case2 => exact absurd ha id
  | case3 c a ih => exact ih ha
  | case4 c a hnil hcons ih =>
    have hc := ne_backslash_of_cases hnil hcons
    exact (escapesClose_cons hc _).mpr (ih ((escapesClose_cons hc a).mp ha))

/-! ### A name before a separator -/

lemma nameRest_of_not_isName {c : Char} (hc : c ≠ '\\') (hn : ¬ Text.isName c) (t : Text) :
    nameRest (c :: t) = ([], c :: t) := by
  rw [nameRest.eq_4 c t (fun h => absurd h hc) (fun _ _ h => absurd h hc), if_neg hn]

section

variable {d : Char} {t : Text}

lemma Separates.nameRest (hd : Separates d) (t : Text) :
    Css.nameRest (d :: t) = ([], d :: t) :=
  nameRest_of_not_isName hd.notBackslash hd.notName t

lemma Separates.nameCore? (hd : Separates d) (t : Text) : Css.nameCore? (d :: t) = none := by
  have hstart : ¬ isNameStart d := fun h => hd.notName (isName_of_isBare (isBare_of_isNameStart h))
  rw [nameCore?.eq_2 d t fun _ _ h => absurd h hd.notBackslash, if_neg hstart]

lemma nameRest_separator (hd : Separates d) (h : EscapesClose t) (v : Text) :
    nameRest (t ++ d :: v) = ((nameRest t).1, (nameRest t).2 ++ d :: v) := by
  induction t using EscapesClose.induct with
  | case1 => exact hd.nameRest v
  | case2 => exact absurd h id
  | case3 c t ih => simp [nameRest, ih h]
  | case4 c t hnil hcons ih =>
    have hc := ne_backslash_of_cases hnil hcons
    have ih := ih ((escapesClose_cons hc t).mp h)
    by_cases hn : Text.isName c
    · rw [List.cons_append, nameRest_name hc hn, nameRest_name hc hn, ih]
    · rw [List.cons_append, nameRest_of_not_isName hc hn, nameRest_of_not_isName hc hn,
        List.cons_append]

lemma nameCore?_separator (hd : Separates d) (h : EscapesClose t) (v : Text) :
    nameCore? (t ++ d :: v) = (nameCore? t).map fun (n, s) => (n, s ++ d :: v) := by
  induction t using EscapesClose.induct with
  | case1 => exact hd.nameCore? v
  | case2 => exact absurd h id
  | case3 c t => simp [nameCore?, nameRest_separator hd (show EscapesClose t from h)]
  | case4 c t hnil hcons =>
    have hc := ne_backslash_of_cases hnil hcons
    have hcore (u : Text) := nameCore?.eq_2 c u fun _ _ h => absurd h hc
    rw [List.cons_append, hcore, hcore, nameRest_separator hd ((escapesClose_cons hc t).mp h)]
    split <;> rfl

lemma className?_separator (hd : Separates d) (h : EscapesClose t) (v : Text) :
    className? (t ++ d :: v) = (className? t).map fun (n, s) => (n, s ++ d :: v) := by
  by_cases hhyphen : t.head? = some '-'
  · obtain ⟨u, rfl⟩ := List.head?_eq_some_iff.mp hhyphen
    rw [List.cons_append, className?.eq_1, className?.eq_1,
      nameCore?_separator hd ((escapesClose_cons (by decide) u).mp h), Option.map_map,
      Option.map_map]
    rfl
  · have hcore (u : Text) (hu : u.head? ≠ some '-') : className? u = nameCore? u :=
      className?.eq_2 u fun r hr => hu (by rw [hr]; rfl)
    rw [hcore t hhyphen, hcore _ ?_, nameCore?_separator hd h]
    cases t with
    | nil =>
      rw [List.nil_append, List.head?_cons, ne_eq, Option.some.injEq]
      rintro rfl
      exact hd.notName (by decide)
    | cons c t => exact hhyphen

end

/-! ### What follows a name -/

lemma nameRest_suffix (t : Text) : (nameRest t).2 <:+ t := by
  fun_induction nameRest t with
  | case1 => exact List.suffix_rfl
  | case2 => exact List.suffix_rfl
  | case3 c r n s hr ih =>
    rw [hr] at ih
    exact ih.trans ⟨['\\', c], rfl⟩
  | case4 c r _ _ _ n s hr ih =>
    rw [hr] at ih
    exact ih.trans ⟨[c], rfl⟩
  | case5 => exact List.suffix_rfl

lemma nameCore?_suffix {t n r : Text} (h : nameCore? t = some (n, r)) : r <:+ t := by
  unfold nameCore? at h
  split at h
  · rename_i c u
    obtain ⟨-, rfl⟩ := Prod.mk.inj (Option.some.inj h)
    exact (nameRest_suffix u).trans ⟨['\\', c], rfl⟩
  · rename_i c u _
    split at h
    · obtain ⟨-, rfl⟩ := Prod.mk.inj (Option.some.inj h)
      exact (nameRest_suffix u).trans (List.suffix_cons c u)
    · cases h
  · cases h

lemma className?_suffix {t n r : Text} (h : className? t = some (n, r)) : r <:+ t := by
  unfold className? at h
  split at h
  · obtain ⟨⟨m, s⟩, hs, he⟩ := Option.map_eq_some_iff.mp h
    obtain ⟨-, rfl⟩ := Prod.mk.inj he
    exact (nameCore?_suffix hs).trans (List.suffix_cons _ _)
  · exact nameCore?_suffix h

lemma classesIn_skip {c : Char} {t : Text} (h : c = '.' → className? t = none) :
    classesIn (c :: t) = classesIn t := by
  rw [classesIn.eq_2]
  split
  · rename_i hc
    split
    · rename_i hname
      rw [h (by simpa using hc)] at hname
      cases hname
    · rfl
  · rfl

lemma Separates.classesIn_cons {d : Char} (hd : Separates d) (t : Text) :
    classesIn (d :: t) = classesIn t := classesIn_skip fun h => absurd h hd.notDot

/-- **No name is read over a separator** that no backslash escapes. -/
lemma classesIn_separator {d : Char} (hd : Separates d) {u : Text}
    (h : ∀ a b, u = a ++ '.' :: b → EscapesClose b) (v : Text) :
    classesIn (u ++ d :: v) = classesIn u ++ classesIn v := by
  induction hn : u.length using Nat.strongRecOn generalizing u with
  | _ n ih =>
    cases u with
    | nil => rw [List.nil_append, hd.classesIn_cons, classesIn.eq_1, List.nil_append]
    | cons c u =>
      -- what follows the character, or the name that it begins, has fewer dots
      have hrest {r : Text} (hr : r <:+ u) :
          classesIn (r ++ d :: v) = classesIn r ++ classesIn v := by
        obtain ⟨p, rfl⟩ := hr
        refine ih r.length (by simp at hn; omega) (fun a b hab => ?_) rfl
        exact h (c :: (p ++ a)) b (by rw [hab]; simp)
      by_cases hc : c = '.'
      · subst hc
        have hclose : EscapesClose u := h [] u rfl
        have hsep := className?_separator hd hclose v
        cases hname : className? u with
        | none =>
          rw [hname, Option.map_none] at hsep
          rw [List.cons_append, classesIn_skip fun _ => hsep, classesIn_skip fun _ => hname,
            hrest List.suffix_rfl]
        | some p =>
          obtain ⟨n, r⟩ := p
          rw [hname, Option.map_some] at hsep
          rw [List.cons_append, classesIn_dot hsep, classesIn_dot hname,
            hrest (className?_suffix hname), List.cons_append]
      · rw [List.cons_append, classesIn_skip fun h => absurd h hc,
          classesIn_skip fun h => absurd h hc, hrest List.suffix_rfl]

end ClassPurge.Css
