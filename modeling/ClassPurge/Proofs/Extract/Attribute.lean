import ClassPurge.Extract.Heuristic
import ClassPurge.Proofs.Text.Parts
import ClassPurge.Proofs.Text.Stripping

/-!
Attributes in running text. An attribute is read where no name runs into it from the left, and none
is found in text that does not have its name. So the words of the first attribute `class` are among
the candidates.
-/

namespace ClassPurge.Extract

open Text

/-- Nothing is found in `pre`, so the search goes on behind it. -/
lemma occurrencesFrom_append {α : Type} {m : Recognizer α} {before : Option Char} {pre t : Text}
    (h : ∀ x y, pre = x ++ y → y ≠ [] → m (x.getLast?.or before) (y ++ t) = none) :
    occurrencesFrom m before (pre ++ t) = occurrencesFrom m (pre.getLast?.or before) t := by
  induction pre generalizing before with
  | nil => rfl
  | cons c pre ih =>
    have hhere : m before (c :: (pre ++ t)) = none := h [] (c :: pre) rfl (by simp)
    have hlast (x : Text) : (c :: x).getLast?.or before = x.getLast?.or (some c) := by
      rw [List.getLast?_cons]
      cases x.getLast? <;> rfl
    have hnext : ∀ x y, pre = x ++ y → y ≠ [] → m (x.getLast?.or (some c)) (y ++ t) = none := by
      intro x y hxy hy
      rw [← hlast]
      exact h (c :: x) y (by rw [hxy, List.cons_append]) hy
    rw [List.cons_append, occurrencesFrom.eq_2, hhere, hlast, ← ih hnext]

/-- What is found in a piece at the beginning is found, and the search goes on behind the piece. -/
lemma occurrencesFrom_found {α : Type} {m : Recognizer α} {before : Option Char} {p t : Text}
    {a : α} (hp : p ≠ []) (h : m before (p ++ t) = some (a, t)) :
    occurrencesFrom m before (p ++ t) = a :: occurrencesFrom m p.getLast? t := by
  obtain ⟨c, p, rfl⟩ := List.exists_cons_of_ne_nil hp
  have hlength : (p ++ t).length - t.length = p.length := by simp
  have hlast : (c :: (p ++ t))[p.length]? = (c :: p).getLast? := by
    rw [← List.cons_append, List.getElem?_append_left (by simp), List.getLast?_eq_getElem?]
    simp
  rw [List.cons_append] at h ⊢
  rw [occurrencesFrom.eq_2, h]
  simp only [hlength, hlast, List.drop_left]

lemma after?_append (w t : Text) : after? w (w ++ t) = some t := by
  induction w with
  | nil => simp [after?]
  | cons c w ih => simp [after?, ih]

lemma enclosed?_append {q : Char} {value : Text} (hv : q ∉ value) (post : Text) :
    enclosed? q nothingBarred (value ++ q :: post) = some (value, post) := by
  have hcut : cut? (fun c => c == q || nothingBarred c) (value ++ q :: post) =
      some (value, q, post) := by
    refine cut?_append (fun x hx => ?_) (by simp) post
    simp only [nothingBarred, Bool.or_false, beq_iff_eq]
    rintro rfl
    exact hv hx
  simp [enclosed?, hcut]

/-! ### Attributes in text -/

/-- The attribute names that are looked for. -/
def attributeNames : List Text := [markupName, componentName]

/-- An attribute with `left` and `right` on both sides of its equals sign, and its value between
two quotes `q`. -/
def spellAttribute (name left right : Text) (q : Char) (value : Text) : Text :=
  name ++ (left ++ '=' :: (right ++ q :: (value ++ [q])))

/-- The attribute is read where it stands, unless a name runs into it. -/
lemma attributeValue_spell {before : Option Char} {left right value : Text} {q : Char}
    (hb : ∀ x ∈ before, ¬ isName x) (hl : AllBlank left) (hr : AllBlank right)
    (hq : q = '"' ∨ q = '\'') (hv : q ∉ value) (name post : Text) :
    attributeValue name before (spellAttribute name left right q value ++ post) =
      some (value, post) := by
  have hbefore : before.any isName = false := by
    cases before with
    | none => rfl
    | some x => simpa using hb x rfl
  have hquote : ¬ isBlank q := by rcases hq with rfl | rfl <;> decide
  have htext : spellAttribute name left right q value ++ post =
      name ++ (left ++ '=' :: (right ++ q :: (value ++ q :: post))) := by
    simp [spellAttribute]
  have hequals (t : Text) : stripStart (left ++ '=' :: t) = '=' :: t := by
    rw [stripStart_blank_append hl, stripStart_of_head (by simp; decide)]
  have hopen (t : Text) : stripStart (right ++ q :: t) = q :: t := by
    rw [stripStart_blank_append hr, stripStart_of_head (by simpa using hquote)]
  have hafter (t : Text) : after? ['='] ('=' :: t) = some t := after?_append ['='] t
  have hkind : (q == '"' || q == '\'') = true := by simpa using hq
  simp only [attributeValue, hbefore, htext, after?_append, hequals, hafter, hopen, hkind,
    enclosed?_append hv, Option.bind_eq_bind, Option.bind_some, Bool.false_eq_true, if_false,
    if_true]

/-- The attribute with its value in double quotes, and what follows it. -/
def markupAttribute (value post : Text) : Text :=
  markupName ++ '=' :: '"' :: (value ++ '"' :: post)

lemma markupAttribute_eq (value post : Text) :
    markupAttribute value post = spellAttribute markupName [] [] '"' value ++ post := by
  simp [markupAttribute, spellAttribute]

/-- Both names begin alike, and are made of name characters. -/
lemma attributeName_shape : ∀ name ∈ attributeNames,
    markupName <+: name ∧ ∀ c ∈ name, isName c := by
  have hall : ∀ name ∈ attributeNames, markupName <+: name ∧ name.all isName := by decide
  exact fun name hname => ⟨(hall name hname).1, List.all_eq_true.mp (hall name hname).2⟩

/-- No attribute begins inside a text that does not have the name, unless the text ends in a part
of the name. -/
lemma attributeValue_inside {name x y t : Text} {before : Option Char}
    (hname : name ∈ attributeNames) (hpre : ¬ markupName <:+: x ++ y)
    (hend : ∀ c ∈ (x ++ y).getLast?, ¬ isName c) (hy : y ≠ []) :
    attributeValue name before (y ++ t) = none := by
  obtain ⟨hbegins, hchars⟩ := attributeName_shape name hname
  have hafter : after? name (y ++ t) = none := by
    refine Option.eq_none_iff_forall_ne_some.mpr fun r hr => ?_
    rcases List.append_eq_append_iff.mp (eq_append_of_after? hr) with ⟨u, hu, -⟩ | ⟨u, hu, -⟩
    · -- `y` is a beginning of the name, so its last character is one that names have
      have hlast : y.getLast hy ∈ name := by
        rw [hu]
        exact List.mem_append_left _ (List.getLast_mem hy)
      refine hend (y.getLast hy) ?_ (hchars _ hlast)
      rw [List.getLast?_append, List.getLast?_eq_some_getLast hy]
      rfl
    · have hin : name <:+: x ++ y := ⟨x, u, by rw [hu, List.append_assoc]⟩
      exact hpre (hbegins.isInfix.trans hin)
  rw [attributeValue, hafter]
  split <;> rfl

lemma mem_classAttribute {pre value post w : Text} (hpre : ¬ markupName <:+: pre)
    (hend : ∀ c ∈ pre.getLast?, ¬ isName c) (hv : '"' ∉ value) (hw : w ∈ words value) :
    w ∈ classAttribute (pre ++ markupAttribute value post) := by
  have hskip : ∀ x y, pre = x ++ y → y ≠ [] → attributeValue markupName (x.getLast?.or none)
      (y ++ markupAttribute value post) = none := by
    rintro x y rfl hy
    exact attributeValue_inside (by decide) hpre hend hy
  have hblank : AllBlank [] := by simp [AllBlank]
  have hbefore : ∀ x ∈ pre.getLast?.or none, ¬ isName x := by simpa using hend
  have hvalue := attributeValue_spell hbefore hblank hblank (.inl rfl) hv markupName post
  have hne : spellAttribute markupName [] [] '"' value ≠ [] := by simp [spellAttribute]
  rw [classAttribute, attributeWords, List.mem_flatMap]
  refine ⟨value, ?_, hw⟩
  rw [occurrences, occurrencesFrom_append hskip, markupAttribute_eq,
    occurrencesFrom_found hne hvalue]
  exact List.mem_cons_self

/-- **A class of the attribute is a candidate.** -/
theorem mem_candidates {pre value post w : Text} (hpre : ¬ markupName <:+: pre)
    (hend : ∀ c ∈ pre.getLast?, ¬ isName c) (hv : '"' ∉ value) (hw : w ∈ words value) :
    w ∈ candidates (pre ++ markupAttribute value post) := by
  have hne := ne_nil_of_mem_words hw
  rw [candidates, List.mem_eraseDups, List.mem_filter, List.mem_flatMap]
  refine ⟨⟨classAttribute, by simp [heuristics], mem_classAttribute hpre hend hv hw⟩, ?_⟩
  simpa using hne

end ClassPurge.Extract
