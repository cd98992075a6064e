import ClassPurge.Proofs.Files.Walking
import ClassPurge.Proofs.Text.Parts

/-!
Absolute paths that are written out and read as patterns. The components of such a pattern are the
names of the path, each read for itself, and a walk over the tree finds what the components reach:
that the names before the first wildcard are followed at once makes no difference.
-/

namespace ClassPurge.Files

/-- A name that leads down. -/
structure GoesDown (n : Text) : Prop where
  notEmpty : n ≠ []
  notDot : n ≠ Path.dot
  notDots : n ≠ Path.dotDot
  noSlash : Avoids Path.isSlash n

instance (n : Text) : Decidable (GoesDown n) :=
  decidable_of_iff (n ≠ [] ∧ n ≠ Path.dot ∧ n ≠ Path.dotDot ∧ Avoids Path.isSlash n)
    ⟨fun ⟨h, hd, hdd, hs⟩ => ⟨h, hd, hdd, hs⟩, fun ⟨h, hd, hdd, hs⟩ => ⟨h, hd, hdd, hs⟩⟩

/-- A name that something in a tree can have. -/
structure IsName (n : Text) : Prop extends GoesDown n where
  noEndMark : '\x00' ∉ n
  short : isLong n = false

instance (n : Text) : Decidable (IsName n) :=
  decidable_of_iff (GoesDown n ∧ '\x00' ∉ n ∧ isLong n = false)
    ⟨fun ⟨h, hm, hl⟩ => ⟨h, hm, hl⟩, fun ⟨h, hm, hl⟩ => ⟨h, hm, hl⟩⟩

/-! ### The components of a written path -/

section

variable {ns : List Text}

lemma text_absolute (ns : List Text) : (⟨['/'], ns⟩ : Path).text = '/' :: Text.join ['/'] ns :=
  rfl

/-- The last character of a written path belongs to its last name. -/
lemma getLast?_join (hne : ns ≠ []) (hns : ∀ n ∈ ns, GoesDown n) :
    (Text.join ['/'] ns).getLast? ≠ some '/' := by
  obtain ⟨before, last, rfl⟩ := ns.eq_nil_or_concat.resolve_left hne
  have hlast : GoesDown last := hns last (by simp)
  rw [List.concat_eq_append, Text.join_append_cons, List.flatMap_nil, List.append_nil,
    List.getLast?_append, List.getLast?_eq_some_getLast hlast.notEmpty, Option.some_or]
  intro h
  refine hlast.noSlash '/' ?_ rfl
  rw [← Option.some.inj h]
  exact List.getLast_mem hlast.notEmpty

/-- **The components of a written path are its names**, and those of the top alone ask for a
folder. -/
lemma componentsOf_text (hns : ∀ n ∈ ns, GoesDown n) : componentsOf (⟨['/'], ns⟩ : Path).text =
    if ns = [] then [.folder] else ns.map Component.ofText := by
  have hsplit (r : Text) : Text.splitOn Path.isSlash ('/' :: r) = [] :: Text.splitOn Path.isSlash r :=
    rfl
  rw [text_absolute]
  by_cases hne : ns = []
  · rw [hne]
    rfl
  · have hparts : Text.splitOn Path.isSlash (Text.join ['/'] ns) = ns :=
      Text.splitOn_join (p := Path.isSlash) rfl hne fun n hn => (hns n hn).noSlash
    have hkeep : ns.filter (fun n => !n.isEmpty) = ns :=
      List.filter_eq_self.mpr fun n hn => by simp [(hns n hn).notEmpty]
    have hjoin : Text.join ['/'] ns ≠ [] := by
      intro hnil
      rw [hnil] at hparts
      exact (hns [] (hparts ▸ List.mem_singleton_self [])).notEmpty rfl
    have hlast : (('/' :: Text.join ['/'] ns).getLast? == some '/') = false := by
      rw [List.getLast?_cons_of_ne_nil hjoin]
      exact beq_eq_false_iff_ne.mpr (getLast?_join hne hns)
    rw [if_neg hne, componentsOf, hsplit, hparts, hlast, List.filter_cons_of_neg (by simp), hkeep]
    exact List.append_nil _

lemma root_ofText (hns : ∀ n ∈ ns, GoesDown n) :
    (Path.ofText (⟨['/'], ns⟩ : Path).text).root = ['/'] := by
  have hstop : (Text.join ['/'] ns).takeWhile Path.isSlash = [] := by
    cases ns with
    | nil => rfl
    | cons n ns =>
      have hn := hns n List.mem_cons_self
      obtain ⟨c, r, rfl⟩ := List.exists_cons_of_ne_nil hn.notEmpty
      rw [Text.join_cons, List.cons_append, List.takeWhile_cons_of_neg]
      exact hn.noSlash c List.mem_cons_self
  rw [text_absolute, Path.ofText, List.takeWhile_cons_of_pos rfl, hstop]
  rfl

lemma parts_ofText_text (hns : ∀ n ∈ ns, GoesDown n) :
    (Path.ofText (⟨[], ns⟩ : Path).text).parts = ns := by
  by_cases hne : ns = []
  · rw [hne]
    rfl
  · have htext : (⟨[], ns⟩ : Path).text = Text.join ['/'] ns := by simp [Path.text, hne]
    have hparts : Text.splitOn Path.isSlash (Text.join ['/'] ns) = ns :=
      Text.splitOn_join (p := Path.isSlash) rfl hne fun n hn => (hns n hn).noSlash
    rw [htext, Path.ofText, hparts]
    exact List.filter_eq_self.mpr fun n hn => by simp [(hns n hn).notEmpty, (hns n hn).notDot]

lemma head?_text (hns : ∀ n ∈ ns, GoesDown n) : (⟨[], ns⟩ : Path).text.head? ≠ some '/' := by
  cases ns with
  | nil => decide
  | cons n ns =>
    have hn := hns n List.mem_cons_self
    obtain ⟨c, r, rfl⟩ := List.exists_cons_of_ne_nil hn.notEmpty
    have htext : (⟨[], (c :: r) :: ns⟩ : Path).text = Text.join ['/'] ((c :: r) :: ns) := by
      simp [Path.text]
    rw [htext, Text.join_cons, List.cons_append, List.head?_cons]
    exact fun hc => hn.noSlash c List.mem_cons_self (by rw [Option.some.inj hc]; rfl)

lemma goesDown_parts {t n : Text} (hn : n ∈ (Path.ofText t).parts) (hdots : n ≠ Path.dotDot) :
    GoesDown n := by
  obtain ⟨hmem, hkeep⟩ := List.mem_filter.mp hn
  rw [Bool.and_eq_true, Bool.not_eq_true', List.isEmpty_eq_false_iff, bne_iff_ne] at hkeep
  exact ⟨hkeep.1, hkeep.2, hdots, Text.avoids_of_mem_splitOn hmem⟩

lemma descends_ofText {n : Text} (hn : GoesDown n) : (Component.ofText n).Descends := by
  rw [Component.ofText]
  split_ifs
  · trivial
  · trivial
  · trivial
  · exact ⟨hn.notDot, hn.notDots⟩

lemma eq_of_ofText {n m : Text} (h : Component.ofText n = .name m) : n = m := by
  rw [Component.ofText] at h
  split_ifs at h
  cases h
  rfl

lemma ofText_of_avoids {n : Text} (hn : n ≠ []) (hplain : Avoids isMagic n) :
    Component.ofText n = .name n := by
  have hany : n.any isMagic = false := List.any_eq_false.mpr hplain
  have hstars : n ≠ ['*', '*'] := by
    rintro rfl
    cases hany
  rw [Component.ofText, if_neg (by simpa using hn), if_neg (by simpa using hstars),
    if_neg (by simp [hany])]

/-- None of the names has a wildcard. -/
def IsPlain (ns : List Text) : Prop := ∀ n ∈ ns, Avoids isMagic n

instance (ns : List Text) : Decidable (IsPlain ns) := List.decidableBAll _ ns

lemma IsPlain.map_ofText (hplain : IsPlain ns) (hns : ∀ n ∈ ns, GoesDown n) :
    ns.map Component.ofText = ns.map .name :=
  List.map_congr_left fun n hn => ofText_of_avoids (hns n hn).notEmpty (hplain n hn)

end

namespace Tree

/-! ### Names at the beginning -/

lemma plainNames_append (cs : List Component) :
    (plainNames cs).1.map .name ++ (plainNames cs).2 = cs := by
  induction cs with
  | nil => rfl
  | cons c cs ih =>
    cases c with
    | name n => exact congrArg (Component.name n :: ·) ih
    | folder => rfl
    | anyDepth => rfl
    | wild w => rfl

lemma plainNames_names (ns : List Text) (cs : List Component) :
    plainNames (ns.map .name ++ cs) = (ns ++ (plainNames cs).1, (plainNames cs).2) := by
  induction ns with
  | nil => rfl
  | cons n ns ih => rw [List.map_cons, List.cons_append, plainNames, ih]; rfl

lemma plainNames_wild (cs : List Component) (ws : List Text) :
    (plainNames (cs ++ ws.map .wild)).1 = (plainNames cs).1 := by
  induction cs with
  | nil => cases ws with
    | nil => rfl
    | cons w ws => rfl
  | cons c cs ih =>
    cases c with
    | name n => exact congrArg (n :: ·) ih
    | folder => rfl
    | anyDepth => rfl
    | wild w => rfl

lemma mem_of_mem_plainNames {ns : List Text} {n : Text}
    (hn : n ∈ (plainNames (ns.map Component.ofText)).1) : n ∈ ns := by
  have hname : .name n ∈ ns.map Component.ofText := by
    rw [← plainNames_append (ns.map _)]
    exact List.mem_append_left _ (List.mem_map_of_mem hn)
  obtain ⟨m, hm, he⟩ := List.mem_map.mp hname
  rwa [← eq_of_ofText he]

/-! ### Following names -/

variable {t : Tree} {p q : Place} {ns : List Text}

/-- Everything in the tree has a name. -/
def IsSound (t : Tree) : Prop := ∀ e ∈ t.ends, ∀ n ∈ e, IsName n

instance (t : Tree) : Decidable t.IsSound := List.decidableBAll _ t.ends

lemma IsSound.isName (ht : t.IsSound) (hp : t.has p = true) : ∀ n ∈ p, IsName n := by
  rcases has_iff.mp hp with rfl | ⟨e, he, hpe⟩
  · simp
  · exact fun n hn => ht e he n (hpe.subset hn)

lemma eq_of_follow (hns : ∀ n ∈ ns, GoesDown n) (h : t.follow p ns = .ok q) : q = p ++ ns := by
  induction ns generalizing p with
  | nil =>
    cases h
    rw [List.append_nil]
  | cons n ns ih =>
    obtain ⟨hn, hns⟩ := List.forall_mem_cons.mp hns
    have hdot : (n == Path.dot) = false := beq_eq_false_iff_ne.mpr hn.notDot
    have hdots : (n == Path.dotDot) = false := beq_eq_false_iff_ne.mpr hn.notDots
    rw [follow, hdot, hdots] at h
    split at h
    · split at h
      · cases h
      · exact (ih hns h).trans (List.append_assoc p [n] ns)
    · split at h <;> cases h

lemma follow_of_has (hns : ∀ n ∈ ns, IsName n) (h : ns ≠ [] → t.has (p ++ ns) = true) :
    t.follow p ns = .ok (p ++ ns) := by
  induction ns generalizing p with
  | nil => rw [follow, List.append_nil]
  | cons n ns ih =>
    obtain ⟨hn, hns⟩ := List.forall_mem_cons.mp hns
    have hall : t.has (p ++ n :: ns) = true := h (List.cons_ne_nil n ns)
    have hfolder : t.isFolder p = true := isFolder_of_has (List.cons_ne_nil n ns) hall
    rw [← List.singleton_append, ← List.append_assoc] at hall ⊢
    rw [List.singleton_append, follow, if_pos hfolder, if_neg (by simp [hn.short]),
      if_neg (by simpa using hn.notDot), if_neg (by simpa using hn.notDots)]
    exact ih hns fun _ => hall

end Tree

/-- The path of the names is not too long for the system. -/
def Fits (ns : List Text) : Prop := byteSize (⟨['/'], ns⟩ : Path).text ≤ pathLimit

instance (ns : List Text) : Decidable (Fits ns) := Nat.decLe _ _

lemma contains_text {ns : List Text} : (⟨['/'], ns⟩ : Path).text.contains '\x00' = true ↔
    ∃ n ∈ ns, '\x00' ∈ n := by
  rw [List.contains_iff_mem, text_absolute, List.mem_cons]
  constructor
  · rintro (h | h)
    · exact absurd h (by decide)
    · by_contra hnone
      push Not at hnone
      have havoids : Avoids (· == '\x00') (Text.join ['/'] ns) :=
        Text.avoids_join (by simp [Avoids]) fun n hn c hc he => hnone n hn (by simp_all)
      exact havoids _ h (by simp)
  · rintro ⟨n, hn, hmark⟩
    obtain ⟨before, after, rfl⟩ := List.append_of_mem hn
    rw [Text.join_append_cons]
    simp [hmark]

namespace Tree

variable {t : Tree} {p q : Place} {ns : List Text}

lemma place_of_fits (hfits : Fits ns) (hmark : ∀ n ∈ ns, '\x00' ∉ n) :
    t.place ⟨['/'], ns⟩ = t.follow [] ns := by
  have hnone : ¬ (⟨['/'], ns⟩ : Path).text.contains '\x00' = true := fun h => by
    obtain ⟨n, hn, hin⟩ := contains_text.mp h
    exact hmark n hn hin
  rw [place, if_neg hnone, if_neg (Nat.not_lt.mpr hfits)]

lemma place_of_has (ht : t.IsSound) (hfits : Fits ns) (h : ns ≠ [] → t.has ns = true) :
    t.place ⟨['/'], ns⟩ = .ok ns := by
  have hns : ∀ n ∈ ns, IsName n := fun n hn => ht.isName (h (List.ne_nil_of_mem hn)) n hn
  rw [place_of_fits hfits fun n hn => (hns n hn).noEndMark, follow_of_has hns h, List.nil_append]

lemma eq_of_place (hns : ∀ n ∈ ns, GoesDown n) (h : t.place ⟨['/'], ns⟩ = .ok q) : q = ns := by
  rw [place] at h
  split at h
  · cases h
  · split at h
    · cases h
    · exact eq_of_follow hns h

/-! ### What a written path finds -/

lemma spotAt_inj : spotAt p = spotAt q ↔ p = q :=
  ⟨congrArg Spot.place, congrArg spotAt⟩

lemma mem_expandAll_spotAt {x : Spot} {cs : List Component} (hcs : ∀ c ∈ cs, c.Descends) :
    x ∈ t.expandAll [spotAt p] cs ↔ ∃ q, t.Reaches cs p q ∧ x = spotAt (p ++ q) := by
  rw [mem_expandAll (by simp) hcs]
  simp only [List.mem_singleton, spotAt_inj, exists_and_left, exists_eq_left]

lemma has_of_has_append (h : t.has (p ++ q) = true) : t.has p = true := by
  by_cases hq : q = []
  · rwa [hq, List.append_nil] at h
  · exact has_of_isFolder (isFolder_of_has hq h)

section

variable {names : List Text} {rest : List Component} {l : List Spot}

lemma names_eq (hns : ∀ n ∈ ns, GoesDown n)
    (hsplit : plainNames (componentsOf (⟨['/'], ns⟩ : Path).text) = (names, rest)) :
    names = (plainNames (ns.map Component.ofText)).1 := by
  rw [componentsOf_text hns] at hsplit
  split_ifs at hsplit with hnil
  · cases hsplit
    rw [hnil]
    rfl
  · rw [hsplit]

lemma mem_of_mem_names (hns : ∀ n ∈ ns, GoesDown n)
    (hsplit : plainNames (componentsOf (⟨['/'], ns⟩ : Path).text) = (names, rest)) :
    ∀ n ∈ names, n ∈ ns := by
  rw [names_eq hns hsplit]
  exact fun n hn => mem_of_mem_plainNames hn

lemma descends_split (hns : ∀ n ∈ ns, GoesDown n)
    (hsplit : plainNames (componentsOf (⟨['/'], ns⟩ : Path).text) = (names, rest)) :
    ∀ c ∈ names.map .name ++ rest, c.Descends := by
  have hcs := plainNames_append (componentsOf (⟨['/'], ns⟩ : Path).text)
  rw [hsplit, componentsOf_text hns] at hcs
  rw [hcs]
  split_ifs with hnil
  · simp [Component.Descends]
  · exact List.forall_mem_map.mpr fun n hn => descends_ofText (hns n hn)

lemma reaches_split (hns : ∀ n ∈ ns, GoesDown n)
    (hsplit : plainNames (componentsOf (⟨['/'], ns⟩ : Path).text) = (names, rest)) :
    t.Reaches (names.map .name ++ rest) [] p ↔ t.Reaches (ns.map Component.ofText) [] p := by
  have hcs := plainNames_append (componentsOf (⟨['/'], ns⟩ : Path).text)
  rw [hsplit, componentsOf_text hns] at hcs
  rw [hcs]
  split_ifs with hnil
  · -- The top alone asks for a folder, and the top is one.
    simp [hnil, Reaches, Leads, isFolder]
  · rfl

/-- The search for a written path, with the names at its beginning and what follows them. -/
lemma spots_text (hns : ∀ n ∈ ns, GoesDown n)
    (hsplit : plainNames (componentsOf (⟨['/'], ns⟩ : Path).text) = (names, rest)) :
    t.spots (⟨['/'], ns⟩ : Path).text =
      if rest.isEmpty then .ok (t.expandAll [spotAt []] (names.map .name))
      else
        match t.place ⟨['/'], names⟩ with
        | .ok q => .ok (t.expandAll [⟨⟨['/'], names⟩, q⟩] rest)
        | .error .endMark =>
          if rest == [.folder] then .ok [] else .error (.endMark, ⟨['/'], names⟩)
        | .error .tooLong =>
          if !rest.isEmpty && rest.all (· == .anyDepth) then .error (.tooLong, ⟨['/'], names⟩)
          else .ok []
        | .error _ => .ok [] := by
  have hkeep : names.filter (· != Path.dot) = names := by
    rw [List.filter_eq_self]
    intro n hn
    simpa using (hns n (mem_of_mem_names hns hsplit n hn)).notDot
  rw [spots, hsplit, root_ofText hns]
  simp only [hkeep]
  rfl

/-- The search goes through the components from the top, or through what follows the names from
where these lead, or these lead nowhere. -/
lemma spots_cases (hns : ∀ n ∈ ns, GoesDown n)
    (hsplit : plainNames (componentsOf (⟨['/'], ns⟩ : Path).text) = (names, rest))
    (hl : t.spots (⟨['/'], ns⟩ : Path).text = .ok l) :
    rest = [] ∧ l = t.expandAll [spotAt []] (names.map .name) ∨
      l = t.expandAll [spotAt names] rest ∨
      (∃ f, t.place ⟨['/'], names⟩ = .error f) ∧ l = [] := by
  rw [spots_text hns hsplit] at hl
  split at hl
  · rename_i hrest
    exact .inl ⟨List.isEmpty_iff.mp hrest, (Except.ok.inj hl).symm⟩
  · refine .inr ?_
    split at hl
    · rename_i q hplace
      obtain rfl := eq_of_place (fun n hn => hns n (mem_of_mem_names hns hsplit n hn)) hplace
      exact .inl (Except.ok.inj hl).symm
    · rename_i hplace
      split at hl
      · exact .inr ⟨⟨_, hplace⟩, (Except.ok.inj hl).symm⟩
      · cases hl
    · rename_i hplace
      split at hl
      · cases hl
      · exact .inr ⟨⟨_, hplace⟩, (Except.ok.inj hl).symm⟩
    · rename_i hplace
      exact .inr ⟨⟨_, hplace⟩, (Except.ok.inj hl).symm⟩

/-- **A written path finds the files that its components reach.** -/
lemma mem_spots (ht : t.IsSound) (hns : ∀ n ∈ ns, GoesDown n)
    (hfits : Fits (plainNames (ns.map Component.ofText)).1)
    (hl : t.spots (⟨['/'], ns⟩ : Path).text = .ok l) :
    (∀ x ∈ l, ∃ p, x = spotAt p) ∧
      ∀ p, t.isFile p = true → (spotAt p ∈ l ↔ t.Reaches (ns.map Component.ofText) [] p) := by
  obtain ⟨names, rest, hsplit⟩ : ∃ names rest,
      plainNames (componentsOf (⟨['/'], ns⟩ : Path).text) = (names, rest) := ⟨_, _, rfl⟩
  have hdesc := descends_split hns hsplit
  rw [← names_eq hns hsplit] at hfits
  simp only [← reaches_split hns hsplit]
  rcases spots_cases hns hsplit hl with ⟨rfl, rfl⟩ | rfl | ⟨⟨f, hplace⟩, rfl⟩
  · rw [List.append_nil] at hdesc ⊢
    simp only [mem_expandAll_spotAt hdesc, List.nil_append]
    constructor
    · rintro x ⟨p, -, hx⟩
      exact ⟨p, hx⟩
    · simp only [spotAt_inj, exists_eq_right', implies_true]
  · have hdesc := (List.forall_mem_append.mp hdesc).2
    simp only [mem_expandAll_spotAt hdesc, reaches_names_append, List.nil_append]
    constructor
    · rintro x ⟨b, -, hx⟩
      exact ⟨names ++ b, hx⟩
    · intro p hp
      constructor
      · rintro ⟨b, hb, he⟩
        obtain rfl := spotAt_inj.mp he
        exact ⟨b, rfl, .inr (has_of_has_append (has_of_isFile hp)), hb⟩
      · rintro ⟨b, rfl, -, hb⟩
        exact ⟨b, hb, rfl⟩
  · refine ⟨by simp, fun p _ => iff_of_false List.not_mem_nil fun h => ?_⟩
    obtain ⟨b, rfl, hhas, -⟩ := reaches_names_append.mp h
    rw [place_of_has ht hfits fun hne => hhas.resolve_left hne] at hplace
    cases hplace

end

end Tree

end ClassPurge.Files
