import ClassPurge.Proofs.Files.Patterns
import ClassPurge.Proofs.Files.WrittenPaths

/-!
The folder that patterns are looked for in. Its path becomes part of every pattern, wildcards and
all, so it has to stand for the folder alone. Then a pattern that stays in the folder finds what it
reaches from there, which depends on nothing outside.
-/

namespace ClassPurge.Files

namespace Tree

variable {t u : Tree} {r s p q : Place}

/-! ### Two places with the same in them -/

/-- The same files and folders are there at one place and at the other. -/
def SameUnder (t : Tree) (r : Place) (u : Tree) (s : Place) : Prop :=
  ∀ q, t.isFile (r ++ q) = u.isFile (s ++ q) ∧ t.isFolder (r ++ q) = u.isFolder (s ++ q)

lemma SameUnder.append (h : t.SameUnder r u s) (a : List Text) :
    t.SameUnder (r ++ a) u (s ++ a) := fun q => by
  simpa only [List.append_assoc] using h (a ++ q)

lemma SameUnder.symm (h : t.SameUnder r u s) : u.SameUnder s t r :=
  fun q => ⟨(h q).1.symm, (h q).2.symm⟩

lemma SameUnder.isFile (h : t.SameUnder r u s) : t.isFile r = u.isFile s := by
  simpa only [List.append_nil] using (h []).1

lemma SameUnder.isFolder (h : t.SameUnder r u s) : t.isFolder r = u.isFolder s := by
  simpa only [List.append_nil] using (h []).2

lemma SameUnder.has (h : t.SameUnder r u s) : t.has r = u.has s := by
  rw [Tree.has, Tree.has, h.isFile, h.isFolder]

lemma SameUnder.leads (h : t.SameUnder r u s) (c : Component) (a : List Text) :
    t.Leads c r a ↔ u.Leads c s a := by
  cases c with
  | folder => rw [Leads, Leads, h.isFolder]
  | anyDepth => rw [Leads, Leads, (h.append a).has]
  | wild w => simp only [Leads, (h.append a).has]
  | name n => rw [Leads, Leads, (h.append a).has]

lemma SameUnder.leadsOn (h : t.SameUnder r u s) (c : Component) (a : List Text) :
    t.LeadsOn c r a ↔ u.LeadsOn c s a := by
  cases c with
  | folder => rfl
  | anyDepth => rw [LeadsOn, LeadsOn, (h.append a).isFolder]
  | wild w => rw [LeadsOn, LeadsOn, (h.append a).isFolder]
  | name n => rfl

lemma SameUnder.reaches (h : t.SameUnder r u s) (cs : List Component) (q : List Text) :
    t.Reaches cs r q ↔ u.Reaches cs s q := by
  induction cs generalizing r s q with
  | nil => rfl
  | cons c cs ih =>
    rw [Reaches, Reaches]
    simp only [h.leads c, h.leadsOn c, fun a b => ih (h.append a) b]

/-! ### Roots -/

/-- A folder that can be the root of a project: of all places that have a file in them, its path
leads to it and to no other when it is read as a pattern. -/
structure IsRoot (t : Tree) (r : Place) : Prop where
  folder : t.isFolder r = true
  alone : ∀ a b, t.isFile (a ++ b) = true →
    (spotAt a ∈ t.expandAll [spotAt []] (componentsOf (⟨['/'], r⟩ : Path).text) ↔ a = r)

lemma IsSound.goesDown (ht : t.IsSound) (hr : t.isFolder r = true) : ∀ n ∈ r, GoesDown n :=
  fun n hn => (ht.isName (has_of_isFolder hr) n hn).toGoesDown

lemma IsSound.goesDown_of_isFile (ht : t.IsSound) (hp : t.isFile p = true) :
    ∀ n ∈ p, GoesDown n :=
  fun n hn => (ht.isName (has_of_isFile hp) n hn).toGoesDown

/-- What the path of a folder leads to is what its components reach. -/
lemma mem_expandAll_path (ht : t.IsSound) (hr : t.isFolder r = true) :
    spotAt p ∈ t.expandAll [spotAt []] (componentsOf (⟨['/'], r⟩ : Path).text) ↔
      t.Reaches (r.map Component.ofText) [] p := by
  have hns := ht.goesDown hr
  rw [componentsOf_text hns]
  split_ifs with hnil
  · simp [hnil, expandAll, expand, isFolder, spotAt, Reaches]
  · have hdesc : ∀ c ∈ r.map Component.ofText, c.Descends :=
      List.forall_mem_map.mpr fun n hn => descends_ofText (hns n hn)
    simp only [mem_expandAll_spotAt hdesc, List.nil_append, spotAt_inj, exists_eq_right']

lemma IsRoot.reaches_iff (hr : t.IsRoot r) (ht : t.IsSound) (hfile : t.isFile (p ++ q) = true) :
    t.Reaches (r.map Component.ofText) [] p ↔ p = r := by
  rw [← mem_expandAll_path ht hr.folder]
  exact hr.alone p q hfile

lemma isRoot_of_isPlain (ht : t.IsSound) (hr : t.isFolder r = true) (hplain : IsPlain r) :
    t.IsRoot r := by
  refine ⟨hr, fun a b _ => ?_⟩
  rw [mem_expandAll_path ht hr, hplain.map_ofText (ht.goesDown hr), ← List.append_nil (r.map _),
    reaches_names_append]
  simp [Reaches, has_of_isFolder hr]

end Tree

/-! ### Patterns that stay in the root -/

/-- A relative pattern that does not go up. -/
structure IsInner (e : Text) : Prop where
  relative : e.head? ≠ some '/'
  stays : ∀ n ∈ (Path.ofText e).parts, n ≠ Path.dotDot

instance (e : Text) : Decidable (IsInner e) :=
  decidable_of_iff (e.head? ≠ some '/' ∧ ∀ n ∈ (Path.ofText e).parts, n ≠ Path.dotDot)
    ⟨fun ⟨hr, hs⟩ => ⟨hr, hs⟩, fun ⟨hr, hs⟩ => ⟨hr, hs⟩⟩

/-- The components of a relative pattern. -/
def innerComponents (e : Text) : List Component := (Path.ofText e).parts.map Component.ofText

/-- What stands before the first wildcard of the pattern, as seen from `r`, is not too long for the
system. -/
def FitsUnder (r : Place) (e : Text) : Prop :=
  Fits (Tree.plainNames (r.map Component.ofText ++ innerComponents e)).1

instance (r : Place) (e : Text) : Decidable (FitsUnder r e) :=
  inferInstanceAs (Decidable (Fits _))

section

variable {t u : Tree} {r s : Place} {e : Text}

lemma anchored_of_isInner (he : IsInner e) : anchored ⟨['/'], r⟩ e =
    (⟨['/'], r ++ (Path.ofText e).parts⟩ : Path).text := by
  have hslashes : e.takeWhile Path.isSlash = [] := by
    cases e with
    | nil => rfl
    | cons c e =>
      refine List.takeWhile_cons_of_neg fun hc => he.relative ?_
      rw [List.head?_cons, eq_of_beq hc]
  have hroot : (Path.ofText e).root = [] := by
    rw [Path.ofText, hslashes]
    rfl
  rw [anchored, if_neg (by simpa using he.relative), Path.join, Path.isAbsolute, hroot]
  rfl

lemma goesDown_inner (he : IsInner e) (hr : ∀ n ∈ r, GoesDown n) :
    ∀ n ∈ r ++ (Path.ofText e).parts, GoesDown n :=
  List.forall_mem_append.mpr
    ⟨hr, fun n hn => goesDown_parts hn (he.stays n hn)⟩

lemma shownFrom_spotAt (r : Place) (q : List Text) :
    shownFrom ⟨['/'], r⟩ (Tree.spotAt (r ++ q)) = (⟨[], q⟩ : Path).text := by
  simp [shownFrom, Tree.spotAt, Path.relativeTo?]

/-- A pattern that stays in the root finds the files that the components of both reach. -/
lemma mem_filesOf {fs : List Text} {w : Text} (ht : t.IsSound) (hr : t.isFolder r = true)
    (he : IsInner e) (hfits : FitsUnder r e) (h : filesOf t ⟨['/'], r⟩ e = .ok fs) :
    w ∈ fs ↔ ∃ p, t.isFile p = true ∧
      t.Reaches (r.map Component.ofText ++ innerComponents e) [] p ∧
      w = shownFrom ⟨['/'], r⟩ (Tree.spotAt p) := by
  rw [filesOf, anchored_of_isInner he] at h
  cases hl : t.spots (⟨['/'], r ++ (Path.ofText e).parts⟩ : Path).text with
  | error f =>
    rw [hl] at h
    cases h
  | ok l =>
    rw [hl] at h
    obtain rfl : (l.filter fun x => t.isFile x.place).map (shownFrom ⟨['/'], r⟩) = fs :=
      Except.ok.inj h
    rw [FitsUnder, innerComponents, ← List.map_append] at hfits
    obtain ⟨hplaces, hfound⟩ := Tree.mem_spots ht (goesDown_inner he (ht.goesDown hr)) hfits hl
    rw [List.map_append] at hfound
    simp only [List.mem_map, List.mem_filter]
    constructor
    · rintro ⟨x, ⟨hx, hfile⟩, rfl⟩
      obtain ⟨p, rfl⟩ := hplaces x hx
      exact ⟨p, hfile, (hfound p hfile).mp hx, rfl⟩
    · rintro ⟨p, hfile, hp, rfl⟩
      exact ⟨Tree.spotAt p, ⟨(hfound p hfile).mpr hp, hfile⟩, rfl⟩

/-- **In a root that stands for itself alone a pattern finds the files that its components reach
from there**, each shown by the way from the root. -/
lemma mem_filesOf_root {fs : List Text} {w : Text} (ht : t.IsSound) (hr : t.IsRoot r)
    (he : IsInner e) (hfits : FitsUnder r e) (h : filesOf t ⟨['/'], r⟩ e = .ok fs) :
    w ∈ fs ↔ ∃ q, t.isFile (r ++ q) = true ∧ t.Reaches (innerComponents e) r q ∧
      w = (⟨[], q⟩ : Path).text := by
  rw [mem_filesOf ht hr.folder he hfits h]
  constructor
  · rintro ⟨p, hfile, hp, rfl⟩
    obtain ⟨a, q, rfl, ha, hq⟩ := Tree.reaches_of_append hp
    obtain rfl := (hr.reaches_iff ht hfile).mp ha
    exact ⟨q, hfile, hq, shownFrom_spotAt a q⟩
  · rintro ⟨q, hfile, hq, rfl⟩
    refine ⟨r ++ q, hfile, ?_, (shownFrom_spotAt r q).symm⟩
    exact Tree.reaches_append ((hr.reaches_iff ht hfile).mpr rfl) hr.folder hq

end

/-! ### What goes wrong -/

/-- What goes wrong, if anything does. -/
def fault? {α : Type} : Except (Fault × Path) α → Option Fault
  | .ok _ => none
  | .error e => some e.1

lemma fault?_map {α β : Type} (f : α → β) (x : Except (Fault × Path) α) :
    fault? (x.map f) = fault? x := by
  cases x with
  | ok a => rfl
  | error e => rfl

lemma fault?_eq_none {α : Type} {x : Except (Fault × Path) α} :
    fault? x = none ↔ ∃ a, x = .ok a := by
  cases x with
  | ok a => simp [fault?]
  | error e => simp [fault?]

section

variable {α β : Type} {f g : α → Except (Fault × Path) β} {xs : List α}

lemma fault?_mapM_cons (x : α) :
    fault? ((x :: xs).mapM f) = (fault? (f x)).or (fault? (xs.mapM f)) := by
  rw [List.mapM_cons]
  cases f x with
  | error e => rfl
  | ok y =>
    cases xs.mapM f with
    | error e => rfl
    | ok ys => rfl

lemma fault?_mapM (h : ∀ x ∈ xs, fault? (f x) = fault? (g x)) :
    fault? (xs.mapM f) = fault? (xs.mapM g) := by
  induction xs with
  | nil => rfl
  | cons x xs ih =>
    obtain ⟨hx, hxs⟩ := List.forall_mem_cons.mp h
    rw [fault?_mapM_cons, fault?_mapM_cons, hx, ih hxs]

end

namespace Tree

variable {t u : Tree} {r s p q : Place} {ns ms : List Text}

lemma follow_append (h : t.follow p ns = .ok q) (ms : List Text) :
    t.follow p (ns ++ ms) = t.follow q ms := by
  induction ns generalizing p with
  | nil =>
    cases h
    rfl
  | cons n ns ih =>
    rw [List.cons_append, follow]
    rw [follow] at h
    split_ifs at h ⊢ <;> exact ih h

lemma SameUnder.follow (h : t.SameUnder r u s) (hns : ∀ n ∈ ns, GoesDown n) :
    (t.follow r ns).map (fun _ => ()) = (u.follow s ns).map (fun _ => ()) := by
  induction ns generalizing r s with
  | nil => rfl
  | cons n ns ih =>
    obtain ⟨hn, hns⟩ := List.forall_mem_cons.mp hns
    have hdot : (n == Path.dot) = false := beq_eq_false_iff_ne.mpr hn.notDot
    have hdots : (n == Path.dotDot) = false := beq_eq_false_iff_ne.mpr hn.notDots
    rw [Tree.follow, Tree.follow, hdot, hdots, h.isFile, h.isFolder]
    simp only [Bool.false_eq_true, if_false]
    split_ifs
    · rfl
    · exact ih (h.append [n]) hns
    · rfl
    · rfl

/-- Names that are followed from both roots lead on from both, or fail for the same reason. -/
lemma SameUnder.place (h : t.SameUnder r u s) (ht : t.IsSound) (hu : u.IsSound)
    (hr : t.isFolder r = true) (hs : u.isFolder s = true) (hns : ∀ n ∈ ns, GoesDown n)
    (hfits : Fits (r ++ ns)) (hfits' : Fits (s ++ ns)) :
    (t.place ⟨['/'], r ++ ns⟩).map (fun _ => ()) = (u.place ⟨['/'], s ++ ns⟩).map (fun _ => ()) := by
  have hlead {v : Tree} {o : Place} (hv : v.IsSound) (ho : v.isFolder o = true)
      (hfits : Fits (o ++ ns)) : v.place ⟨['/'], o ++ ns⟩ =
        if ∃ n ∈ ns, '\x00' ∈ n then .error .endMark else v.follow o ns := by
    have hname := hv.isName (has_of_isFolder ho)
    have hway : v.follow [] o = .ok o := follow_of_has hname fun _ => has_of_isFolder ho
    split_ifs with hmark
    · obtain ⟨n, hn, hin⟩ := hmark
      rw [Tree.place, if_pos (contains_text.mpr ⟨n, List.mem_append_right o hn, hin⟩)]
    · push Not at hmark
      rw [place_of_fits hfits, follow_append hway]
      exact List.forall_mem_append.mpr ⟨fun n hn => (hname n hn).noEndMark, hmark⟩
  rw [hlead ht hr hfits, hlead hu hs hfits']
  split_ifs
  · rfl
  · exact h.follow hns

/-- What makes a search fail, by what the names at the beginning come to and what follows them. -/
def searchFault? (rest : List Component) : Except Fault Unit → Option Fault
  | .error .endMark => if rest.isEmpty || rest == [.folder] then none else some .endMark
  | .error .tooLong => if !rest.isEmpty && rest.all (· == .anyDepth) then some .tooLong else none
  | _ => none

lemma fault?_spots {names : List Text} {rest : List Component} (hns : ∀ n ∈ ns, GoesDown n)
    (hsplit : plainNames (componentsOf (⟨['/'], ns⟩ : Path).text) = (names, rest)) :
    fault? (t.spots (⟨['/'], ns⟩ : Path).text) =
      searchFault? rest ((t.place ⟨['/'], names⟩).map fun _ => ()) := by
  rw [spots_text hns hsplit]
  by_cases hrest : rest.isEmpty = true
  · rw [if_pos hrest]
    cases t.place ⟨['/'], names⟩ with
    | ok q => rfl
    | error f => cases f <;> simp [searchFault?, Except.map, fault?, hrest]
  · rw [if_neg hrest]
    cases t.place ⟨['/'], names⟩ with
    | ok q => rfl
    | error f =>
      cases f with
      | endMark => simp only [searchFault?, Except.map, hrest, Bool.false_or]; split_ifs <;> rfl
      | tooLong => simp only [searchFault?, Except.map]; split_ifs <;> rfl
      | _ => rfl

/-- The names of a root without wildcards stand before those that follow. -/
lemma plainNames_root (hr : ∀ n ∈ r, GoesDown n) (hplain : IsPlain r) (cs : List Component) :
    plainNames (r.map Component.ofText ++ cs) = (r ++ (plainNames cs).1, (plainNames cs).2) := by
  rw [hplain.map_ofText hr, plainNames_names]

end Tree

section

variable {t u : Tree} {r s : Place} {e : Text}

lemma fault?_filesOf (he : IsInner e) : fault? (filesOf t ⟨['/'], r⟩ e) =
    fault? (t.spots (⟨['/'], r ++ (Path.ofText e).parts⟩ : Path).text) := by
  rw [filesOf, anchored_of_isInner he, fault?_map]

/-- The names of the pattern can all be names of files. -/
def IsProper (e : Text) : Prop := ∀ n ∈ (Path.ofText e).parts, '\x00' ∉ n ∧ isLong n = false

instance (e : Text) : Decidable (IsProper e) :=
  List.decidableBAll _ (Path.ofText e).parts

lemma fault?_filesOf_of_isProper (ht : t.IsSound) (hr : t.isFolder r = true) (he : IsInner e)
    (hproper : IsProper e) (hfits : FitsUnder r e) :
    fault? (filesOf t ⟨['/'], r⟩ e) = none := by
  have hdown := goesDown_inner he (ht.goesDown hr)
  have hnames : ∀ n ∈ r ++ (Path.ofText e).parts, '\x00' ∉ n ∧ isLong n = false :=
    List.forall_mem_append.mpr ⟨fun n hn =>
      have hname := ht.isName (Tree.has_of_isFolder hr) n hn
      ⟨hname.noEndMark, hname.short⟩, hproper⟩
  rw [FitsUnder, innerComponents, ← List.map_append] at hfits
  rw [fault?_filesOf he]
  generalize r ++ (Path.ofText e).parts = ns at hdown hnames hfits ⊢
  obtain ⟨names, rest, hsplit⟩ : ∃ names rest, Tree.plainNames
      (componentsOf (⟨['/'], ns⟩ : Path).text) = (names, rest) := ⟨_, _, rfl⟩
  have hmem := Tree.mem_of_mem_names hdown hsplit
  rw [← Tree.names_eq hdown hsplit] at hfits
  have hfollow := Tree.place_of_fits (t := t) hfits fun n hn => (hnames n (hmem n hn)).1
  rw [Tree.fault?_spots hdown hsplit, hfollow]
  cases hf : t.follow [] names with
  | ok q => rfl
  | error f =>
    rcases Tree.fault_of_follow hf with ⟨-, n, hn, hlong⟩ | rfl | rfl
    · rw [(hnames n (hmem n hn)).2] at hlong
      cases hlong
    · rfl
    · rfl

lemma fault?_spots_of_plain (hr : ∀ n ∈ r, GoesDown n) (hplain : IsPlain r) :
    fault? (t.spots (⟨['/'], r⟩ : Path).text) = none := by
  by_cases hnil : r = []
  · rw [hnil]
    rfl
  · have hsplit : Tree.plainNames (componentsOf (⟨['/'], r⟩ : Path).text) = (r ++ [], []) := by
      rw [componentsOf_text hr, if_neg hnil, ← List.append_nil (r.map _)]
      exact Tree.plainNames_root hr hplain []
    rw [Tree.spots_text hr hsplit]
    rfl

lemma fault?_filesOf_relocated (ht : t.IsSound) (hu : u.IsSound) (hr : t.isFolder r = true)
    (hs : u.isFolder s = true) (hplain : IsPlain r) (hplain' : IsPlain s)
    (hsame : t.SameUnder r u s) (he : IsInner e) (hfits : FitsUnder r e) (hfits' : FitsUnder s e) :
    fault? (filesOf t ⟨['/'], r⟩ e) = fault? (filesOf u ⟨['/'], s⟩ e) := by
  have hrs := ht.goesDown hr
  have hss := hu.goesDown hs
  rw [fault?_filesOf he, fault?_filesOf he]
  by_cases hnil : (Path.ofText e).parts = []
  · rw [hnil, List.append_nil, List.append_nil, fault?_spots_of_plain hrs hplain,
      fault?_spots_of_plain hss hplain']
  · have hsplit {o : Place} (ho : ∀ n ∈ o, GoesDown n) (hplain : IsPlain o) :
        Tree.plainNames (componentsOf (⟨['/'], o ++ (Path.ofText e).parts⟩ : Path).text) =
          (o ++ (Tree.plainNames (innerComponents e)).1,
            (Tree.plainNames (innerComponents e)).2) := by
      rw [componentsOf_text (goesDown_inner he ho), if_neg (by simp [hnil]), List.map_append]
      exact Tree.plainNames_root ho hplain (innerComponents e)
    rw [FitsUnder, Tree.plainNames_root hrs hplain] at hfits
    rw [FitsUnder, Tree.plainNames_root hss hplain'] at hfits'
    have hdown : ∀ n ∈ (Tree.plainNames (innerComponents e)).1, GoesDown n :=
      fun n hn => goesDown_inner he hrs n (List.mem_append_right r (Tree.mem_of_mem_plainNames hn))
    have hplace := hsame.place ht hu hr hs hdown hfits hfits'
    rw [Tree.fault?_spots (goesDown_inner he hrs) (hsplit hrs hplain),
      Tree.fault?_spots (goesDown_inner he hss) (hsplit hss hplain'), hplace]

end

end ClassPurge.Files
