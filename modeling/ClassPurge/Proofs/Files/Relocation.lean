import ClassPurge.Proofs.Files.Roots

/-!
A project that lies elsewhere. What is found in two folders with the same in them is the same if the
path of each stands for the folder alone when it is read as a pattern. If the path of one has
wildcards that stand for something else, then other files are found in it or none.
-/

namespace ClassPurge.Files

variable {t u : Tree} {r s : Place} {ps is : List Text} {p q : Place}

/-- None of the patterns leaves the root, and with neither root it gets too long. -/
def Stay (r s : Place) (ps : List Text) : Prop :=
  ∀ e ∈ ps.flatMap expandBraces, IsInner e ∧ FitsUnder r e ∧ FitsUnder s e

instance (r s : Place) (ps : List Text) : Decidable (Stay r s ps) :=
  List.decidableBAll _ (ps.flatMap expandBraces)

lemma Stay.symm (h : Stay r s ps) : Stay s r ps :=
  fun e he => ⟨(h e he).1, (h e he).2.2, (h e he).2.1⟩

/-! ### Both roots stand for themselves -/

lemma fault?_discover (t : Tree) (root : Path) (ps is : List Text) :
    fault? (discover t root ps is) = fault? ((ps.flatMap expandBraces).mapM (filesOf t root)) :=
  fault?_map _ _

lemma exists_found (ht : t.IsSound) (hr : t.isFolder r = true)
    (hps : ∀ e ∈ ps.flatMap expandBraces, IsInner e ∧ IsProper e ∧ FitsUnder r e) :
    ∃ found, discover t ⟨['/'], r⟩ ps is = .ok found := by
  rw [← fault?_eq_none, fault?_discover, fault?_eq_none, exists_mapM_eq_ok]
  intro e he
  obtain ⟨hinner, hproper, hfits⟩ := hps e he
  exact fault?_eq_none.mp (fault?_filesOf_of_isProper ht hr hinner hproper hfits)

/-- What is found in one root is found in the other. -/
lemma found_of_found {found found' : TextSet} {w : Text} (ht : t.IsSound) (hu : u.IsSound)
    (hr : t.IsRoot r) (hs : u.IsRoot s) (hsame : t.SameUnder r u s) (hps : Stay r s ps)
    (h : discover t ⟨['/'], r⟩ ps is = .ok found) (h' : discover u ⟨['/'], s⟩ ps is = .ok found')
    (hw : w ∈ found) : w ∈ found' := by
  obtain ⟨-, hmem⟩ := discover_eq_ok.mp h
  obtain ⟨hok, hmem'⟩ := discover_eq_ok.mp h'
  obtain ⟨hkept, e, he, fs, hfs, hw⟩ := (hmem w).mp hw
  obtain ⟨gs, hgs⟩ := hok e he
  obtain ⟨hinner, hfits, hfits'⟩ := hps e he
  obtain ⟨q, hfile, hq, rfl⟩ := (mem_filesOf_root ht hr hinner hfits hfs).mp hw
  have hw' : (⟨[], q⟩ : Path).text ∈ gs := (mem_filesOf_root hu hs hinner hfits' hgs).mpr
    ⟨q, by rw [← (hsame q).1, hfile], (hsame.reaches _ q).mp hq, rfl⟩
  exact (hmem' _).mpr ⟨hkept, e, he, gs, hgs, hw'⟩

lemma found_eq_found {found found' : TextSet} (ht : t.IsSound) (hu : u.IsSound)
    (hr : t.IsRoot r) (hs : u.IsRoot s) (hsame : t.SameUnder r u s) (hps : Stay r s ps)
    (h : discover t ⟨['/'], r⟩ ps is = .ok found)
    (h' : discover u ⟨['/'], s⟩ ps is = .ok found') : found = found' :=
  TextSet.ext fun _ => ⟨found_of_found ht hu hr hs hsame hps h h',
    found_of_found hu ht hs hr hsame.symm hps.symm h' h⟩

/-- Where neither path has a wildcard, faults agree as well. -/
lemma discover_eq_of_isPlain (ht : t.IsSound) (hu : u.IsSound) (hr : t.isFolder r = true)
    (hs : u.isFolder s = true) (hplain : IsPlain r) (hplain' : IsPlain s)
    (hsame : t.SameUnder r u s) (hps : Stay r s ps) :
    (discover t ⟨['/'], r⟩ ps is).mapError Prod.fst =
      (discover u ⟨['/'], s⟩ ps is).mapError Prod.fst := by
  have hfault : fault? (discover t ⟨['/'], r⟩ ps is) = fault? (discover u ⟨['/'], s⟩ ps is) := by
    rw [fault?_discover, fault?_discover]
    exact fault?_mapM fun e he => fault?_filesOf_relocated ht hu hr hs hplain hplain' hsame
      (hps e he).1 (hps e he).2.1 (hps e he).2.2
  cases h : discover t ⟨['/'], r⟩ ps is with
  | ok found =>
    cases h' : discover u ⟨['/'], s⟩ ps is with
    | ok found' =>
      have hr' := Tree.isRoot_of_isPlain ht hr hplain
      rw [found_eq_found ht hu hr' (Tree.isRoot_of_isPlain hu hs hplain') hsame hps h h']
    | error f => simp [h, h', fault?] at hfault
  | error f =>
    cases h' : discover u ⟨['/'], s⟩ ps is with
    | ok found' => simp [h, h', fault?] at hfault
    | error f' =>
      rw [h, h'] at hfault
      exact congrArg Except.error (Option.some.inj hfault)

/-! ### Outlines

A pattern with a wildcard for each name on the way to a file finds the file, and whatever else it
finds lies as deep. So it tells whether the path of the root leads anywhere else.
-/

/-- The wildcard for all names, hidden or not, as `n` is. -/
def mask (n : Text) : Text := if isHidden n then ['.', '*'] else ['*']

def outline (q : List Text) : Text := (⟨[], q.map mask⟩ : Path).text

lemma mask_cases (n : Text) : mask n = ['.', '*'] ∨ mask n = ['*'] := by
  rw [mask]
  split_ifs
  · exact .inl rfl
  · exact .inr rfl

lemma goesDown_mask (q : List Text) : ∀ n ∈ q.map mask, GoesDown n := by
  refine List.forall_mem_map.mpr fun n _ => ?_
  rcases mask_cases n with h | h
  · rw [h]
    decide
  · rw [h]
    decide

lemma finds_mask (n : Text) : finds (mask n) n = true := by
  by_cases hidden : isHidden n = true
  · obtain ⟨r, rfl⟩ := List.head?_eq_some_iff.mp (eq_of_beq hidden)
    have hwilds : wilds ['.', '*'] = [.char '.', .anyText] := by simp [wilds]
    rw [mask, if_pos hidden, finds, matchesWild, hwilds, wildMatch_char, wildMatch_rest]
    rfl
  · have hwilds : wilds ['*'] = [.anyText] := by simp [wilds]
    rw [mask, if_neg hidden, finds, matchesWild, hwilds, wildMatch_rest]
    simp [hidden]

lemma parts_outline (q : List Text) : (Path.ofText (outline q)).parts = q.map mask :=
  parts_ofText_text (goesDown_mask q)

lemma isInner_outline (q : List Text) : IsInner (outline q) :=
  ⟨head?_text (goesDown_mask q), by
    rw [parts_outline]
    exact fun n hn => (goesDown_mask q n hn).notDots⟩

lemma isProper_outline (q : List Text) : IsProper (outline q) := by
  rw [IsProper, parts_outline]
  refine List.forall_mem_map.mpr fun n _ => ?_
  rcases mask_cases n with h | h
  · rw [h]
    decide
  · rw [h]
    decide

lemma innerComponents_outline (q : List Text) :
    innerComponents (outline q) = (q.map mask).map .wild := by
  rw [innerComponents, parts_outline]
  refine List.map_congr_left (List.forall_mem_map.mpr fun n _ => ?_)
  rcases mask_cases n with h | h
  · rw [h]
    rfl
  · rw [h]
    rfl

lemma fitsUnder_outline (hfits : FitsUnder r []) (q : List Text) : FitsUnder r (outline q) := by
  have hnil : innerComponents [] = [] := rfl
  rw [FitsUnder, hnil, List.append_nil] at hfits
  rw [FitsUnder, innerComponents_outline, Tree.plainNames_wild]
  exact hfits

lemma expandBraces_outline (q : List Text) : expandBraces (outline q) = [outline q] := by
  refine expandBraces_of_avoids ?_
  by_cases hnil : q = []
  · rw [hnil]
    decide
  · have htext : outline q = Text.join ['/'] (q.map mask) := by simp [outline, Path.text, hnil]
    rw [htext]
    refine Text.avoids_join (by decide) (List.forall_mem_map.mpr fun n _ => ?_)
    rcases mask_cases n with h | h
    · rw [h]
      decide
    · rw [h]
      decide

lemma stay_outline (hr : FitsUnder r []) (hs : FitsUnder s []) (q : List Text) :
    Stay r s [outline q] := by
  intro e he
  rw [List.flatMap_singleton, expandBraces_outline, List.mem_singleton] at he
  rw [he]
  exact ⟨isInner_outline q, fitsUnder_outline hr q, fitsUnder_outline hs q⟩

/-- The outline of a way finds what the way leads to. -/
lemma reaches_outline (h : t.has (p ++ q) = true) : t.Reaches ((q.map mask).map .wild) p q := by
  induction q generalizing p with
  | nil => rfl
  | cons n q ih =>
    have hsplit : p ++ n :: q = p ++ [n] ++ q := by simp
    rw [hsplit] at h
    refine ⟨[n], q, rfl, ⟨n, rfl, Tree.has_of_has_append h, finds_mask n⟩, fun hne => ?_, ih h⟩
    have hq : q ≠ [] := by simpa using hne
    exact Tree.isFolder_of_has hq h

lemma length_of_reaches {ws : List Text} (h : t.Reaches (ws.map .wild) p q) :
    q.length = ws.length := by
  induction ws generalizing p q with
  | nil =>
    obtain rfl := h
    rfl
  | cons w ws ih =>
    obtain ⟨_, b, rfl, ⟨n, rfl, -, -⟩, -, hb⟩ := h
    rw [List.length_append, ih hb, List.length_singleton, List.length_cons, Nat.add_comm]

/-- Files in what components reach are reached with their outline behind the components. -/
lemma reaches_append_outline {cs : List Component} (hp : t.Reaches cs [] p)
    (hfile : t.isFile (p ++ q) = true) :
    t.Reaches (cs ++ (q.map mask).map .wild) [] (p ++ q) := by
  by_cases hnil : q = []
  · rw [hnil, List.map_nil, List.map_nil, List.append_nil, List.append_nil]
    exact hp
  · have hhas := Tree.has_of_isFile hfile
    exact Tree.reaches_append hp (Tree.isFolder_of_has hnil hhas) (reaches_outline hhas)

lemma reaches_of_append_outline {cs : List Component}
    (h : t.Reaches (cs ++ (q.map mask).map .wild) [] (p ++ q)) : t.Reaches cs [] p := by
  obtain ⟨a, b, hpath, ha, hb⟩ := Tree.reaches_of_append h
  have hlength : q.length = b.length := by rw [length_of_reaches hb, List.length_map]
  obtain rfl := (List.append_inj' hpath hlength).1
  exact ha

/-- What is shown as it is seen from the root lies in the root. -/
lemma eq_append_of_shownFrom (hp : ∀ n ∈ p, GoesDown n) (hq : ∀ n ∈ q, GoesDown n)
    (h : shownFrom ⟨['/'], r⟩ (Tree.spotAt p) = (⟨[], q⟩ : Path).text) : p = r ++ q := by
  by_cases hpre : r <+: p
  · obtain ⟨q', rfl⟩ := hpre
    rw [shownFrom_spotAt] at h
    have hparts := congrArg (fun w => (Path.ofText w).parts) h
    have hq' : ∀ n ∈ q', GoesDown n := fun n hn => hp n (List.mem_append_right r hn)
    rw [parts_ofText_text hq', parts_ofText_text hq] at hparts
    rw [hparts]
  · have hshown : shownFrom ⟨['/'], r⟩ (Tree.spotAt p) = '/' :: Text.join ['/'] p := by
      simp [shownFrom, Tree.spotAt, Path.relativeTo?, hpre, Path.text]
    rw [hshown] at h
    exact absurd (congrArg List.head? h).symm (head?_text hq)

lemma exists_files_outline {root : Path} {found : TextSet}
    (h : discover t root [outline q] [] = .ok found) :
    ∃ fs, filesOf t root (outline q) = .ok fs ∧ ∀ w, w ∈ found ↔ w ∈ fs := by
  obtain ⟨hok, hmem⟩ := discover_eq_ok.mp h
  rw [List.flatMap_singleton, expandBraces_outline] at hok hmem
  obtain ⟨fs, hfs⟩ := hok _ (List.mem_singleton_self _)
  refine ⟨fs, hfs, fun w => ?_⟩
  rw [hmem]
  simp [isIgnored, hfs]

lemma exists_found_outline (ht : t.IsSound) (hr : t.isFolder r = true) (hfits : FitsUnder r [])
    (q : List Text) : ∃ found, discover t ⟨['/'], r⟩ [outline q] [] = .ok found := by
  refine exists_found ht hr fun e he => ?_
  rw [List.flatMap_singleton, expandBraces_outline, List.mem_singleton] at he
  rw [he]
  exact ⟨isInner_outline q, isProper_outline q, fitsUnder_outline hfits q⟩

/-- **A folder in which outlines find the same as in a root can be a root itself.** -/
lemma isRoot_of_agree (ht : t.IsSound) (hu : u.IsSound) (hr : t.isFolder r = true)
    (hs : u.IsRoot s) (hsame : t.SameUnder r u s) (hfits : FitsUnder r []) (hfits' : FitsUnder s [])
    (h : ∀ b found found', discover t ⟨['/'], r⟩ [outline b] [] = .ok found →
      discover u ⟨['/'], s⟩ [outline b] [] = .ok found' → found = found') : t.IsRoot r := by
  refine ⟨hr, fun a b hfile => ?_⟩
  rw [Tree.mem_expandAll_path ht hr]
  obtain ⟨found, hfound⟩ := exists_found_outline ht hr hfits b
  obtain ⟨found', hfound'⟩ := exists_found_outline hu hs.folder hfits' b
  obtain rfl := h b found found' hfound hfound'
  obtain ⟨fs, hfs, hmem⟩ := exists_files_outline hfound
  obtain ⟨gs, hgs, hmem'⟩ := exists_files_outline hfound'
  -- What is shown of a file in the one tree is shown of one in the other.
  have hshown (w : Text) : w ∈ fs ↔ w ∈ gs := (hmem w).symm.trans (hmem' w)
  simp only [mem_filesOf ht hr (isInner_outline b) (fitsUnder_outline hfits b) hfs,
    mem_filesOf_root hu hs (isInner_outline b) (fitsUnder_outline hfits' b) hgs,
    innerComponents_outline] at hshown
  constructor
  · intro ha
    obtain ⟨q, hq, hreach, he⟩ :=
      (hshown _).mp ⟨a ++ b, hfile, reaches_append_outline ha hfile, rfl⟩
    have hway : ∀ n ∈ q, GoesDown n := fun n hn =>
      hu.goesDown_of_isFile hq n (List.mem_append_right s hn)
    have hpath : a ++ b = r ++ q := eq_append_of_shownFrom (ht.goesDown_of_isFile hfile) hway he
    have hlength : b.length = q.length := by rw [length_of_reaches hreach, List.length_map]
    exact (List.append_inj' hpath hlength).1
  · rintro rfl
    have hfile' : u.isFile (s ++ b) = true := by rw [← (hsame b).1, hfile]
    have hreach' := reaches_outline (Tree.has_of_isFile hfile')
    obtain ⟨p, hp, hreach, he⟩ := (hshown _).mpr ⟨b, hfile', hreach', rfl⟩
    have hway : ∀ n ∈ b, GoesDown n := fun n hn =>
      ht.goesDown_of_isFile hfile n (List.mem_append_right a hn)
    obtain rfl : p = a ++ b := eq_append_of_shownFrom (ht.goesDown_of_isFile hp) hway he.symm
    exact reaches_of_append_outline hreach

/-! ### Two roots -/

/-- **Discovery does not depend on where the project lies exactly if the path of its folder stands
for nothing else when it is read as a pattern.** This is said of a folder by comparison with a root
that has the same in it. Patterns of proper names are looked for without fail in both, and where
neither path has a wildcard there is also the same fault if there is one. -/
theorem discover_relocated (ht : t.IsSound) (hu : u.IsSound) (hs : u.IsRoot s)
    (hsame : t.SameUnder r u s) (hfits : FitsUnder r []) (hfits' : FitsUnder s []) :
    (t.IsRoot r ↔ ∀ ps is, Stay r s ps → ∀ found found',
        discover t ⟨['/'], r⟩ ps is = .ok found → discover u ⟨['/'], s⟩ ps is = .ok found' →
          found = found') ∧
      (∀ ps is, Stay r s ps → (∀ e ∈ ps.flatMap expandBraces, IsProper e) →
        (∃ found, discover t ⟨['/'], r⟩ ps is = .ok found) ∧
          ∃ found, discover u ⟨['/'], s⟩ ps is = .ok found) ∧
      (IsPlain r → IsPlain s → ∀ ps is, Stay r s ps →
        (discover t ⟨['/'], r⟩ ps is).mapError Prod.fst =
          (discover u ⟨['/'], s⟩ ps is).mapError Prod.fst) := by
  have hr : t.isFolder r = true := hsame.isFolder.trans hs.folder
  refine ⟨⟨fun hr ps is hps found found' => found_eq_found ht hu hr hs hsame hps, fun h => ?_⟩,
    fun ps is hps hproper => ⟨?_, ?_⟩, fun hplain hplain' ps is hps => ?_⟩
  · exact isRoot_of_agree ht hu hr hs hsame hfits hfits' fun b =>
      h [outline b] [] (stay_outline hfits hfits' b)
  · exact exists_found ht hr fun e he => ⟨(hps e he).1, hproper e he, (hps e he).2.1⟩
  · exact exists_found hu hs.folder fun e he => ⟨(hps e he).1, hproper e he, (hps e he).2.2⟩
  · exact discover_eq_of_isPlain ht hu hr hs.folder hplain hplain' hsame hps

/-- A bracket that does not close stands for itself, so a folder that is named for it finds what
another finds. -/
theorem discover_relocated_open_bracket :
    let t : Tree := ⟨[(["[x".toList, "a.html".toList], [])], []⟩
    let u : Tree := ⟨[(["c".toList, "a.html".toList], [])], []⟩
    ∃ found, discover t ⟨['/'], ["[x".toList]⟩ ["*.html".toList] [] = .ok found ∧
      discover u ⟨['/'], ["c".toList]⟩ ["*.html".toList] [] = .ok found := by
  intro t u
  have ht : t.IsSound := by decide
  have hu : u.IsSound := by decide
  have hpath : t.expandAll [Tree.spotAt []] (componentsOf (⟨['/'], ["[x".toList]⟩ : Path).text) =
      [Tree.spotAt ["[x".toList]] := by decide +kernel
  have hr : t.IsRoot ["[x".toList] :=
    ⟨by decide, fun a b _ => by rw [hpath, List.mem_singleton, Tree.spotAt_inj]⟩
  have hs : u.IsRoot ["c".toList] := Tree.isRoot_of_isPlain hu (by decide) (by decide)
  have hsame : t.SameUnder ["[x".toList] u ["c".toList] := fun q => by
    simp [t, u, Tree.isFile, Tree.file?, Tree.isFolder, Tree.isUnder]
  have hstay : Stay ["[x".toList] ["c".toList] ["*.html".toList] := by decide
  obtain ⟨hagree, hproper, -⟩ := discover_relocated ht hu hs hsame (by decide) (by decide)
  obtain ⟨⟨found, h⟩, found', h'⟩ := hproper _ [] hstay (by decide)
  obtain rfl := hagree.mp hr _ [] hstay found found' h h'
  exact ⟨found, h, h'⟩

/-- Brackets that close stand for what they hold, so in a folder that is named for them nothing is
found. -/
theorem closed_brackets_find_nothing :
    let t : Tree :=
      ⟨[(["a[b]".toList, "x.html".toList], []), (["c".toList, "x.html".toList], [])], []⟩
    t.IsSound ∧ t.SameUnder ["a[b]".toList] t ["c".toList] ∧
      Stay ["a[b]".toList] ["c".toList] ["*.html".toList] ∧
      discover t ⟨['/'], ["a[b]".toList]⟩ ["*.html".toList] [] = .ok (.ofList []) ∧
      discover t ⟨['/'], ["c".toList]⟩ ["*.html".toList] [] = .ok (.ofList ["x.html".toList]) := by
  intro t
  have hfiles : filesOf t ⟨['/'], ["a[b]".toList]⟩ "*.html".toList = .ok [] := by decide +kernel
  have hfiles' : filesOf t ⟨['/'], ["c".toList]⟩ "*.html".toList = .ok ["x.html".toList] := by
    decide +kernel
  refine ⟨by decide, fun q => ⟨?_, ?_⟩, by decide, ?_, ?_⟩
  · rw [Bool.eq_iff_iff, Tree.isFile_iff, Tree.isFile_iff]
    simp [t]
  · simp [t, Tree.isFolder, Tree.isUnder, List.isPrefixOf]
  · change ((["*.html".toList].mapM (filesOf t _)).map _) = _
    rw [List.mapM_cons, hfiles]
    rfl
  · change ((["*.html".toList].mapM (filesOf t _)).map _) = _
    rw [List.mapM_cons, hfiles']
    rfl

end ClassPurge.Files
