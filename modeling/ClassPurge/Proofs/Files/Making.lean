import ClassPurge.Proofs.Files.WrittenPaths

/-!
What making folders does to a tree. Folders come to it and nothing goes, so every file stays, and no
folder comes where a file is. A way that leads to its end needs nothing made before its last name. A
way that breaks off has a folder made where it does so, and from there it may lead anywhere: double
dots take it back to what was there before, and without them it stays within what is new.
-/

namespace ClassPurge.Files

namespace Place

variable {here : Place} {n : Text}

lemma step_isPrefix_or (here : Place) (n : Text) :
    here.step n <+: here ∨ here.step n = here ++ [n] := by
  rw [step]
  split_ifs
  · exact .inl List.prefix_rfl
  · exact .inl (List.dropLast_prefix here)
  · exact .inr rfl

lemma isPrefix_step (hn : n ≠ Path.dotDot) : here <+: here.step n := by
  rw [step]
  split_ifs with hdot hdots
  · exact List.prefix_rfl
  · exact absurd (by simpa using hdots) hn
  · exact List.prefix_append here [n]

end Place

namespace Tree

variable {t u : Tree} {here p q : Place} {done ns : List Text} {n : Text}

/-! ### One more folder -/

lemma isFolder_addFolder :
    (t.addFolder q).isFolder p = true ↔ t.isFolder p = true ∨ p <+: q := by
  rw [isFolder_iff, isFolder_iff]
  simp only [addFolder, List.mem_append, List.mem_singleton, or_and_right, exists_or,
    exists_eq_left]
  simp only [or_assoc, or_comm, or_left_comm]

lemma isFile_addFolder : (t.addFolder q).isFile p = t.isFile p := rfl

lemma not_isFile_of_isPrefix (hp : t.has p = false) (hpq : p <+: q) : t.isFile q = false := by
  obtain ⟨r, rfl⟩ := hpq
  by_contra hfile
  rw [Bool.not_eq_false] at hfile
  rw [has_of_has_append (has_of_isFile hfile)] at hp
  cases hp

/-! ### Names, one by one -/

/-- A way breaks off where there is nothing, or behind the folder in which it begins. -/
lemma follow_cons_missing (h : t.follow here (n :: ns) = .error .missing) :
    t.has here = false ∨
      t.isFolder here = true ∧ isLong n = false ∧
        t.follow (here.step n) ns = .error .missing := by
  cases hhere : t.isFolder here with
  | false =>
    rw [follow_cons_barred hhere] at h
    cases hfile : t.isFile here with
    | true => rw [hfile] at h; cases h
    | false => exact .inl (by rw [has, hfile, hhere, Bool.or_false])
  | true =>
    cases hn : isLong n with
    | true => rw [follow_cons_tooLong hhere hn] at h; cases h
    | false => exact .inr ⟨rfl, rfl, by rwa [follow_cons hhere hn] at h⟩

lemma follow_append_error {f : Fault} (h : t.follow here ns = .error f) (ms : List Text) :
    t.follow here (ns ++ ms) = .error f := by
  induction ns generalizing here with
  | nil => cases h
  | cons n ns ih =>
    rw [List.cons_append]
    cases hhere : t.isFolder here with
    | false => rwa [follow_cons_barred hhere] at h ⊢
    | true =>
      cases hn : isLong n with
      | true => rwa [follow_cons_tooLong hhere hn] at h ⊢
      | false =>
        rw [follow_cons hhere hn] at h ⊢
        exact ih h

/-- Without double dots every name leads further down. -/
lemma isPrefix_of_follow (hns : Path.dotDot ∉ ns) (h : t.follow here ns = .ok q) : here <+: q := by
  induction ns generalizing here with
  | nil =>
    cases h
    exact List.prefix_rfl
  | cons n ns ih =>
    obtain ⟨hn, hns⟩ := List.ne_and_not_mem_of_not_mem_cons hns
    exact (Place.isPrefix_step hn.symm).trans (ih hns (follow_cons_ok h).2.2)

/-- A way that did not lead anywhere, and does when folders have come where nothing was, had broken
off. -/
lemma eq_missing_of_follow {f : Fault}
    (hkeep : ∀ p, t.isFile p = true → t.isFolder p = false → u.isFolder p = false)
    (ht : t.follow here ns = .error f) (hu : u.follow here ns = .ok q) : f = .missing := by
  induction ns generalizing here with
  | nil => cases ht
  | cons n ns ih =>
    obtain ⟨hfolder, hn, hrest⟩ := follow_cons_ok hu
    cases hhere : t.isFolder here with
    | true => exact ih (by rwa [follow_cons hhere hn] at ht) hrest
    | false =>
      rw [follow_cons_barred hhere] at ht
      cases hfile : t.isFile here with
      | false =>
        rw [hfile] at ht
        cases ht
        rfl
      | true =>
        rw [hkeep here hfile hhere] at hfolder
        cases hfolder

/-- Without double dots, a way that broke off leads to no file that was there. -/
lemma not_isFile_of_follow (hns : Path.dotDot ∉ ns) (ht : t.follow here ns = .error .missing)
    (hu : u.follow here ns = .ok q) : t.isFile q = false := by
  induction ns generalizing here with
  | nil => cases ht
  | cons n ns ih =>
    rcases follow_cons_missing ht with hhere | ⟨-, -, hrest⟩
    · exact not_isFile_of_isPrefix hhere (isPrefix_of_follow hns hu)
    · exact ih (List.not_mem_of_not_mem_cons hns) hrest (follow_cons_ok hu).2.2

/-! ### Folders, name by name -/

lemma makeFrom_cons (hn : isLong n = false) : t.makeFrom here done (n :: ns) =
    if t.isFolder (here.step n) then t.makeFrom (here.step n) (done ++ [n]) ns
    else if t.isFile (here.step n) then (t, some (.alreadyThere, done ++ [n]))
    else (t.addFolder (here.step n)).makeFrom (here.step n) (done ++ [n]) ns := by
  rw [makeFrom, if_neg (by simp [hn])]

/-- What holds of a tree holds when folders were made if each folder that is made, in one that is
there and where no file is, keeps it. -/
lemma makeFrom_induction {P : Tree → Prop}
    (hadd : ∀ t here n, P t → t.isFolder here = true → t.isFile (here ++ [n]) = false →
      P (t.addFolder (here ++ [n])))
    (hhere : t.isFolder here = true) (h : P t) : P (t.makeFrom here done ns).1 := by
  induction ns generalizing t here done with
  | nil => exact h
  | cons n ns ih =>
    rw [makeFrom]
    split_ifs with hn hfolder hfile
    · exact h
    · exact ih hfolder h
    · exact h
    · -- A name that does not lead down leads to a folder.
      have hstep : here.step n = here ++ [n] :=
        (here.step_isPrefix_or n).resolve_left fun hpre =>
          hfolder (isFolder_of_isPrefix hpre hhere)
      rw [hstep] at hfile ⊢
      exact ih (isFolder_addFolder.mpr (.inr List.prefix_rfl))
        (hadd t here n h hhere (by simpa using hfile))

/-- A way that leads to its end has nothing made of it but its end. -/
lemma makeFrom_of_follow (h : t.follow here ns = .ok q)
    (hstop : (t.makeFrom here done ns).2.isSome = true) : (t.makeFrom here done ns).1 = t := by
  induction ns generalizing here done with
  | nil => rfl
  | cons n ns ih =>
    obtain ⟨-, hn, hrest⟩ := follow_cons_ok h
    rw [makeFrom_cons hn] at hstop ⊢
    split_ifs at hstop ⊢ with hfolder hfile
    · exact ih hrest hstop
    · rfl
    · -- The last name only leads where nothing is, and there all is made.
      cases ns with
      | nil => cases hstop
      | cons m ns => exact absurd (follow_cons_ok hrest).1 hfolder

/-- Nothing is made until the way breaks off; there a folder is. -/
lemma exists_makeFrom_of_missing (hhere : t.isFolder here = true)
    (h : t.follow here ns = .error .missing) (done : List Text) :
    ∃ q done' ns', t.has q = false ∧ ns' ⊆ ns ∧
      t.makeFrom here done ns = (t.addFolder q).makeFrom q done' ns' := by
  induction ns generalizing here done with
  | nil => cases h
  | cons n ns ih =>
    have hnext : isLong n = false ∧ t.follow (here.step n) ns = .error .missing := by
      rcases follow_cons_missing h with hnone | ⟨-, hn, hrest⟩
      · rw [has_of_isFolder hhere] at hnone
        cases hnone
      · exact ⟨hn, hrest⟩
    rw [makeFrom_cons hnext.1]
    cases hfolder : t.isFolder (here.step n) with
    | true =>
      obtain ⟨q, done', ns', hq, hns', hmake⟩ := ih hfolder hnext.2 (done ++ [n])
      exact ⟨q, done', ns', hq, List.subset_cons_of_subset n hns', by simpa using hmake⟩
    | false =>
      have hnone : t.has (here.step n) = false := by
        cases ns with
        | nil => cases hnext.2
        | cons m ns =>
          refine (follow_cons_missing hnext.2).resolve_right fun hin => ?_
          rw [hin.1] at hfolder
          cases hfolder
      have hfile : t.isFile (here.step n) = false := not_isFile_of_isPrefix hnone List.prefix_rfl
      exact ⟨here.step n, done ++ [n], ns, hnone, List.subset_cons_self n ns, by simp [hfile]⟩

/-- Without double dots no file is met below a place that has none. -/
lemma makeFrom_ne_alreadyThere (hns : Path.dotDot ∉ ns)
    (hhere : ∀ q, here <+: q → t.isFile q = false) :
    ∀ stop ∈ (t.makeFrom here done ns).2, stop.1 ≠ .alreadyThere := by
  induction ns generalizing t here done with
  | nil => simp [makeFrom]
  | cons n ns ih =>
    obtain ⟨hn, hns⟩ := List.ne_and_not_mem_of_not_mem_cons hns
    have hpre : here <+: here.step n := Place.isPrefix_step hn.symm
    rw [makeFrom]
    split_ifs with hlong hfolder hfile
    · simp
    · exact ih hns fun q hq => hhere q (hpre.trans hq)
    · rw [hhere _ hpre] at hfile
      cases hfile
    · exact ih hns fun q hq => hhere q (hpre.trans hq)

/-! ### The folder of a path -/

variable {path : Path}

/-- A path that leads somewhere in one tree has only its names to be followed in another. -/
lemma place_of_place (h : u.place path = .ok q) (t : Tree) :
    t.place path = t.follow [] path.parts := by
  rw [place] at h ⊢
  split_ifs at h ⊢
  rfl

lemma follow_of_missing (h : t.place path = .error .missing) :
    t.follow [] path.parts = .error .missing := by
  rw [place] at h
  split at h
  · cases h
  · split at h
    · cases h
    · exact h

lemma isFolder_nil : t.isFolder [] = true := rfl

lemma make_induction {P : Tree → Prop}
    (hadd : ∀ t here n, P t → t.isFolder here = true → t.isFile (here ++ [n]) = false →
      P (t.addFolder (here ++ [n])))
    (h : P t) : P (t.make path).1 := by
  rw [make]
  split
  · exact makeFrom_induction hadd isFolder_nil h
  · exact makeFrom_induction hadd isFolder_nil h
  · exact h

lemma file?_make : (t.make path).1.file? q = t.file? q :=
  make_induction (P := fun u => u.file? q = t.file? q) (fun _ _ _ h _ _ => h) rfl

lemma isFolder_make (h : t.isFolder q = true) : (t.make path).1.isFolder q = true :=
  make_induction (P := fun u => u.isFolder q = true)
    (fun _ _ _ h _ _ => isFolder_addFolder.mpr (.inl h)) h

lemma not_isFolder_make (hfile : t.isFile q = true) (hq : t.isFolder q = false) :
    (t.make path).1.isFolder q = false := by
  refine (make_induction (P := fun u => u.isFile q = true ∧ u.isFolder q = false) ?_
    ⟨hfile, hq⟩).2
  rintro u here n ⟨hfile, hq⟩ hhere hn
  refine ⟨hfile, Bool.eq_false_iff.mpr fun hadd => ?_⟩
  rcases isFolder_addFolder.mp hadd with h | hpre
  · rw [hq] at h
    cases h
  · rcases List.prefix_concat_iff.mp hpre with rfl | hpre
    · rw [hfile] at hn
      cases hn
    · rw [isFolder_of_isPrefix hpre hhere] at hq
      cases hq

/-- What cannot be made leaves nothing behind where the way does not break off. -/
lemma make_of_not_missing (h : t.place path ≠ .error .missing)
    (hstop : (t.make path).2.isSome = true) : (t.make path).1 = t := by
  rw [make] at hstop ⊢
  split at hstop
  · rename_i q hq
    rw [place_of_place hq] at hq
    exact makeFrom_of_follow hq (by simpa using hstop)
  · contradiction
  · rfl

lemma exists_new_of_missing (h : t.place path = .error .missing) :
    ∃ q, t.isFolder q = false ∧ (t.make path).1.isFolder q = true := by
  obtain ⟨q, done', ns', hq, -, hmake⟩ :=
    exists_makeFrom_of_missing isFolder_nil (follow_of_missing h) []
  refine ⟨q, (Bool.or_eq_false_iff.mp hq).2, ?_⟩
  have hadded : (t.addFolder q).isFolder q = true := isFolder_addFolder.mpr (.inr List.prefix_rfl)
  rw [make, h]
  dsimp only
  rw [hmake]
  exact makeFrom_induction (P := fun u => u.isFolder q = true)
    (fun _ _ _ h _ _ => isFolder_addFolder.mpr (.inl h)) hadded hadded

/-- Without double dots nothing is in the way behind the place where it breaks off. -/
lemma make_ne_alreadyThere (hdots : Path.dotDot ∉ path.parts)
    (h : t.place path = .error .missing) : ∀ stop ∈ (t.make path).2, stop.1 ≠ .alreadyThere := by
  obtain ⟨q, done', ns', hq, hns', hmake⟩ :=
    exists_makeFrom_of_missing isFolder_nil (follow_of_missing h) []
  rw [make, h]
  dsimp only
  rw [hmake]
  intro stop hstop
  obtain ⟨stop', hstop', rfl⟩ := Option.map_eq_some_iff.mp hstop
  exact makeFrom_ne_alreadyThere (fun hin => hdots (hns' hin))
    (fun r hr => isFile_addFolder.trans (not_isFile_of_isPrefix hq hr)) stop' hstop'

end Tree

end ClassPurge.Files
