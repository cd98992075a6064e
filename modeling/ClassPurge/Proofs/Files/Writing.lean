import ClassPurge.Settings
import Mathlib.Data.List.Infix

/-!
A file that was written is read back. Putting a file into a folder makes no folder and takes none
away, so a path that led to the file leads there afterwards.
-/

namespace ClassPurge.Files

namespace Tree

variable {t u : Tree} {p q : Place} {bs : Bytes}

lemma isFolder_iff : t.isFolder p = true ↔
    p = [] ∨ (∃ m ∈ t.made, p <+: m) ∨ ∃ f ∈ t.files, isUnder p f.1 = true := by
  rw [isFolder, Bool.or_eq_true, Bool.or_eq_true, List.isEmpty_iff, List.any_eq_true,
    List.any_eq_true, or_assoc]
  simp only [List.isPrefixOf_iff_prefix]

lemma isUnder_iff : isUnder p q = true ↔ p <+: q ∧ p.length < q.length := by
  rw [isUnder, Bool.and_eq_true, List.isPrefixOf_iff_prefix, decide_eq_true_iff]

lemma isFolder_of_isPrefix (h : p <+: q) (hq : t.isFolder q = true) : t.isFolder p = true := by
  rw [isFolder_iff] at hq ⊢
  rcases hq with rfl | ⟨m, hm, hqm⟩ | ⟨f, hf, hqf⟩
  · exact .inl (List.prefix_nil.mp h)
  · exact .inr (.inl ⟨m, hm, h.trans hqm⟩)
  · obtain ⟨hpre, hlen⟩ := isUnder_iff.mp hqf
    exact .inr (.inr ⟨f, hf, isUnder_iff.mpr ⟨h.trans hpre, h.length_le.trans_lt hlen⟩⟩)

lemma file?_put (t : Tree) (q : Place) (bs : Bytes) : (t.put q bs).file? q = some bs := by
  have hnone : (t.files.filter fun f => f.1 != q).find? (fun f => f.1 == q) = none := by
    refine List.find?_eq_none.mpr fun f hf => ?_
    simpa using (List.mem_filter.mp hf).2
  rw [file?, put, List.find?_append, hnone]
  simp

lemma file?_put_of_ne (t : Tree) (hp : p ≠ q) (bs : Bytes) : (t.put q bs).file? p = t.file? p := by
  have hkept : (t.files.filter fun f => f.1 != q).find? (fun f => f.1 == p) =
      t.files.find? fun f => f.1 == p := by
    rw [List.find?_filter]
    refine congrFun (congrArg List.find? (funext fun f => ?_)) _
    by_cases hf : f.1 = p
    · simp [hf, hp]
    · simp [hf]
  have hlast : [(q, bs)].find? (fun f => f.1 == p) = none := by simpa using hp.symm
  rw [file?, put, List.find?_append, hkept, hlast, Option.or_none, file?]

/-! ### Following names -/

variable {here : Place} {n : Text} {ns : List Text}

lemma follow_cons (hhere : t.isFolder here = true) (hn : isLong n = false) :
    t.follow here (n :: ns) = t.follow (here.step n) ns := by
  rw [follow, if_pos hhere, if_neg (by simp [hn]), Place.step]
  split_ifs <;> rfl

lemma follow_cons_tooLong (hhere : t.isFolder here = true) (hn : isLong n = true) :
    t.follow here (n :: ns) = .error .tooLong := by
  rw [follow, if_pos hhere, if_pos hn]

lemma follow_cons_barred (hhere : t.isFolder here = false) :
    t.follow here (n :: ns) = .error (if t.isFile here then .notFolder else .missing) := by
  rw [follow, if_neg (by simp [hhere])]
  split_ifs <;> rfl

lemma follow_cons_ok (h : t.follow here (n :: ns) = .ok q) :
    t.isFolder here = true ∧ isLong n = false ∧ t.follow (here.step n) ns = .ok q := by
  cases hhere : t.isFolder here with
  | false => rw [follow_cons_barred hhere] at h; cases h
  | true =>
    cases hn : isLong n with
    | true => rw [follow_cons_tooLong hhere hn] at h; cases h
    | false => exact ⟨rfl, rfl, by rwa [follow_cons hhere hn] at h⟩

/-- What can be wrong with names: one may be too long, and what they lead through may be no folder
or not there. -/
lemma fault_of_follow {f : Fault} (h : t.follow here ns = .error f) :
    (f = .tooLong ∧ ∃ n ∈ ns, isLong n = true) ∨ f = .notFolder ∨ f = .missing := by
  induction ns generalizing here with
  | nil => cases h
  | cons n ns ih =>
    cases hhere : t.isFolder here with
    | false =>
      rw [follow_cons_barred hhere] at h
      split_ifs at h <;> cases h
      · exact .inr (.inl rfl)
      · exact .inr (.inr rfl)
    | true =>
      cases hn : isLong n with
      | true =>
        rw [follow_cons_tooLong hhere hn] at h
        cases h
        exact .inl ⟨rfl, n, List.mem_cons_self, hn⟩
      | false =>
        rw [follow_cons hhere hn] at h
        exact (ih h).imp_left fun ⟨hf, m, hm, hlong⟩ => ⟨hf, m, List.mem_cons_of_mem n hm, hlong⟩

/-- Names that lead somewhere through folders lead there as long as these are folders. -/
lemma follow_of_isFolder (h : ∀ p, t.isFolder p = true → u.isFolder p = true)
    (hq : t.follow here ns = .ok q) : u.follow here ns = .ok q := by
  induction ns generalizing here with
  | nil => exact hq
  | cons n ns ih =>
    obtain ⟨hfolder, hn, hrest⟩ := follow_cons_ok hq
    rw [follow_cons (h here hfolder) hn]
    exact ih hrest

lemma place_of_isFolder (h : ∀ p, t.isFolder p = true → u.isFolder p = true) {p : Path}
    (hq : t.place p = .ok q) : u.place p = .ok q := by
  rw [place] at hq ⊢
  split at hq
  · cases hq
  · rename_i hend
    rw [if_neg hend]
    split at hq
    · cases hq
    · rename_i hlong
      rw [if_neg hlong]
      exact follow_of_isFolder h hq

lemma write_of_error {p : Path} {f : Fault} (h : t.place p = .error f) (bs : Bytes) :
    t.write p bs = .error f := by
  rw [write, h]
  rfl

lemma write_of_place {p : Path} (h : t.place p = .ok q) (bs : Bytes) : t.write p bs =
    if t.isFolder q then .error .isFolder
    else if t.isFolder q.dropLast then .ok (t.put q bs)
    else .error (if t.isFile q.dropLast then .notFolder else .missing) := by
  rw [write, h]
  cases hq : t.isFolder q <;> cases hin : t.isFolder q.dropLast <;>
    simp [bind, Except.bind, hq, hin] <;> rfl

/-- What is written is put at the place of its path, which lies in a folder. -/
lemma exists_place_of_write {p : Path} (h : t.write p bs = .ok u) :
    ∃ q, t.place p = .ok q ∧ t.isFolder q.dropLast = true ∧ u = t.put q bs := by
  cases hplace : t.place p with
  | error f => rw [write_of_error hplace] at h; cases h
  | ok q =>
    rw [write_of_place hplace] at h
    split_ifs at h with hfolder hin
    cases h
    exact ⟨q, rfl, hin, rfl⟩

end Tree

lemma writeFile_eq_ok {t v : Tree} {p : Path} {bs : Bytes} : Settings.writeFile t p bs = .ok v ↔
    ∃ u, t.makeFolder p.parent = .ok u ∧ u.write p bs = .ok v := by
  rw [Settings.writeFile]
  cases t.makeFolder p.parent with
  | error stop => simp
  | ok u =>
    dsimp only
    cases hwrite : u.write p bs <;> simp [hwrite]

lemma writeFile_eq_error {t : Tree} {p : Path} {bs : Bytes} {e : Settings.WriteFailure} :
    Settings.writeFile t p bs = .error e ↔
      (∃ f q, t.makeFolder p.parent = .error (f, q) ∧ e = .fault f q) ∨
        ∃ u f, t.makeFolder p.parent = .ok u ∧ u.write p bs = .error f ∧ e = .fault f p := by
  rw [Settings.writeFile]
  cases t.makeFolder p.parent with
  | error stop => simp [Prod.ext_iff, eq_comm]
  | ok u =>
    dsimp only
    cases hwrite : u.write p bs <;> simp [hwrite, eq_comm]

end ClassPurge.Files
