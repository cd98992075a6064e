import ClassPurge.Proofs.Files.Making

/-!
What becomes of the files when the first settings are written, or cannot be. A file is looked for
at their path first; then their folder is made, with all that is missing on the way; then they are
written. Where the way to the folder breaks off, nothing is found at first, and what is made may open
a way to what was there before.
-/

namespace ClassPurge

open Files

namespace Files.Tree

/-- The trees hold the same files, and the same folders. -/
def Alike (t u : Tree) : Prop := ∀ q, t.file? q = u.file? q ∧ t.isFolder q = u.isFolder q

/-- Nothing is found on the way to the path, and once its folder is made the path leads to `q`. -/
def LeadsBack (t : Tree) (p : Path) (q : Place) : Prop :=
  t.place p = .error .missing ∧ ∃ u, t.makeFolder p.parent = .ok u ∧ u.place p = .ok q

variable {t u : Tree} {p : Path} {q : Place} {bs : Bytes}

lemma makeFolder_eq_ok : t.makeFolder p = .ok u ↔ (t.make p).2 = none ∧ u = (t.make p).1 := by
  rw [makeFolder]
  rcases t.make p with ⟨v, _ | stop⟩ <;> simp [eq_comm]

lemma makeFolder_eq_error {stop : Fault × Path} :
    t.makeFolder p = .error stop ↔ (t.make p).2 = some stop := by
  rw [makeFolder]
  rcases t.make p with ⟨v, _ | stop⟩ <;> simp

lemma eq_of_makeFolder (h : t.makeFolder p = .ok u) : u = (t.make p).1 :=
  (makeFolder_eq_ok.mp h).2

/-- The way to the folder of a path that leads somewhere does not break off. -/
lemma place_parent_ne_missing (h : t.place p = .ok q) : t.place p.parent ≠ .error .missing := by
  intro hparent
  have hway : t.follow [] p.parts.dropLast = .error .missing := follow_of_missing hparent
  have hall := place_of_place h t
  rw [h] at hall
  by_cases hnil : p.parts = []
  · rw [hnil] at hway
    cases hway
  · rw [← List.dropLast_append_getLast hnil, follow_append_error hway] at hall
    cases hall

lemma write_ne_alreadyThere : t.write p bs ≠ .error .alreadyThere := by
  intro h
  cases hplace : t.place p with
  | ok q =>
    rw [write_of_place hplace] at h
    split_ifs at h <;> cases h
  | error f =>
    rw [write_of_error hplace] at h
    cases h
    rw [place] at hplace
    split at hplace
    · cases hplace
    · split at hplace
      · cases hplace
      · simpa using fault_of_follow hplace

end Files.Tree

namespace Settings

variable {t u : Tree} {p : Path} {q : Place} {bs : Bytes} {force : Bool}

/-- The tree after the first settings were asked for. -/
def afterInit (t : Tree) (p : Path) (force : Bool) : Tree :=
  match writeDefault t p force with
  | .ok l => l.value
  | .error _ => leftAfter t p force

/-- The settings, or something on the way to them, are said to be there. -/
def WriteFailure.IsThere (e : WriteFailure) : Prop :=
  (∃ p, e = .alreadyThere p) ∨ ∃ p, e = .fault .alreadyThere p

lemma file?_leftAfter : (leftAfter t p force).file? q = t.file? q := by
  rw [leftAfter]
  split
  · rfl
  · exact Tree.file?_make

lemma writeDefault_of_refusal {e : WriteFailure} (h : refusal? t p force = some e) :
    writeDefault t p force = .error e := by
  rw [writeDefault, h]

lemma writeDefault_of_none (h : refusal? t p force = none) : writeDefault t p force =
    (writeFile t p (Bytes.ofText defaultText.toList)).map
      fun u => ⟨u, [.configWritten p.string]⟩ := by
  rw [writeDefault, h]
  rfl

lemma writeDefault_of_holds (h : t.holds p = .ok true) :
    writeDefault t p false = .error (.alreadyThere p) :=
  writeDefault_of_refusal (by rw [refusal?, h]; rfl)

lemma writeDefault_of_stop {f : Fault} {path : Path} (h : t.holds p = .ok false)
    (hstop : t.makeFolder p.parent = .error (f, path)) :
    writeDefault t p force = .error (.fault f path) := by
  have hwrite : writeFile t p (Bytes.ofText defaultText.toList) = .error (.fault f path) :=
    writeFile_eq_error.mpr (.inl ⟨f, path, hstop, rfl⟩)
  rw [writeDefault_of_none (by rw [refusal?, h]; rfl), hwrite]
  rfl

/-- What is written is put where its path leads when its folder was made. -/
lemma exists_put_of_writeDefault {l : Log.Logged Tree} (h : writeDefault t p force = .ok l) :
    refusal? t p force = none ∧ ∃ u q, t.makeFolder p.parent = .ok u ∧ u.place p = .ok q ∧
      l.value = u.put q (Bytes.ofText defaultText.toList) := by
  cases hrefusal : refusal? t p force with
  | some e => rw [writeDefault_of_refusal hrefusal] at h; cases h
  | none =>
    rw [writeDefault_of_none hrefusal] at h
    cases hwrite : writeFile t p (Bytes.ofText defaultText.toList) with
    | error e => rw [hwrite] at h; cases h
    | ok v =>
      rw [hwrite] at h
      cases h
      obtain ⟨u, hu, hput⟩ := writeFile_eq_ok.mp hwrite
      obtain ⟨q, hq, -, rfl⟩ := Tree.exists_place_of_write hput
      exact ⟨rfl, u, q, hu, hq, rfl⟩

/-- Settings that are there at once have a way to their folder. -/
lemma place_parent_of_refusal {e : WriteFailure} (h : refusal? t p force = some e)
    (he : e.IsThere) : t.place p.parent ≠ .error .missing := by
  rw [refusal?, Tree.holds] at h
  cases hplace : t.place p with
  | ok q => exact Tree.place_parent_ne_missing hplace
  | error f =>
    rw [hplace] at h
    cases f with
    | tooLong =>
      cases h
      simp [WriteFailure.IsThere] at he
    | _ => cases h

/-- Behind that, only something on the way to the folder is found to be there. -/
lemma stop_of_writeFile {e : WriteFailure} (h : writeFile t p bs = .error e) (he : e.IsThere) :
    ∃ stop, (t.make p.parent).2 = some stop ∧ stop.1 = .alreadyThere := by
  rcases writeFile_eq_error.mp h with ⟨f, q, hstop, rfl⟩ | ⟨u, f, -, hwrite, rfl⟩
  · refine ⟨_, Tree.makeFolder_eq_error.mp hstop, ?_⟩
    simpa [WriteFailure.IsThere] using he
  · obtain rfl : f = .alreadyThere := by simpa [WriteFailure.IsThere] using he
    exact absurd hwrite Tree.write_ne_alreadyThere

/-- Why the first settings are said to be there: they are, or their folder could not be made. -/
lemma leftAfter_of_isThere {e : WriteFailure} (h : writeDefault t p force = .error e)
    (he : e.IsThere) :
    (leftAfter t p force = t ∧ t.place p.parent ≠ .error .missing) ∨
      leftAfter t p force = (t.make p.parent).1 ∧
        ∃ stop, (t.make p.parent).2 = some stop ∧ stop.1 = .alreadyThere := by
  cases hrefusal : refusal? t p force with
  | some e' =>
    rw [writeDefault_of_refusal hrefusal] at h
    cases h
    exact .inl ⟨by rw [leftAfter, hrefusal]; rfl, place_parent_of_refusal hrefusal he⟩
  | none =>
    rw [writeDefault_of_none hrefusal] at h
    cases hwrite : writeFile t p (Bytes.ofText defaultText.toList) with
    | ok v => rw [hwrite] at h; cases h
    | error e' =>
      rw [hwrite] at h
      cases h
      exact .inr ⟨by rw [leftAfter, hrefusal]; rfl, stop_of_writeFile hwrite he⟩

/-- Where the first settings are said to be there, everything is as before unless the way to their
folder breaks off. -/
lemma alike_leftAfter_iff {e : WriteFailure} (h : writeDefault t p force = .error e)
    (he : e.IsThere) :
    (leftAfter t p force).Alike t ↔ t.place p.parent ≠ .error .missing := by
  rcases leftAfter_of_isThere h he with ⟨heq, hparent⟩ | ⟨heq, stop, hstop, -⟩
  · rw [heq]
    exact iff_of_true (fun _ => ⟨rfl, rfl⟩) hparent
  · rw [heq]
    constructor
    · intro halike hmissing
      obtain ⟨q, hold, hnew⟩ := Tree.exists_new_of_missing hmissing
      rw [(halike q).2, hold] at hnew
      cases hnew
    · intro hparent
      rw [Tree.make_of_not_missing hparent (by rw [hstop]; rfl)]
      exact fun _ => ⟨rfl, rfl⟩

/-- Without double dots in the path the way to the folder does not break off then. -/
lemma alike_leftAfter {e : WriteFailure} (h : writeDefault t p force = .error e) (he : e.IsThere)
    (hdots : Path.dotDot ∉ p.parts) : (leftAfter t p force).Alike t := by
  rw [alike_leftAfter_iff h he]
  rcases leftAfter_of_isThere h he with ⟨-, hparent⟩ | ⟨-, stop, hstop, hthere⟩
  · exact hparent
  · intro hmissing
    have hdots' : Path.dotDot ∉ p.parent.parts := fun hin => hdots (List.dropLast_subset _ hin)
    exact Tree.make_ne_alreadyThere hdots' hmissing stop hstop hthere

/-- A file is only written over, without force, if the way to it had broken off. -/
lemma leadsBack_of_written (hrefusal : refusal? t p false = none)
    (hu : t.makeFolder p.parent = .ok u) (hq : u.place p = .ok q) (hfile : t.isFile q = true) :
    t.LeadsBack p q := by
  refine ⟨?_, u, hu, hq⟩
  obtain rfl := Tree.eq_of_makeFolder hu
  cases hplace : t.place p with
  | ok r =>
    -- The path led to the file before, so it was found.
    have hr : (t.make p.parent).1.place p = .ok r :=
      Tree.place_of_isFolder (fun _ => Tree.isFolder_make) hplace
    obtain rfl : r = q := by rw [hr] at hq; injection hq
    have hthere : t.holds p = .ok true := by rw [Tree.holds, hplace, ← Tree.has_of_isFile hfile]
    rw [refusal?, hthere] at hrefusal
    cases hrefusal
  | error f =>
    have hold := (Tree.place_of_place hq t).symm.trans hplace
    have hnew := (Tree.place_of_place hq _).symm.trans hq
    rw [Tree.eq_missing_of_follow (fun r => Tree.not_isFolder_make) hold hnew]

lemma not_leadsBack (hdots : Path.dotDot ∉ p.parts) (hfile : t.isFile q = true) :
    ¬ t.LeadsBack p q := by
  rintro ⟨hmissing, u, -, hq⟩
  have hnew := (Tree.place_of_place hq u).symm.trans hq
  rw [Tree.not_isFile_of_follow hdots (Tree.follow_of_missing hmissing) hnew] at hfile
  cases hfile

lemma file?_afterInit (hfile : t.file? q = some bs) (hback : ¬ t.LeadsBack p q) :
    (afterInit t p false).file? q = some bs := by
  rw [afterInit]
  split
  · rename_i l hl
    obtain ⟨hrefusal, u, r, hu, hr, hput⟩ := exists_put_of_writeDefault hl
    have hne : q ≠ r := by
      rintro rfl
      exact hback (leadsBack_of_written hrefusal hu hr (by rw [Tree.isFile, hfile]; rfl))
    rw [hput, Tree.file?_put_of_ne _ hne, Tree.eq_of_makeFolder hu, Tree.file?_make, hfile]
  · rw [file?_leftAfter, hfile]

lemma file?_afterInit_of_leadsBack (hfile : t.isFile q = true) (hfolder : t.isFolder q = false)
    (hback : t.LeadsBack p q) :
    (afterInit t p false).file? q = some (Bytes.ofText defaultText.toList) := by
  obtain ⟨hmissing, u, hu, hq⟩ := hback
  have hin : t.isFolder q.dropLast = true := by
    have hne : q ≠ [] := by rintro rfl; cases hfolder
    rw [← List.dropLast_append_getLast hne] at hfile
    exact Tree.isFolder_of_has (List.cons_ne_nil _ _) (Tree.has_of_isFile hfile)
  -- The folders that are made do not come to be where the file is.
  have hnot : u.isFolder q = false := by
    rw [Tree.eq_of_makeFolder hu]
    exact Tree.not_isFolder_make hfile hfolder
  have hin' : u.isFolder q.dropLast = true := by
    rw [Tree.eq_of_makeFolder hu]
    exact Tree.isFolder_make hin
  have hwrite : u.write p (Bytes.ofText defaultText.toList) =
      .ok (u.put q (Bytes.ofText defaultText.toList)) := by
    rw [Tree.write_of_place hq, if_neg (by simp [hnot]), if_pos hin']
  have hnone : refusal? t p false = none := by rw [refusal?, Tree.holds, hmissing]; rfl
  rw [afterInit, writeDefault_of_none hnone, writeFile_eq_ok.mpr ⟨u, hu, hwrite⟩]
  exact Tree.file?_put u q _

/-- Without force, the first settings are written over exactly the file to which their path leads
back. -/
lemma file?_afterInit_iff (hfile : t.file? q = some bs) (hfolder : t.isFolder q = false)
    (hbs : bs ≠ Bytes.ofText defaultText.toList) :
    (afterInit t p false).file? q = some bs ↔ ¬ t.LeadsBack p q := by
  refine ⟨fun hkept hback => ?_, file?_afterInit hfile⟩
  have hisFile : t.isFile q = true := by rw [Tree.isFile, hfile]; rfl
  rw [file?_afterInit_of_leadsBack hisFile hfolder hback] at hkept
  exact hbs (Option.some.inj hkept).symm

end Settings

end ClassPurge
