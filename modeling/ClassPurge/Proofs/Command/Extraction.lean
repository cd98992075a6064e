import ClassPurge.Proofs.Command.Agreement
import ClassPurge.Proofs.Console.Untagged
import ClassPurge.Proofs.Extract.LineEnds
import ClassPurge.Proofs.SourceFiles

/-!
What the list of classes of given files has to do with the analysis of the sources. Both read a
file, pass over it if it cannot be read or is no text, and tell the classes that are found in it.
But the list is made of the text with one kind of line ends, and it breaks off at the first file
whose extractor fails, where the analysis goes on.
-/

namespace ClassPurge.Command

open Console Files Job

variable {x : Context} {c : Config} {tree : Tree} {p : Path} {w : World}

/-! ### One file -/

/-- The line that tells of a file. -/
def listedLine (p : Path) (classes : List Text) : Text :=
  p.text ++ ':' :: ' ' :: Text.join [' '] classes ++ ['\n']

/-- The note that a file is passed over. -/
def skipNote (p : Path) (cause : String) : Except MarkupError Text :=
  Tone.warning.say s!"Skipping {p.string}: {cause}".toList

/-- The file is read and is this text. -/
def Holds (x : Context) (tree : Tree) (p : Path) (t : Text) : Prop :=
  ∃ bs, tree.read (seen x p) = .ok bs ∧ bs.decode = .ok t

/-- The file is passed over, for this cause. -/
inductive Skipped (x : Context) (tree : Tree) (p : Path) : String → Prop
  | unread {f : Fault} (hread : tree.read (seen x p) = .error f) (hf : f ≠ .endMark) :
    Skipped x tree p (f.message p.text)
  | noText {bs : Bytes} {e : Bytes.DecodeError} (hread : tree.read (seen x p) = .ok bs)
    (hdecode : bs.decode = .error e) : Skipped x tree p e.message

/-- The extractor for the file fails on it. -/
def Fails (x : Context) (c : Config) (tree : Tree) (p : Path) (fault : Extract.Fault) : Prop :=
  ∃ t, Holds x tree p t ∧ Extract.extractClasses c.extractors p t.unifyLineEnds = .error fault

/-- What comes of a file: something is put out and something noted, or the command breaks off. -/
inductive Lists (x : Context) (c : Config) (tree : Tree) (p : Path) :
    Except Raised (Text × Text) → Prop
  | skipped {cause : String} {note : Text} (h : Skipped x tree p cause)
    (hnote : skipNote p cause = .ok note) : Lists x c tree p (.ok ([], note))
  | unsaid {cause : String} {e : MarkupError} (h : Skipped x tree p cause)
    (hnote : skipNote p cause = .error e) : Lists x c tree p (.error (.markup e))
  | fails {fault : Extract.Fault} (h : Fails x c tree p fault) :
    Lists x c tree p (.error (.extractor fault))
  | told {t : Text} {classes : List Text} (ht : Holds x tree p t)
    (hclasses : Extract.extractClasses c.extractors p t.unifyLineEnds = .ok classes) :
    Lists x c tree p (.ok (x.shown (listedLine p classes), []))

/-- If the file is passed over, that can be said. -/
def SkipSayable (x : Context) (tree : Tree) (p : Path) : Prop :=
  ∀ cause, Skipped x tree p cause → ∃ note, skipNote p cause = .ok note

lemma skipSayable_of_untagged (x : Context) (tree : Tree) (hp : '[' ∉ p.text) :
    SkipSayable x tree p := by
  intro cause h
  have hcause : Untagged cause.toList := by
    cases h with
    | unread hread hf => exact untagged_fault hp _
    | noText hread hdecode => exact untagged_decodeError _
  have hpath : '[' ∉ p.string.toList := by
    rwa [Path.string, Text.string, String.toList_ofList]
  have htext (q : String) : s!"Skipping {q}: {cause}".toList =
      ("Skipping ".toList ++ q.toList ++ ": ".toList) ++ cause.toList := by
    simp only [String.toList_append]
    rfl
  refine say_of_untagged ?_ .warning
  rw [htext]
  refine .append ?_ hcause
  simp only [List.mem_append, not_or]
  exact ⟨⟨by decide, hpath⟩, by decide⟩

/-- Only a path that ends too early for the system is not read because of its end. -/
lemma endMark_mem_of_read {t : Tree} (h : t.read p = .error .endMark) : '\x00' ∈ p.text := by
  rw [Tree.read, Tree.place] at h
  split at h
  · rename_i hend
    simpa using hend
  · exfalso
    split at h
    · cases h
    · cases hq : t.follow [] p.parts with
      | error f =>
        rw [hq] at h
        obtain rfl : f = .endMark := by injection h
        simpa using Tree.fault_of_follow hq
      | ok q =>
        rw [hq] at h
        change t.readPlace q = _ at h
        rw [Tree.readPlace] at h
        repeat' split at h
        all_goals cases h

lemma exists_lists (x : Context) (c : Config) (tree : Tree) (hend : '\x00' ∉ (seen x p).text) :
    ∃ l, Lists x c tree p l := by
  have hskip {cause : String} (h : Skipped x tree p cause) : ∃ l, Lists x c tree p l := by
    cases hnote : skipNote p cause with
    | error e => exact ⟨_, .unsaid h hnote⟩
    | ok note => exact ⟨_, .skipped h hnote⟩
  cases hread : tree.read (seen x p) with
  | error f =>
    refine hskip (.unread hread ?_)
    rintro rfl
    exact hend (endMark_mem_of_read hread)
  | ok bs =>
    cases hdecode : bs.decode with
    | error e => exact hskip (.noText hread hdecode)
    | ok t =>
      cases hclasses : Extract.extractClasses c.extractors p t.unifyLineEnds with
      | error fault => exact ⟨_, .fails ⟨t, ⟨bs, hread, hdecode⟩, hclasses⟩⟩
      | ok classes => exact ⟨_, .told ⟨bs, hread, hdecode⟩ hclasses⟩

lemma Holds.unique {t u : Text} (h : Holds x tree p t) (h' : Holds x tree p u) : t = u := by
  obtain ⟨bs, hread, hdecode⟩ := h
  obtain ⟨bs', hread', hdecode'⟩ := h'
  obtain rfl : bs = bs' := by
    rw [hread] at hread'
    injection hread'
  rw [hdecode] at hdecode'
  injection hdecode'

/-- For what is found in the file it makes no difference which line ends it has. -/
def LineEndsAlike (x : Context) (c : Config) (tree : Tree) (p : Path) : Prop :=
  ∀ t, Holds x tree p t → Extract.extractClasses c.extractors p t.unifyLineEnds =
    Extract.extractClasses c.extractors p t

/-- Line ends can make a difference to an extractor of the project, and to the heuristics where a
carriage return stands alone. -/
lemma Holds.lineEndsAlike {t : Text} (h : Holds x tree p t)
    (ht : '\r' ∉ t ∨ c.extractors.forPath? p = none ∧ Extract.PairsReturns t) :
    LineEndsAlike x c tree p := by
  intro u hu
  obtain rfl := h.unique hu
  rcases ht with hnone | ⟨hpath, hpairs⟩
  · rw [Extract.unifyLineEnds_of_not_mem hnone]
  · simp only [Extract.extractClasses, hpath, Extract.candidates_unifyLineEnds hpairs]

/-! ### All files -/

/-- What comes of the files, one after the other, until one breaks off the command. -/
inductive ListsAll (x : Context) (c : Config) (tree : Tree) :
    List Path → Option Raised → Text → Text → Prop
  | nil : ListsAll x c tree [] none [] []
  | stop {p : Path} {ps : List Path} {r : Raised} (h : Lists x c tree p (.error r)) :
    ListsAll x c tree (p :: ps) (some r) [] []
  | more {p : Path} {ps : List Path} {r : Option Raised} {out note outs notes : Text}
    (h : Lists x c tree p (.ok (out, note))) (hps : ListsAll x c tree ps r outs notes) :
    ListsAll x c tree (p :: ps) r (out ++ outs) (note ++ notes)

lemma exists_listsAll {files : List Path} (h : ∀ p ∈ files, ∃ l, Lists x c tree p l) :
    ∃ r outs notes, ListsAll x c tree files r outs notes := by
  induction files with
  | nil => exact ⟨_, _, _, .nil⟩
  | cons p ps ih =>
    obtain ⟨⟨l, hl⟩, hps⟩ := List.forall_mem_cons.mp h
    obtain ⟨r, outs, notes, hall⟩ := ih hps
    cases l with
    | error r => exact ⟨_, _, _, .stop hl⟩
    | ok l => exact ⟨_, _, _, .more hl hall⟩

/-! ### The command -/

lemma Skipped.leads {cause : String} {a : View} (h : Skipped x a.tree p cause) :
    Leads (readText x p) a (.ok (.error cause)) a := by
  cases h with
  | unread hread hf => exact leads_readText_error hread hf
  | noText hread hdecode =>
    have hleads := leads_readText_ok hread
    rwa [hdecode] at hleads

lemma Holds.leads {t : Text} {a : View} (h : Holds x a.tree p t) :
    Leads (readText x p) a (.ok (.ok t.unifyLineEnds)) a := by
  obtain ⟨bs, hread, hdecode⟩ := h
  have hleads := leads_readText_ok hread
  rwa [hdecode] at hleads

lemma Lists.leads_ok {out note : Text} (h : Lists x c tree p (.ok (out, note))) (o m : Text) :
    Leads (extractOne x c p) ⟨tree, o, m⟩ (.ok ⟨⟩) ⟨tree, o ++ out, m ++ note⟩ := by
  rw [extractOne]
  cases h with
  | skipped h hnote =>
    rw [List.append_nil]
    exact h.leads.bind (leads_say hnote _)
  | told ht hclasses =>
    rw [List.append_nil]
    exact ht.leads.bind
      ((leads_log _ _).bind ((leads_orRaise_ok hclasses _).bind (leads_echo _ _ _)))

lemma Lists.leads_error {r : Raised} (h : Lists x c tree p (.error r)) (o m : Text) :
    Leads (extractOne x c p) ⟨tree, o, m⟩ (.error (.raised r)) ⟨tree, o, m⟩ := by
  rw [extractOne]
  cases h with
  | unsaid h hnote => exact h.leads.bind (leads_orRaise_error hnote _).bind_error
  | fails h =>
    obtain ⟨t, ht, hclasses⟩ := h
    exact ht.leads.bind ((leads_log _ _).bind (leads_orRaise_error hclasses _).bind_error)

/-- What the command does with the files. -/
def runFiles (x : Context) (c : Config) (files : List Path) : Job Unit := do
  for p in files do extractOne x c p

lemma runFiles_cons (p : Path) (ps : List Path) :
    runFiles x c (p :: ps) = (do extractOne x c p; runFiles x c ps) := by
  simp [runFiles]

lemma ListsAll.leads {files : List Path} {r : Option Raised} {outs notes : Text}
    (h : ListsAll x c tree files r outs notes) (o m : Text) : Leads (runFiles x c files)
      ⟨tree, o, m⟩ (r.elim (.ok ⟨⟩) fun r => .error (.raised r)) ⟨tree, o ++ outs, m ++ notes⟩ := by
  induction h generalizing o m with
  | nil =>
    rw [List.append_nil, List.append_nil]
    exact leads_pure _ _
  | stop h =>
    rw [List.append_nil, List.append_nil, runFiles_cons]
    exact (h.leads_error o m).bind_error
  | more h hps ih =>
    rw [runFiles_cons, ← List.append_assoc, ← List.append_assoc]
    exact (h.leads_ok o m).bind (ih _ _)

/-! ### The command and the analysis -/

/-- The settings are read and purging is on, the paths of the sources can be told, and the paths of
the files that are asked for can be followed. -/
structure Asked (x : Context) (tree : Tree) (files : List Path) (config : Option Path) (c : Config)
    (w : World) (s : Sources) (paths : List Text) : Prop where
  ends : ∀ p ∈ files ++ config.toList, '\x00' ∉ p.text
  followed : ∀ p ∈ files, '\x00' ∉ (seen x p).text
  settings : (loadConfig x config).run ⟨tree, [], [], []⟩ = (.ok c, w)
  enabled : c.enabled = true
  sources : Sources.ofTree tree x.environment.root c = .ok s
  paths : s.paths.value = .ok paths

/-- The file that is asked for is the source of some path. -/
structure SameSource (x : Context) (tree : Tree) (paths : List Text) (p : Path) (t : Text) :
    Prop where
  mem : t ∈ paths
  place : tree.place (seen x p) = tree.place (x.environment.root.join (Path.ofText t))
  name : p.name = (Path.ofText t).name

/-- The line with what the analysis tells of the source at `t`, and nothing if it does not. -/
def toldLine (found : List SourceFile) (p : Path) (t : Text) : Text :=
  ((found.find? fun f => f.path == t).map fun f => listedLine p f.classes).getD []

/-- The lines with what the analysis tells of the sources, as the output shows them. -/
def toldLines (x : Context) (found : List SourceFile) (files : List Path) (names : List Text) :
    Text :=
  (files.zip names).flatMap fun e => x.shown (toldLine found e.1 e.2)

section

variable {files : List Path} {config : Option Path} {s : Sources} {paths : List Text} {t : Text}

lemma extractClasses_congr {r : Extract.Registry Extract.Extractor} {p q : Path}
    (h : p.name = q.name) (t : Text) :
    Extract.extractClasses r p t = Extract.extractClasses r q t := by
  simp only [Extract.extractClasses, Extract.Registry.forPath?, Path.suffix, h]

lemma path_of_readSource {read : Text → Except String Bytes} {f : SourceFile}
    (h : (Run.readSource c read t).toOption = some f) : f.path = t := by
  have hf := Run.outcome_readSource c read t
  rw [h] at hf
  cases hf
  rfl

/-- Of a path among the sources the analysis tells what comes of that source. -/
lemma find?_readAll (c : Config) (read : Text → Except String Bytes) (ht : t ∈ paths) :
    (Run.readAll c read paths).find? (fun f => f.path == t) =
      (Run.readSource c read t).toOption := by
  have hother {ps : List Text} (h : t ∉ ps) :
      (Run.readAll c read ps).find? (fun f => f.path == t) = none := by
    rw [List.find?_eq_none]
    intro f hf heq
    obtain ⟨q, hq, hread⟩ := List.mem_filterMap.mp hf
    rw [path_of_readSource hread, beq_iff_eq] at heq
    exact h (heq ▸ hq)
  induction paths with
  | nil => exact absurd ht List.not_mem_nil
  | cons q ps ih =>
    rw [Run.readAll, List.filterMap_cons]
    by_cases hps : t ∈ ps
    · cases hq : (Run.readSource c read q).toOption with
      | none => exact ih hps
      | some f =>
        by_cases hf : f.path = t
        · obtain rfl : q = t := (path_of_readSource hq).symm.trans hf
          rw [hq, List.find?_cons_of_pos (by simpa using hf)]
        · rw [List.find?_cons_of_neg (by simpa using hf)]
          exact ih hps
    · obtain rfl : t = q := (List.mem_cons.mp ht).resolve_right hps
      cases hq : (Run.readSource c read t).toOption with
      | none => exact hother hps
      | some f => exact List.find?_cons_of_pos (by simpa using path_of_readSource hq)

lemma Asked.found (h : Asked x tree files config c w s paths) (now : Reading) (ht : t ∈ paths) :
    ((Run.start.analyze c s now).value.2).find? (fun f => f.path == t) =
      (Run.readSource c s.read t).toOption := by
  rw [Run.analyze_value, Run.told_of_paths h.enabled h.paths]
  exact find?_readAll c s.read ht

lemma SameSource.read (h : SameSource x tree paths p t) :
    tree.read (seen x p) = tree.read (x.environment.root.join (Path.ofText t)) := by
  rw [Tree.read, Tree.read, h.place]

lemma read_ofTree {root : Path} (h : Sources.ofTree tree root c = .ok s) (t : Text) :
    s.read t = match tree.read (root.join (Path.ofText t)) with
      | .ok bs => .ok bs
      | .error f => .error (f.message (root.join (Path.ofText t)).text) := by
  rw [Sources.ofTree] at h
  split at h
  · cases hpaths : Sources.pathsOf tree root c with
    | error f => rw [hpaths] at h; cases h
    | ok ps => rw [hpaths] at h; cases h; rfl
  · cases h
    rfl

lemma Asked.read_eq_ok (h : Asked x tree files config c w s paths)
    (hp : SameSource x tree paths p t) {bs : Bytes} (hread : tree.read (seen x p) = .ok bs) :
    s.read t = .ok bs := by
  rw [read_ofTree h.sources, ← hp.read, hread]

lemma Asked.read_eq_error (h : Asked x tree files config c w s paths)
    (hp : SameSource x tree paths p t) {f : Fault} (hread : tree.read (seen x p) = .error f) :
    ∃ cause, s.read t = .error cause := by
  rw [read_ofTree h.sources, ← hp.read, hread]
  exact ⟨_, rfl⟩

/-- What is put out for a file is what the analysis tells of it. -/
lemma Asked.toldLine_eq {out note : Text} (h : Asked x tree files config c w s paths)
    (now : Reading) (hp : SameSource x tree paths p t) (halike : LineEndsAlike x c tree p)
    (hl : Lists x c tree p (.ok (out, note))) :
    out = x.shown (toldLine (Run.start.analyze c s now).value.2 p t) := by
  rw [toldLine, h.found now hp.mem]
  cases hl with
  | skipped hskip hnote =>
    cases hskip with
    | unread hread hf =>
      obtain ⟨cause, hcause⟩ := h.read_eq_error hp hread
      rw [(Run.Outcome.unread hcause).eq]
      exact x.shown_nil.symm
    | noText hread hdecode =>
      rw [(Run.Outcome.noText (h.read_eq_ok hp hread) hdecode).eq]
      exact x.shown_nil.symm
  | told ht hclasses =>
    rw [halike _ ht, extractClasses_congr hp.name] at hclasses
    obtain ⟨bs, hread, hdecode⟩ := ht
    rw [(Run.Outcome.told (h.read_eq_ok hp hread) hdecode hclasses).eq]
    rfl

/-- The analysis passes over a file whose extractor fails. -/
lemma Asked.not_found {fault : Extract.Fault} (h : Asked x tree files config c w s paths)
    (now : Reading) (hp : SameSource x tree paths p t) (halike : LineEndsAlike x c tree p)
    (hf : Fails x c tree p fault) : ∀ f ∈ (Run.start.analyze c s now).value.2, f.path ≠ t := by
  obtain ⟨v, hv, hclasses⟩ := hf
  rw [halike _ hv, extractClasses_congr hp.name] at hclasses
  obtain ⟨bs, hread, hdecode⟩ := hv
  have hnone := h.found now hp.mem
  rw [(Run.Outcome.notExtracted (h.read_eq_ok hp hread) hdecode hclasses).eq] at hnone
  intro f hf heq
  simpa [heq] using List.find?_eq_none.mp hnone f hf

/-! ### The whole list -/

lemma Asked.endsWell {outs notes : Text} (h : Asked x tree files config c w s paths)
    (hall : ListsAll x c tree files none outs notes) :
    EndsWell ((extract files config).run x tree) ⟨tree, outs, w.messages ++ notes⟩ := by
  refine Comes.endsWell ?_ h.ends
  change ∃ v, (loadConfig x config >>= fun c => runFiles x c files).run _ = _ ∧ _
  rw [run_bind_ok h.settings]
  exact hall.leads [] w.messages w (view_of_loadConfig h.settings)

lemma Asked.raises {r : Raised} {outs notes : Text} (h : Asked x tree files config c w s paths)
    (hall : ListsAll x c tree files (some r) outs notes) :
    ((extract files config).run x tree).raised = some r ∧
      ((extract files config).run x tree).world.view = ⟨tree, outs, w.messages ++ notes⟩ := by
  refine Comes.raises ?_ h.ends
  change ∃ v, (loadConfig x config >>= fun c => runFiles x c files).run _ = _ ∧ _
  rw [run_bind_ok h.settings]
  exact hall.leads [] w.messages w (view_of_loadConfig h.settings)

lemma lists_of_not_fails (hend : '\x00' ∉ (seen x p).text) (hsay : SkipSayable x tree p)
    (hok : ∀ fault, ¬ Fails x c tree p fault) :
    ∃ out note, Lists x c tree p (.ok (out, note)) := by
  obtain ⟨l, hl⟩ := exists_lists x c tree hend
  rcases l with r | ⟨out, note⟩
  · exfalso
    cases hl with
    | unsaid h hnote =>
      obtain ⟨note, hok⟩ := hsay _ h
      rw [hok] at hnote
      cases hnote
    | fails h => exact hok _ h
  · exact ⟨out, note, hl⟩

lemma ListsAll.stop_after {before after : List Path} {r : Raised} {outs notes : Text}
    (h : ListsAll x c tree before none outs notes) (hp : Lists x c tree p (.error r)) :
    ListsAll x c tree (before ++ p :: after) (some r) outs notes := by
  generalize hr : (none : Option Raised) = o at h
  induction h with
  | nil => exact .stop hp
  | stop _ => cases hr
  | more h _ ih => exact .more h (ih hr)

/-- Files before one whose extractor fails are listed as the analysis tells of them. -/
lemma Asked.listsAll (h : Asked x tree files config c w s paths) (now : Reading)
    {before rest : List Path} {names : List Text}
    (hnames : List.Forall₂ (SameSource x tree paths) (before ++ rest) names)
    (hfiles : ∀ p ∈ before, p ∈ files ∧ SkipSayable x tree p ∧ LineEndsAlike x c tree p ∧
      ∀ fault, ¬ Fails x c tree p fault) :
    ∃ notes, ListsAll x c tree before none
      (toldLines x (Run.start.analyze c s now).value.2 before names) notes := by
  induction before generalizing names with
  | nil => exact ⟨[], .nil⟩
  | cons p before ih =>
    cases hnames with
    | cons hp hnames =>
      obtain ⟨⟨hmem, hsay, halike, hok⟩, hbefore⟩ := List.forall_mem_cons.mp hfiles
      obtain ⟨out, note, hl⟩ := lists_of_not_fails (h.followed p hmem) hsay hok
      obtain ⟨notes, hall⟩ := ih hnames hbefore
      rw [h.toldLine_eq now hp halike hl] at hl
      exact ⟨_, .more hl hall⟩

/-- **What is listed, and what the analysis tells.** Something comes of every file, and the command
ends as it comes. For a file that is a source, and whose extraction does not depend on its line
ends, the line is that of the analysis, as the output shows it. If this goes for all files, and it
can be said which are passed over, all lines are those of the analysis; but they break off at the
first file whose extractor fails, and with them the command, where the analysis passes over that
file.

A line is shown as it is on a terminal, and elsewhere if no sequence stands in it. It can be said of
a path without brackets that its file is passed over. Nothing depends on the line ends of a file
that has no carriage return, or has a line feed behind each and no extractor of its own. -/
theorem extract_agrees_analysis (h : Asked x tree files config c w s paths) (now : Reading) :
    (∃ r outs notes, ListsAll x c tree files r outs notes) ∧
    (∀ outs notes, ListsAll x c tree files none outs notes →
      EndsWell ((extract files config).run x tree) ⟨tree, outs, w.messages ++ notes⟩) ∧
    (∀ r outs notes, ListsAll x c tree files (some r) outs notes →
      ((extract files config).run x tree).raised = some r ∧
        ((extract files config).run x tree).world.view = ⟨tree, outs, w.messages ++ notes⟩) ∧
    (∀ p t, SameSource x tree paths p t → LineEndsAlike x c tree p →
      (∀ out note, Lists x c tree p (.ok (out, note)) →
        out = x.shown (toldLine (Run.start.analyze c s now).value.2 p t)) ∧
      ∀ fault, Fails x c tree p fault → ∀ f ∈ (Run.start.analyze c s now).value.2, f.path ≠ t) ∧
    (∀ l, x.shown l = l ↔ x.terminal = true ∨ SequenceFree l) ∧
    (∀ p : Path, '[' ∉ p.text → SkipSayable x tree p) ∧
    (∀ p t, Holds x tree p t →
      '\r' ∉ t ∨ c.extractors.forPath? p = none ∧ Extract.PairsReturns t →
      LineEndsAlike x c tree p) ∧
    ∀ names, List.Forall₂ (SameSource x tree paths) files names →
      (∀ p ∈ files, SkipSayable x tree p ∧ LineEndsAlike x c tree p) →
      ((∀ p ∈ files, ∀ fault, ¬ Fails x c tree p fault) → ∃ notes,
        EndsWell ((extract files config).run x tree)
          ⟨tree, toldLines x (Run.start.analyze c s now).value.2 files names,
            w.messages ++ notes⟩) ∧
      ∀ before p after fault, files = before ++ p :: after →
        (∀ q ∈ before, ∀ fault, ¬ Fails x c tree q fault) → Fails x c tree p fault →
        ((extract files config).run x tree).raised = some (.extractor fault) ∧
        ((extract files config).run x tree).world.output =
          toldLines x (Run.start.analyze c s now).value.2 before names := by
  refine ⟨?_, fun _ _ => h.endsWell, fun _ _ _ => h.raises, fun p t hp halike => ?_,
    fun _ => Context.shown_eq_self_iff, fun _ => skipSayable_of_untagged x tree,
    fun _ _ => Holds.lineEndsAlike,
    fun names hnames hplain => ⟨fun hok => ?_, ?_⟩⟩
  · exact exists_listsAll fun p hp => exists_lists x c tree (h.followed p hp)
  · exact ⟨fun _ _ => h.toldLine_eq now hp halike, fun _ => h.not_found now hp halike⟩
  · have hnames : List.Forall₂ (SameSource x tree paths) (files ++ []) names := by
      rwa [List.append_nil]
    obtain ⟨notes, hall⟩ := h.listsAll now hnames fun p hp =>
      ⟨hp, (hplain p hp).1, (hplain p hp).2, hok p hp⟩
    exact ⟨notes, h.endsWell hall⟩
  · rintro before p after fault rfl hok hf
    obtain ⟨notes, hall⟩ := h.listsAll now hnames fun q hq =>
      ⟨List.mem_append_left _ hq, (hplain q (List.mem_append_left _ hq)).1,
        (hplain q (List.mem_append_left _ hq)).2, hok q hq⟩
    obtain ⟨hraised, hview⟩ := h.raises (hall.stop_after (.fails hf))
    exact ⟨hraised, congrArg View.output hview⟩

end

/-- Of four sources one is no text, the extractor of one fails, and one has lines that end in two
characters. -/
theorem extract_agrees_analysis_four :
    let x : Context :=
      ⟨⟨Path.ofText ['/', 'w'], Path.ofText ['/', 'w'], [], [], [], [], []⟩,
        .ofModules [(['m'], []), ("m.n".toList, [.lined ['l'], .failing ['b'] (.raised "broken")])],
        false, .zero, .zero⟩
    let settings :=
      "purge:\n content: ['*.t', '*.u', '*.h']\n extractors:\n  t: m.n:l\n  u: m.n:b".toList
    let markup := "class='p\r\nq'".toList
    let tree : Tree :=
      ⟨[([['w'], "shakecss.yml".toList], Bytes.ofText settings),
        ([['w'], "a.t".toList], Bytes.ofText ['x', '\n', 'y']), ([['w'], "b.t".toList], [0xff]),
        ([['w'], "c.u".toList], Bytes.ofText ['z']), ([['w'], "d.h".toList], Bytes.ofText markup)],
        []⟩
    let a := Path.ofString "a.t"
    let b := Path.ofString "b.t"
    let u := Path.ofString "c.u"
    let d := Path.ofString "d.h"
    (∃ notes, EndsWell ((extract [a, b, d] none).run x tree)
      ⟨tree, "a.t: x y\nd.h: p q\n".toList, notes⟩) ∧
      ((extract [a, u, d] none).run x tree).raised = some (.extractor (.raised "broken")) ∧
      ((extract [a, u, d] none).run x tree).world.output = "a.t: x y\n".toList := by
  intro x settings markup tree a b u d
  let first := (loadConfig x none).run ⟨tree, [], [], []⟩
  let c := first.1.toOption.getD .default
  let s := (Sources.ofTree tree x.environment.root c).toOption.getD ⟨⟨.ok [], []⟩, fun _ => .ok []⟩
  let paths := ["a.t", "b.t", "c.u", "d.h"].map String.toList
  -- All that is computed, together, so that the settings are read once.
  have hall : first.1.toOption.isSome = true ∧ c.enabled = true ∧
      (Sources.ofTree tree x.environment.root c).toOption.isSome = true ∧
      s.paths.value.toOption = some paths ∧
      toldLines x (Run.start.analyze c s .zero).value.2 [a, b, d]
        ["a.t".toList, "b.t".toList, "d.h".toList] = "a.t: x y\nd.h: p q\n".toList ∧
      toldLines x (Run.start.analyze c s .zero).value.2 [a]
        ["a.t".toList, "c.u".toList, "d.h".toList] = "a.t: x y\n".toList ∧
      (Extract.extractClasses c.extractors a ['x', '\n', 'y']).toOption.isSome = true ∧
      (c.extractors.forPath? d).isNone = true ∧
      Extract.extractClasses c.extractors u ['z'] = .error (.raised "broken") := by
    decide +kernel
  obtain ⟨hfirst, hon, hsources, hpaths, hlines, hline, hclasses, hheuristics, hbroken⟩ := hall
  have hsettings : (loadConfig x none).run ⟨tree, [], [], []⟩ = (.ok c, first.2) :=
    Prod.ext (eq_ok_of_toOption_isSome hfirst) rfl
  have hs : Sources.ofTree tree x.environment.root c = .ok s := eq_ok_of_toOption_isSome hsources
  have ha : Holds x tree a ['x', '\n', 'y'] :=
    ⟨_, eq_ok_of_toOption_eq_some (by decide +kernel), Bytes.decode_ofText _⟩
  have hb : ∀ t, ¬ Holds x tree b t := by
    rintro t ⟨bs, hread, hdecode⟩
    have hbytes : tree.read (seen x b) = .ok [0xff] := eq_ok_of_toOption_eq_some (by decide +kernel)
    obtain rfl : [0xff] = bs := by
      rw [hbytes] at hread
      injection hread
    have hnone : (Bytes.decode [0xff]).toOption = none := by decide +kernel
    rw [hdecode] at hnone
    cases hnone
  have hd : Holds x tree d markup :=
    ⟨_, eq_ok_of_toOption_eq_some (by decide +kernel), Bytes.decode_ofText _⟩
  have hu : Holds x tree u ['z'] :=
    ⟨_, eq_ok_of_toOption_eq_some (by decide +kernel), Bytes.decode_ofText _⟩
  have hsame (name : String) (hname : name.toList ∈ paths) :
      SameSource x tree paths (Path.ofString name) name.toList := ⟨hname, rfl, rfl⟩
  have hasked (files : List Path)
      (hend : ∀ p ∈ files, '\x00' ∉ p.text ∧ '\x00' ∉ (seen x p).text) :
      Asked x tree files none c first.2 s paths :=
    ⟨fun p hp => (hend p (by simpa using hp)).1, fun p hp => (hend p hp).2, hsettings, hon, hs,
      eq_ok_of_toOption_eq_some hpaths⟩
  have three {P : Path → Prop} {p q r : Path} (hp : P p) (hq : P q) (hr : P r) :
      ∀ v ∈ [p, q, r], P v :=
    List.forall_mem_cons.mpr ⟨hp, List.forall_mem_cons.mpr ⟨hq, List.forall_mem_singleton.mpr hr⟩⟩
  have sound {p : Path} {t : Text} (ht : Holds x tree p t)
      (h : (Extract.extractClasses c.extractors p t.unifyLineEnds).toOption.isSome = true)
      (fault : Extract.Fault) : ¬ Fails x c tree p fault := by
    rintro ⟨v, hv, hfails⟩
    obtain rfl := ht.unique hv
    rw [hfails] at h
    cases h
  obtain ⟨-, -, -, -, -, hsay, halike, hlisted⟩ := extract_agrees_analysis
    (hasked [a, b, d] (three (by decide) (by decide) (by decide))) .zero
  obtain ⟨-, -, -, -, -, -, -, hlisted'⟩ := extract_agrees_analysis
    (hasked [a, u, d] (three (by decide) (by decide) (by decide))) .zero
  have hpath : c.extractors.forPath? d = none := Option.isNone_iff_eq_none.mp hheuristics
  have hA : SkipSayable x tree a ∧ LineEndsAlike x c tree a :=
    ⟨hsay a (by decide), halike a _ ha (.inl (by decide))⟩
  have hD : SkipSayable x tree d ∧ LineEndsAlike x c tree d :=
    ⟨hsay d (by decide), halike d _ hd (.inr ⟨hpath, by decide⟩)⟩
  have hsoundD := sound hd (by simp only [Extract.extractClasses, hpath]; rfl)
  obtain ⟨hends, -⟩ := hlisted ["a.t".toList, "b.t".toList, "d.h".toList]
    (.cons (hsame _ (by decide)) (.cons (hsame _ (by decide)) (.cons (hsame _ (by decide)) .nil)))
    (three hA ⟨hsay b (by decide), fun t ht => absurd ht (hb t)⟩ hD)
  obtain ⟨-, hbreaks⟩ := hlisted' ["a.t".toList, "c.u".toList, "d.h".toList]
    (.cons (hsame _ (by decide)) (.cons (hsame _ (by decide)) (.cons (hsame _ (by decide)) .nil)))
    (three hA ⟨hsay u (by decide), halike u _ hu (.inl (by decide))⟩ hD)
  obtain ⟨notes, hends⟩ := hends
    (three (sound ha hclasses) (fun _ ⟨t, ht, _⟩ => hb t ht) hsoundD)
  obtain ⟨hraised, houtput⟩ := hbreaks [a] u [d] _ rfl
    (List.forall_mem_singleton.mpr (sound ha hclasses)) ⟨_, hu, hbroken⟩
  rw [hlines] at hends
  exact ⟨⟨_, hends⟩, hraised, houtput.trans hline⟩

/-- The lines of a source that ends its lines in two characters are told apart in another way, and
a source whose extractor fails leaves the one behind it unlisted. -/
theorem extract_disagrees :
    let x : Context :=
      ⟨⟨Path.ofText ['/', 'w'], Path.ofText ['/', 'w'], [], [], [], [], []⟩,
        .ofModules [(['m'], []), ("m.n".toList, [.lined ['l'], .failing ['b'] (.raised "broken")])],
        false, .zero, .zero⟩
    let settings := "purge:\n content: ['*.t', '*.u']\n extractors:\n  t: m.n:l\n  u: m.n:b".toList
    let tree : Tree :=
      ⟨[([['w'], "shakecss.yml".toList], Bytes.ofText settings),
        ([['w'], "a.t".toList], Bytes.ofText ['x', '\r', '\n', 'y']),
        ([['w'], "c.u".toList], Bytes.ofText ['z']), ([['w'], "d.t".toList], Bytes.ofText ['q'])],
        []⟩
    let loaded := ((loadConfig x none).run ⟨tree, [], [], []⟩).1.toOption
    let sources := loaded.bind fun c => (Sources.ofTree tree x.environment.root c).toOption
    let found := (Run.start.analyze (loaded.getD .default)
      (sources.getD ⟨⟨.ok [], []⟩, fun _ => .ok []⟩) .zero).value.2
    let outputOf (names : List String) :=
      ((extract (names.map Path.ofString) none).run x tree).world.output
    let toldOf (names : List String) :=
      toldLines x found (names.map Path.ofString) (names.map String.toList)
    sources.isSome = true ∧
      outputOf ["a.t"] = "a.t: x y\n".toList ∧ toldOf ["a.t"] = "a.t: x\r y\n".toList ∧
      outputOf ["c.u", "d.t"] = [] ∧ toldOf ["c.u", "d.t"] = "d.t: q\n".toList := by
  decide +kernel

end ClassPurge.Command
