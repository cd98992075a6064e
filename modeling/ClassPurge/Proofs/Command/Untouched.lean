import ClassPurge.Proofs.Command.Steps
import ClassPurge.Proofs.Config.FirstSettings
import ClassPurge.Proofs.Console.Untagged
import ClassPurge.Proofs.Text.Utf8

/-!
What commands leave untouched. Three of them write nothing, and purging writes when everything has
been read and checked, so that it is not refused any more. Only the first settings are written before
all is known.
-/

namespace ClassPurge.Command

open Files Log Job

/-! ### Jobs that are refused -/

namespace Job

variable {α β : Type} {j : Job α} {f : α → Job β}

/-- The job does not end in a refusal. -/
def Goes (j : Job α) : Prop := ∀ w, (j.run w).1 ≠ .error .refused

/-- The job is not refused once it has done something to the files. -/
def Careful (j : Job α) : Prop :=
  ∀ w, (j.run w).1 = .error .refused → (j.run w).2.tree = w.tree

lemma Goes.bind (hj : Goes j) (hf : ∀ a, Goes (f a)) : Goes (j >>= f) := by
  intro w
  have hw := hj w
  rw [run_bind]
  rcases hrun : j.run w with ⟨e | a, v⟩
  · rw [hrun] at hw
    exact fun h => hw (by injection h with h; rw [h])
  · exact hf a v

lemma goes_pure (a : α) : Goes (pure a : Job α) := fun w h => by cases h

lemma goes_raise (r : Raised) : Goes (raise r : Job α) := fun w h => by cases h

lemma goes_orRaise {ε : Type} (f : ε → Raised) (e : Except ε α) : Goes (orRaise f e) := by
  cases e with
  | ok a => exact goes_pure a
  | error e => exact goes_raise (f e)

lemma goes_modify (f : World → World) : Goes (modify f : Job Unit) := fun w h => by cases h

lemma goes_logged (l : Logged α) : Goes (logged l) := (goes_modify _).bind fun _ => goes_pure _

lemma goes_say (tone : Console.Tone) (message : String) : Goes (say tone message) :=
  (goes_orRaise _ _).bind fun _ => goes_modify _

lemma Goes.careful (h : Goes j) : Careful j := fun w hw => absurd hw (h w)

lemma Careful.bind (hj : Keeps World.tree j) (hf : ∀ a, Careful (f a)) : Careful (j >>= f) := by
  intro w
  have hw := hj w
  rw [run_bind]
  rcases hrun : j.run w with ⟨e | a, v⟩
  · rw [hrun] at hw
    exact fun _ => hw
  · rw [hrun] at hw
    exact fun h => (hf a v h).trans hw

lemma keeps_echo (x : Context) (t : Text) : Keeps World.tree (echo x t) := fun _ => rfl

end Job

/-! ### Steps of the commands -/

variable (x : Context)

lemma speaks_readText (p : Path) : Speaks (readText x p) := by
  rw [readText]
  refine speaks_get.bind fun w => ?_
  split
  · exact speaks_raise _
  · exact speaks_pure _
  · split <;> exact speaks_pure _

lemma speaks_readStylesheet (p : Path) : Speaks (readStylesheet x p) := by
  rw [readStylesheet]
  refine (speaks_readText x p).bind fun t => ?_
  split
  · exact speaks_pure _
  · exact speaks_refuse _ _

lemma speaks_analyzed (c : Config) : Speaks (analyzed x c) :=
  speaks_get.bind fun _ => (speaks_orRaise _ _).bind fun _ => speaks_logged _

lemma speaks_tellReport (r : Report) (json : Bool) : Speaks (tellReport r json) := by
  cases json with
  | true => exact (speaks_pure _).bind fun t => speaks_tell t
  | false => exact (speaks_orRaise _ _).bind fun t => speaks_tell t

lemma goes_tellReport (r : Report) (json : Bool) : Goes (tellReport r json) := by
  cases json with
  | true => exact (goes_pure _).bind fun _ => goes_modify _
  | false => exact (goes_orRaise _ _).bind fun _ => goes_modify _

lemma goes_writeStylesheet (p : Path) (before : Nat) (t : Text) :
    Goes (writeStylesheet x p before t) := by
  rw [writeStylesheet]
  refine Goes.bind (fun w h => by cases h) fun w => ?_
  split
  · exact (goes_modify _).bind fun _ => goes_say _ _
  · refine (goes_modify _).bind fun _ => ?_
    split
    · exact (goes_raise _).bind fun _ => goes_say _ _
    · exact (goes_raise _).bind fun _ => goes_say _ _

lemma keeps_extractOne (c : Config) (p : Path) : Keeps World.tree (extractOne x c p) := by
  rw [extractOne]
  refine (speaks_readText x p).keeps.bind fun t => ?_
  split
  · exact (speaks_say _ _).keeps
  · refine (speaks_log _).keeps.bind fun _ => ?_
    exact (speaks_orRaise _ _).keeps.bind fun _ => keeps_echo _ _

/-! ### Commands -/

lemma keeps_report (stylesheet : Path) (config : Option Path) (json : Bool) :
    Keeps World.tree (runReport x stylesheet config json) := by
  rw [runReport]
  refine (speaks_loadConfig x config).keeps.bind fun c => ?_
  refine (speaks_readStylesheet x stylesheet).keeps.bind fun css => ?_
  refine (speaks_analyzed x c).keeps.bind fun found => ?_
  have htold (run : Run) : Keeps World.tree (orRaise .timer (run.report c found.2 x.finished) >>=
      fun r => if json then echo x (r.jsonText ++ ['\n']) else tellReport r false) := by
    refine (speaks_orRaise _ _).keeps.bind fun r => ?_
    split
    · exact keeps_echo _ _
    · exact (speaks_tellReport r false).keeps
  dsimp only
  split
  · exact (speaks_logged _).keeps.bind htold
  · exact (speaks_pure _).keeps.bind htold

lemma keeps_extract (files : List Path) (config : Option Path) :
    Keeps World.tree (runExtract x files config) := by
  rw [runExtract]
  refine (speaks_loadConfig x config).keeps.bind fun c => ?_
  refine (keeps_forIn (fun p _ => ?_) files _).bind fun _ => keeps_pure _
  exact (keeps_extractOne x c p).bind fun _ => keeps_pure _

lemma speaks_validate (config : Option Path) : Speaks (runValidate x config) := by
  rw [runValidate]
  refine (speaks_loadConfig x config).bind fun c => ?_
  iterate 4 refine (speaks_say _ _).bind fun _ => ?_
  have hrest : Speaks (do
      let file ← orRaise .noHome x.environment.logFile
      say .info s!"log file: {file.string}"
      say .success "Config OK.") :=
    (speaks_orRaise _ _).bind fun _ => (speaks_say _ _).bind fun _ => speaks_say _ _
  exact speaks_before (speaks_say _ _) hrest

/-- Purging is refused before it writes, or not at all. -/
lemma careful_purge (stylesheet : Path) (output config : Option Path) (json quiet : Bool) :
    Careful (runPurge x stylesheet output config json quiet) := by
  rw [runPurge]
  refine .bind (speaks_loadConfig x config).keeps fun c => ?_
  refine .bind (speaks_readStylesheet x stylesheet).keeps fun css => ?_
  refine .bind (speaks_analyzed x c).keeps fun found => Goes.careful ?_
  refine (goes_logged _).bind fun purged => (goes_modify _).bind fun _ => ?_
  have htold : Goes (if !quiet then
      orRaise .timer (purged.1.report c found.2 x.finished) >>= fun r => tellReport r json
      else pure ⟨⟩) := by
    split
    · exact (goes_orRaise _ _).bind fun r => goes_tellReport r json
    · exact goes_pure _
  cases output with
  | none => exact (goes_modify _).bind fun _ => htold
  | some p => exact (goes_writeStylesheet x p _ _).bind fun _ => htold

variable {x} {config : Option Path} {p : Path} {q : Place} {force : Bool} {w : World}
  {c : Command} {tree : Tree}

lemma run_configPath (hp : x.environment.configPath ((config.map Path.text).getD []) = .ok p) :
    (configPath x config).run w = (.ok p, w) := by
  rw [configPath, run_orRaise, hp]

lemma tree_runInit (hp : x.environment.configPath ((config.map Path.text).getD []) = .ok p) :
    ((runInit x config force).run w).2.tree = Settings.afterInit w.tree p force := by
  rw [runInit, run_bind_ok (run_configPath hp), run_bind_ok run_get, Settings.afterInit]
  cases Settings.writeDefault w.tree p force with
  | ok l => exact (speaks_say _ _ _).1
  | error e =>
    have htold : Speaks (say .warning s!"{e.message} (use --force to overwrite)" >>= fun _ =>
        (throw .refused : Job Unit)) := (speaks_say _ _).bind fun _ _ => ⟨rfl, rfl⟩
    rcases e with _ | ⟨_ | _ | _ | _ | _ | _, _⟩
    case fault.alreadyThere | alreadyThere => exact (htold _).1
    all_goals rfl

/-- Asking for the first settings is only refused when they, or something on the way to them, are
said to be there. -/
lemma exists_isThere_of_refused
    (hp : x.environment.configPath ((config.map Path.text).getD []) = .ok p)
    (h : ((runInit x config force).run w).1 = .error .refused) :
    ∃ e, Settings.writeDefault w.tree p force = .error e ∧ e.IsThere := by
  rw [runInit, run_bind_ok (run_configPath hp), run_bind_ok run_get] at h
  cases hwrite : Settings.writeDefault w.tree p force with
  | ok l =>
    rw [hwrite] at h
    exact absurd h (((goes_logged l).bind fun _ => (goes_modify _).bind fun _ => goes_say _ _) w)
  | error e =>
    rw [hwrite] at h
    refine ⟨e, rfl, ?_⟩
    rcases e with q | ⟨_ | _ | _ | _ | _ | _, q⟩
    case alreadyThere => exact .inl ⟨q, rfl⟩
    case fault.alreadyThere => exact .inr ⟨q, rfl⟩
    all_goals cases h

/-! ### Refusals -/

/-- The command ended by itself with exit code 1. -/
def Ended.Refused (e : Ended) : Prop := e.exitCode = 1 ∧ e.raised = none

instance (e : Ended) : Decidable e.Refused := inferInstanceAs (Decidable (_ ∧ _))

/-- Whether a command may write. -/
def writes : Command → Bool
  | init _ _ | purge _ _ _ _ _ => true
  | report _ _ _ | extract _ _ | validate _ => false

/-- The command asks for the first settings, which are to be at the path. -/
def InitsAt (x : Context) (c : Command) (p : Path) (force : Bool) : Prop :=
  ∃ config, c = init config force ∧
    x.environment.configPath ((config.map Path.text).getD []) = .ok p

/-- A command acts if a system can follow its paths, and else does nothing. -/
lemma run_acts_or (x : Context) (c : Command) (tree : Tree) :
    ((∀ p ∈ c.paths, '\x00' ∉ p.text) ∧
      (c.run x tree).world = ((c.act x).run ⟨tree, [], [], []⟩).2 ∧
      ((c.run x tree).Refused ↔ ((c.act x).run ⟨tree, [], [], []⟩).1 = .error .refused)) ∨
    (∃ p ∈ c.paths, '\x00' ∈ p.text) ∧ (c.run x tree).world.tree = tree ∧
      ¬ (c.run x tree).Refused := by
  obtain ⟨r, hrun, ⟨hpaths, rfl⟩ | ⟨p, hp, hmark, rfl⟩⟩ :=
    exists_run_checkPaths c ⟨tree, [], [], []⟩
  · refine .inl ⟨hpaths, ?_⟩
    rw [run, run_bind_ok hrun]
    rcases (c.act x).run ⟨tree, [], [], []⟩ with ⟨(_ | r) | _, v⟩ <;> simp [Ended.Refused]
  · refine .inr ⟨⟨p, hp, hmark⟩, ?_⟩
    rw [run, run_bind_error hrun]
    simp [Ended.Refused]

lemma tree_of_not_writes (h : c.writes = false) : (c.run x tree).world.tree = tree := by
  rcases run_acts_or x c tree with ⟨-, hworld, -⟩ | ⟨-, htree, -⟩
  · rw [hworld]
    cases c with
    | init | purge => cases h
    | report stylesheet config json => exact keeps_report x stylesheet config json _
    | extract files config => exact keeps_extract x files config _
    | validate config => exact (speaks_validate x config).keeps _
  · exact htree

lemma tree_of_refused (h : (c.run x tree).Refused) (hinit : ∀ p force, ¬ c.InitsAt x p force) :
    (c.run x tree).world.tree = tree := by
  cases c with
  | report | extract | validate => exact tree_of_not_writes rfl
  | init config force =>
    rcases run_acts_or x (init config force) tree with ⟨-, -, hrefused⟩ | ⟨-, htree, -⟩
    · -- The path of the settings is not known, which is no refusal.
      exfalso
      have hact := hrefused.mp h
      cases hp : x.environment.configPath ((config.map Path.text).getD []) with
      | ok p => exact hinit p force ⟨config, rfl, hp⟩
      | error e =>
        have hpath : (configPath x config).run ⟨tree, [], [], []⟩ =
            (.error (.raised (.noHome e)), ⟨tree, [], [], []⟩) := by
          rw [configPath, run_orRaise, hp]
        rw [act, runInit, run_bind_error hpath] at hact
        cases hact
    · exact htree
  | purge stylesheet output config json quiet =>
    rcases run_acts_or x (purge stylesheet output config json quiet) tree with
      ⟨-, hworld, hrefused⟩ | ⟨-, htree, -⟩
    · rw [hworld]
      exact careful_purge x stylesheet output config json quiet _ (hrefused.mp h)
    · exact htree

lemma InitsAt.tree_eq (hc : c.InitsAt x p force) (h : ∀ r ∈ c.paths, '\x00' ∉ r.text) :
    (c.run x tree).world.tree = Settings.afterInit tree p force := by
  obtain ⟨config, rfl, hp⟩ := hc
  rcases run_acts_or x (init config force) tree with ⟨-, hworld, -⟩ | ⟨⟨r, hr, hmark⟩, -, -⟩
  · rw [hworld]
    exact tree_runInit hp
  · exact absurd hmark (h r hr)

lemma InitsAt.refused (hc : c.InitsAt x p force) (h : (c.run x tree).Refused) :
    ∃ e, Settings.writeDefault tree p force = .error e ∧ e.IsThere ∧
      (c.run x tree).world.tree = Settings.leftAfter tree p force := by
  obtain ⟨config, rfl, hp⟩ := hc
  rcases run_acts_or x (init config force) tree with ⟨-, hworld, hrefused⟩ | ⟨-, -, hnot⟩
  · obtain ⟨e, hwrite, he⟩ := exists_isThere_of_refused hp (hrefused.mp h)
    refine ⟨e, hwrite, he, ?_⟩
    rw [hworld, act, tree_runInit hp, Settings.afterInit, hwrite]
  · exact absurd h hnot

/-- It is refused when they are said to be there, if that can be said. -/
lemma InitsAt.refused_of_untagged {e : Settings.WriteFailure} (hc : c.InitsAt x p force)
    (hpaths : ∀ r ∈ c.paths, '\x00' ∉ r.text)
    (hwrite : Settings.writeDefault tree p force = .error e) (he : e.IsThere)
    (hmessage : Console.Untagged e.message.toList) : (c.run x tree).Refused := by
  obtain ⟨config, rfl, hp⟩ := hc
  rcases run_acts_or x (init config force) tree with ⟨-, -, hrefused⟩ | ⟨⟨r, hr, hmark⟩, -, -⟩
  · have hnote : Console.Untagged s!"{e.message} (use --force to overwrite)".toList := by
      have htext : s!"{e.message} (use --force to overwrite)".toList =
          e.message.toList ++ " (use --force to overwrite)".toList := String.toList_append
      rw [htext]
      refine hmessage.append_of_not_start (Console.untagged_of_not_mem (by decide)) fun d hd => ?_
      cases hd
      decide
    obtain ⟨l, hl⟩ := Console.say_of_untagged hnote .warning
    have htold (w : World) : (say .warning s!"{e.message} (use --force to overwrite)").run w =
        (.ok ⟨⟩, { w with messages := w.messages ++ l }) := by
      rw [say, run_bind_ok (by rw [run_orRaise, hl])]
      rfl
    rw [hrefused, act, runInit, run_bind_ok (run_configPath hp), run_bind_ok run_get, hwrite]
    have hmodify (f : World → World) (w : World) :
        (modify f : Job Unit).run w = (.ok ⟨⟩, f w) := rfl
    obtain ⟨q, rfl⟩ | ⟨q, rfl⟩ := he
    all_goals
      dsimp only
      rw [run_bind_ok (hmodify _ _), run_bind_ok (htold _)]
      rfl
  · exact absurd hmark (hpaths r hr)

lemma InitsAt.unique {p' : Path} {force' : Bool} (h : c.InitsAt x p force)
    (h' : c.InitsAt x p' force') : p' = p := by
  obtain ⟨config, rfl, hp⟩ := h
  obtain ⟨config', hc, hp'⟩ := h'
  cases hc
  rw [hp] at hp'
  injection hp'.symm

lemma file?_of_refused (h : (c.run x tree).Refused) (q : Place) :
    (c.run x tree).world.tree.file? q = tree.file? q := by
  by_cases hinit : ∃ p force, c.InitsAt x p force
  · obtain ⟨p, force, hc⟩ := hinit
    obtain ⟨e, -, -, htree⟩ := hc.refused h
    rw [htree, Settings.file?_leftAfter]
  · rw [tree_of_refused h fun p force hc => hinit ⟨p, force, hc⟩]

/-- A refused command leaves a folder behind exactly if it asks for the first settings, and the way to
their folder breaks off. -/
lemma alike_of_refused_iff (h : (c.run x tree).Refused) :
    (c.run x tree).world.tree.Alike tree ↔
      ∀ p force, c.InitsAt x p force → tree.place p.parent ≠ .error .missing := by
  by_cases hinit : ∃ p force, c.InitsAt x p force
  · obtain ⟨p, force, hc⟩ := hinit
    obtain ⟨e, hwrite, he, htree⟩ := hc.refused h
    rw [htree, Settings.alike_leftAfter_iff hwrite he]
    exact ⟨fun hway p' force' hc' => hc.unique hc' ▸ hway, fun hway => hway p force hc⟩
  · rw [tree_of_refused h fun p force hc => hinit ⟨p, force, hc⟩]
    exact iff_of_true (fun _ => ⟨rfl, rfl⟩) fun p force hc => absurd ⟨p, force, hc⟩ hinit

lemma alike_of_refused (h : (c.run x tree).Refused)
    (hdots : ∀ p force, c.InitsAt x p force → Path.dotDot ∉ p.parts) :
    (c.run x tree).world.tree.Alike tree := by
  rw [alike_of_refused_iff h]
  intro p force hc
  obtain ⟨e, hwrite, he, -⟩ := hc.refused h
  exact (Settings.alike_leftAfter_iff hwrite he).mp
    (Settings.alike_leftAfter hwrite he (hdots p force hc))

/-- **Commands that do not write, and commands that are refused, leave the project as it is.** The
only exception is a path for the first settings that leads back, by double dots, from a folder that
is missing: then folders are left behind when they are refused, and when they are not, a file is
written over even without force. -/
theorem refused_untouched (x : Context) (c : Command) (tree : Tree) :
    (c.writes = false → (c.run x tree).world.tree = tree) ∧
    ((c.run x tree).Refused →
      (∀ q, (c.run x tree).world.tree.file? q = tree.file? q) ∧
      ((c.run x tree).world.tree.Alike tree ↔
        ∀ p force, c.InitsAt x p force → tree.place p.parent ≠ .error .missing)) ∧
    (∀ p, c.InitsAt x p false → ∀ q bs, tree.file? q = some bs → tree.isFolder q = false →
      bs ≠ Bytes.ofText Settings.defaultText.toList →
        ((c.run x tree).world.tree.file? q = some bs ↔
          ¬ ((∀ r ∈ c.paths, '\x00' ∉ r.text) ∧ tree.LeadsBack p q))) ∧
    ((∀ p force, c.InitsAt x p force → Path.dotDot ∉ p.parts) →
      ((c.run x tree).Refused → (c.run x tree).world.tree.Alike tree) ∧
      ∀ p, c.InitsAt x p false → ∀ q bs, tree.file? q = some bs →
        (c.run x tree).world.tree.file? q = some bs) := by
  refine ⟨tree_of_not_writes, fun h => ⟨file?_of_refused h, alike_of_refused_iff h⟩, ?_, ?_⟩
  · intro p hc q bs hfile hfolder hbs
    rcases run_acts_or x c tree with ⟨hpaths, -, -⟩ | ⟨⟨r, hr, hmark⟩, htree, -⟩
    · rw [hc.tree_eq hpaths, Settings.file?_afterInit_iff hfile hfolder hbs]
      exact not_congr (and_iff_right hpaths).symm
    · rw [htree]
      exact iff_of_true hfile fun h => h.1 r hr hmark
  · intro hdots
    refine ⟨fun h => alike_of_refused h hdots, fun p hc q bs hfile => ?_⟩
    rcases run_acts_or x c tree with ⟨hpaths, -, -⟩ | ⟨-, htree, -⟩
    · have hisFile : tree.isFile q = true := by rw [Tree.isFile, hfile]; rfl
      rw [hc.tree_eq hpaths]
      exact Settings.file?_afterInit hfile (Settings.not_leadsBack (hdots p false hc) hisFile)
    · rw [htree, hfile]

/-- Settings that are there are not written over. By way of a folder that is missing they are. -/
theorem refused_untouched_settings :
    let x : Context :=
      ⟨⟨Path.ofText ['/', 'w'], Path.ofText ['/', 'w'], [], [], [], [], []⟩, .empty, false,
        .zero, .zero⟩
    let place : Place := [['w'], ['s']]
    let bs : Bytes := [0xff]
    let tree : Tree := ⟨[(place, bs)], []⟩
    let there := init (some (Path.ofText ['s'])) false
    let back := init (some ⟨[], [['n'], Path.dotDot, ['s']]⟩) false
    (there.run x tree).Refused ∧ (there.run x tree).world.tree.Alike tree ∧
      (there.run x tree).world.tree.file? place = some bs ∧
      (back.run x tree).world.tree.file? place ≠ some bs := by
  intro x place bs tree there back
  have hthere : there.InitsAt x ⟨['/'], [['w'], ['s']]⟩ false := ⟨_, rfl, by decide +kernel⟩
  have hback : back.InitsAt x ⟨['/'], [['w'], ['n'], Path.dotDot, ['s']]⟩ false :=
    ⟨_, rfl, by decide +kernel⟩
  have hfile : tree.file? place = some bs := by decide +kernel
  have hrefused : (there.run x tree).Refused :=
    hthere.refused_of_untagged (by decide) (Settings.writeDefault_of_holds (by decide +kernel))
      (.inl ⟨_, rfl⟩) (Console.untagged_of_not_mem (by decide +kernel))
  have hdots (p : Path) (force : Bool) (hc : there.InitsAt x p force) :
      Path.dotDot ∉ p.parts := by
    rw [hthere.unique hc]
    decide
  have hbs : bs ≠ Bytes.ofText Settings.defaultText.toList := by
    -- The byte spells no text.
    have hnone : bs.decode.toOption.isNone = true := by decide +kernel
    intro h
    rw [h, Bytes.decode_ofText] at hnone
    cases hnone
  have hplain := (refused_untouched x there tree).2.2.2 hdots
  have hkept := (refused_untouched x back tree).2.2.1 _ hback place bs hfile (by decide +kernel) hbs
  refine ⟨hrefused, hplain.1 hrefused, hplain.2 _ hthere place bs hfile, ?_⟩
  rw [ne_eq, hkept, not_not]
  exact ⟨by decide +kernel, by decide +kernel, _,
    Tree.makeFolder_eq_ok.mpr ⟨by decide +kernel, rfl⟩, by decide +kernel⟩

/-- By way of a folder that is missing, the first settings are written over settings that are there;
and where a file is in the way they are refused, but the folder is made. -/
theorem first_settings_lead_back :
    let x : Context :=
      ⟨⟨Path.ofText ['/', 'w'], Path.ofText ['/', 'w'], [], [], [], [], []⟩, .empty, false,
        .zero, .zero⟩
    let place : Place := [['w'], ['s']]
    let tree : Tree := ⟨[(place, Bytes.ofText ['#']), ([['w'], ['a']], [])], []⟩
    let back := init (some ⟨[], [['n'], Path.dotDot, ['s']]⟩) false
    let stopped := init (some ⟨[], [['n'], Path.dotDot, ['a'], ['s']]⟩) false
    tree.file? place = some (Bytes.ofText ['#']) ∧
      (back.run x tree).world.tree.file? place = some (Bytes.ofText Settings.defaultText.toList) ∧
      (stopped.run x tree).Refused ∧ tree.isFolder [['w'], ['n']] = false ∧
      (stopped.run x tree).world.tree.isFolder [['w'], ['n']] = true := by
  intro x place tree back stopped
  let p : Path := ⟨['/'], [['w'], ['n'], Path.dotDot, ['s']]⟩
  let q : Path := ⟨['/'], [['w'], ['n'], Path.dotDot, ['a'], ['s']]⟩
  have hback : back.InitsAt x p false := ⟨_, rfl, by decide +kernel⟩
  have hstopped : stopped.InitsAt x q false := ⟨_, rfl, by decide +kernel⟩
  have hleads : tree.LeadsBack p place :=
    ⟨by decide +kernel, _, Tree.makeFolder_eq_ok.mpr ⟨by decide +kernel, rfl⟩, by decide +kernel⟩
  have hwritten :=
    Settings.file?_afterInit_of_leadsBack (by decide +kernel) (by decide +kernel) hleads
  have hwrite : Settings.writeDefault tree q false = .error (.fault .alreadyThere q.parent) :=
    Settings.writeDefault_of_stop (by decide +kernel)
      (Tree.makeFolder_eq_error.mpr (by decide +kernel))
  have hrefused : (stopped.run x tree).Refused :=
    hstopped.refused_of_untagged (by decide) hwrite (.inr ⟨_, rfl⟩)
      (Console.untagged_fault (by decide +kernel) _)
  refine ⟨by decide +kernel, ?_, hrefused, by decide +kernel, ?_⟩
  · rw [hback.tree_eq (by decide), hwritten]
  · rw [hstopped.tree_eq (by decide), Settings.afterInit, hwrite]
    decide +kernel

end ClassPurge.Command
