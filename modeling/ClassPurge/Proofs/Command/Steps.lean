import ClassPurge.Command
import ClassPurge.Proofs.Console.Sequences
import ClassPurge.Proofs.Report.JsonText

/-!
What the steps of a command do to the world. Most of them only speak: they say and log something, or
end the command, and leave the files and the output as they are.
-/

namespace ClassPurge.Command

open Console Files Log

/-- What is seen of a world, whatever was logged. -/
structure View where
  tree : Tree
  output : Text
  messages : Text

def World.view (w : World) : View := ⟨w.tree, w.output, w.messages⟩

/-! ### The output -/

@[simp] lemma Context.shown_nil (x : Context) : x.shown [] = [] :=
  ite_self _

lemma Context.shown_eq_self_iff {x : Context} {t : Text} :
    x.shown t = t ↔ x.terminal = true ∨ SequenceFree t := by
  rw [Context.shown]
  split
  · rename_i h
    exact iff_of_true rfl (.inl h)
  · rename_i h
    rw [dropSequences_eq_self_iff, or_iff_right h]

namespace Job

variable {α β ε : Type} {w : World}

/-! ### Single jobs -/

lemma run_bind (j : Job α) (f : α → Job β) : (j >>= f).run w =
    match j.run w with
    | (.ok a, v) => (f a).run v
    | (.error e, v) => (.error e, v) := by
  change (match j.run w with | (a, v) => ExceptT.bindCont f a v) = _
  obtain ⟨a | e, v⟩ := j.run w <;> rfl

lemma run_bind_ok {j : Job α} {f : α → Job β} {a : α} {v : World} (h : j.run w = (.ok a, v)) :
    (j >>= f).run w = (f a).run v := by
  rw [run_bind, h]

lemma run_bind_error {j : Job α} {f : α → Job β} {e : Stop} {v : World}
    (h : j.run w = (.error e, v)) : (j >>= f).run w = (.error e, v) := by
  rw [run_bind, h]

lemma run_get : (get : Job World).run w = (.ok w, w) := rfl

lemma run_orRaise (f : ε → Raised) (e : Except ε α) : (orRaise f e).run w =
    match e with
    | .ok a => (.ok a, w)
    | .error e => (.error (.raised (f e)), w) := by
  cases e <;> rfl

/-! ### Jobs and what can be seen -/

/-- Whatever was logged before, the job takes what is seen of the world from `a` to `b` and ends
with `r`. -/
def Leads (j : Job α) (a : View) (r : Except Stop α) (b : View) : Prop :=
  ∀ w, w.view = a → ∃ v, j.run w = (r, v) ∧ v.view = b

section

variable {a b d : View} {j : Job α} {f : α → Job β}

lemma leads_pure (v : α) (a : View) : Leads (pure v : Job α) a (.ok v) a :=
  fun w hw => ⟨w, rfl, hw⟩

lemma Leads.bind {v : α} {r : Except Stop β} (hj : Leads j a (.ok v) b) (hf : Leads (f v) b r d) :
    Leads (j >>= f) a r d := by
  intro w hw
  obtain ⟨w', hrun, hw'⟩ := hj w hw
  rw [run_bind_ok hrun]
  exact hf w' hw'

lemma Leads.bind_error {e : Stop} (hj : Leads j a (.error e) b) :
    Leads (j >>= f) a (.error e) b := by
  intro w hw
  obtain ⟨w', hrun, hw'⟩ := hj w hw
  exact ⟨w', run_bind_error hrun, hw'⟩

lemma leads_get {f : World → Job β} {r : Except Stop β}
    (hf : ∀ w, w.view = a → Leads (f w) a r b) : Leads (get >>= f) a r b :=
  fun w hw => (run_bind_ok run_get).symm ▸ hf w hw w hw

lemma leads_log (es : List Event) (a : View) : Leads (log es) a (.ok ⟨⟩) a :=
  fun _ hw => ⟨_, rfl, hw⟩

lemma leads_echo (x : Context) (t : Text) (a : View) :
    Leads (echo x t) a (.ok ⟨⟩) { a with output := a.output ++ x.shown t } := by
  rintro w rfl
  exact ⟨_, rfl, rfl⟩

lemma leads_tell (t : Text) (a : View) :
    Leads (tell t) a (.ok ⟨⟩) { a with messages := a.messages ++ t } := by
  rintro w rfl
  exact ⟨_, rfl, rfl⟩

lemma leads_orRaise_ok {f : ε → Raised} {e : Except ε α} {v : α} (h : e = .ok v) (a : View) :
    Leads (orRaise f e) a (.ok v) a := by
  subst h
  exact leads_pure v a

lemma leads_orRaise_error {f : ε → Raised} {e : Except ε α} {fault : ε} (h : e = .error fault)
    (a : View) : Leads (orRaise f e) a (.error (.raised (f fault))) a := by
  subst h
  exact fun w hw => ⟨w, rfl, hw⟩

lemma leads_say {tone : Tone} {message : String} {t : Text} (h : tone.say message.toList = .ok t)
    (a : View) : Leads (say tone message) a (.ok ⟨⟩) { a with messages := a.messages ++ t } :=
  (leads_orRaise_ok h a).bind (leads_tell t a)

end

/-! ### Jobs that leave something alone -/

section

variable {γ δ : Type} {look : World → δ} {j : Job α} {f : α → Job β}

/-- What is looked at is the same after the job, however it ends. -/
def Keeps (look : World → δ) (j : Job α) : Prop := ∀ w, look (j.run w).2 = look w

lemma Keeps.bind (hj : Keeps look j) (hf : ∀ a, Keeps look (f a)) : Keeps look (j >>= f) := by
  intro w
  have hw := hj w
  rw [run_bind]
  rcases hrun : j.run w with ⟨e | a, v⟩
  · rwa [hrun] at hw
  · rw [hrun] at hw
    exact (hf a v).trans hw

lemma keeps_pure (a : α) : Keeps look (pure a : Job α) := fun _ => rfl

lemma keeps_forIn {f : γ → β → Job (ForInStep β)} (h : ∀ a b, Keeps look (f a b)) (l : List γ)
    (b : β) : Keeps look (forIn l b f) := by
  induction l generalizing b with
  | nil => exact keeps_pure b
  | cons a l ih =>
    rw [List.forIn_cons]
    refine (h a b).bind fun step => ?_
    cases step with
    | done b => exact keeps_pure b
    | yield b => exact ih b

end

/-! ### Jobs that only speak -/

/-- The job leaves the files and the output as they are, however it ends. -/
def Speaks (j : Job α) : Prop := ∀ w, (j.run w).2.tree = w.tree ∧ (j.run w).2.output = w.output

lemma speaks_pure (a : α) : Speaks (pure a : Job α) := fun _ => ⟨rfl, rfl⟩

lemma speaks_get : Speaks (get : Job World) := fun _ => ⟨rfl, rfl⟩

lemma speaks_raise (r : Raised) : Speaks (raise r : Job α) := fun _ => ⟨rfl, rfl⟩

lemma speaks_log (es : List Event) : Speaks (log es) := fun _ => ⟨rfl, rfl⟩

lemma speaks_tell (t : Text) : Speaks (tell t) := fun _ => ⟨rfl, rfl⟩

lemma speaks_logged (l : Logged α) : Speaks (logged l) := fun _ => ⟨rfl, rfl⟩

lemma speaks_orRaise (f : ε → Raised) (e : Except ε α) : Speaks (orRaise f e) := fun w => by
  rw [run_orRaise]
  cases e <;> exact ⟨rfl, rfl⟩

lemma Speaks.keeps {j : Job α} (h : Speaks j) : Keeps World.tree j := fun w => (h w).1

lemma speaks_iff {j : Job α} : Speaks j ↔ Keeps World.tree j ∧ Keeps World.output j := forall_and

lemma Speaks.bind {j : Job α} {f : α → Job β} (hj : Speaks j) (hf : ∀ a, Speaks (f a)) :
    Speaks (j >>= f) := by
  simp only [speaks_iff] at *
  exact ⟨hj.1.bind fun a => (hf a).1, hj.2.bind fun a => (hf a).2⟩

/-- A job before which another may be done. -/
lemma speaks_before {p : Prop} [Decidable p] {j : Job Unit} {k : Job α} (hj : Speaks j)
    (hk : Speaks k) : Speaks (if p then j >>= fun _ => k else k) := by
  split
  · exact hj.bind fun _ => hk
  · exact hk

lemma speaks_say (tone : Tone) (message : String) : Speaks (say tone message) :=
  (speaks_orRaise _ _).bind fun t => speaks_tell t

lemma speaks_sayPlain (tone : Tone) (message : String) : Speaks (sayPlain tone message) :=
  (speaks_orRaise _ _).bind fun t => speaks_tell t

lemma speaks_refuse (tone : Tone) (message : String) : Speaks (refuse tone message : Job α) :=
  (speaks_sayPlain tone message).bind fun _ => fun _ => ⟨rfl, rfl⟩

lemma speaks_forIn {γ : Type} {f : γ → β → Job (ForInStep β)} (h : ∀ a b, Speaks (f a b))
    (l : List γ) (b : β) : Speaks (forIn l b f) := by
  simp only [speaks_iff] at *
  exact ⟨keeps_forIn (fun a b => (h a b).1) l b, keeps_forIn (fun a b => (h a b).2) l b⟩

end Job

open Job

variable {x : Context} {w : World}

/-! ### Steps of the commands -/

lemma speaks_loadConfig (x : Context) (config : Option Path) : Speaks (loadConfig x config) := by
  rw [loadConfig]
  refine (speaks_orRaise _ _).bind fun path => speaks_get.bind fun u => ?_
  refine (speaks_orRaise _ _).bind fun l => (speaks_logged l).bind fun s => ?_
  refine speaks_get.bind fun v => ?_
  refine speaks_before (speaks_say _ _) ?_
  refine (speaks_orRaise _ _).bind fun keys => ?_
  refine Speaks.bind (speaks_forIn (fun key _ => ?_) _ _) fun _ => ?_
  · exact (speaks_sayPlain _ _).bind fun _ => speaks_pure _
  · refine (speaks_logged _).bind fun c => ?_
    split
    · exact speaks_pure _
    · exact speaks_raise _
    · exact (speaks_log _).bind fun _ => speaks_refuse _ _

lemma view_of_loadConfig {config : Option Path} {c : Config} {tree : Tree}
    (h : (loadConfig x config).run ⟨tree, [], [], []⟩ = (.ok c, w)) :
    w.view = ⟨tree, [], w.messages⟩ := by
  obtain ⟨htree, houtput⟩ := speaks_loadConfig x config ⟨tree, [], [], []⟩
  rw [h] at htree houtput
  rw [World.view, show w.tree = tree from htree, show w.output = [] from houtput]

lemma exists_run_checkPaths (c : Command) (w : World) :
    ∃ r, c.checkPaths.run w = (r, w) ∧
      ((∀ p ∈ c.paths, '\x00' ∉ p.text) ∧ r = .ok ⟨⟩ ∨
        ∃ p ∈ c.paths, '\x00' ∈ p.text ∧ r = .error (.raised (.file .endMark p))) := by
  have hloop (ps : List Path) :
      ∃ r, (forIn ps PUnit.unit fun p _ => (do
        if p.text.contains '\x00' then
          raise (.file .endMark p)
          pure (ForInStep.yield PUnit.unit)
        else pure (ForInStep.yield PUnit.unit) : Job (ForInStep PUnit))).run w = (r, w) ∧
      ((∀ p ∈ ps, '\x00' ∉ p.text) ∧ r = .ok ⟨⟩ ∨
        ∃ p ∈ ps, '\x00' ∈ p.text ∧ r = .error (.raised (.file .endMark p))) := by
    induction ps with
    | nil => exact ⟨_, rfl, .inl ⟨by simp, rfl⟩⟩
    | cons p ps ih =>
      rw [List.forIn_cons]
      by_cases hp : '\x00' ∈ p.text
      · rw [if_pos (by simpa using hp)]
        exact ⟨_, rfl, .inr ⟨p, List.mem_cons_self, hp, rfl⟩⟩
      · rw [if_neg (by simpa using hp)]
        obtain ⟨r, hrun, ⟨hps, hr⟩ | ⟨q, hq, hmark, hr⟩⟩ := ih
        · exact ⟨r, hrun, .inl ⟨List.forall_mem_cons.mpr ⟨hp, hps⟩, hr⟩⟩
        · exact ⟨r, hrun, .inr ⟨q, List.mem_cons_of_mem p hq, hmark, hr⟩⟩
  rw [checkPaths]
  obtain ⟨r, hrun, hr⟩ := hloop c.paths
  refine ⟨r, ?_, hr⟩
  cases r with
  | ok _ => exact run_bind_ok hrun
  | error e => exact run_bind_error hrun

lemma run_checkPaths {c : Command} (h : ∀ p ∈ c.paths, '\x00' ∉ p.text) :
    c.checkPaths.run w = (.ok ⟨⟩, w) := by
  obtain ⟨r, hrun, ⟨-, hr⟩ | ⟨p, hp, hmark, -⟩⟩ := exists_run_checkPaths c w
  · rw [hrun, hr]
  · exact absurd hmark (h p hp)

lemma leads_readText_error {a : View} {p : Path} {f : Fault}
    (hread : a.tree.read (seen x p) = .error f) (hf : f ≠ .endMark) :
    Leads (readText x p) a (.ok (.error (f.message p.text))) a := by
  rw [readText]
  refine leads_get ?_
  rintro w rfl
  rw [show w.tree.read (seen x p) = .error f from hread]
  cases f with
  | endMark => exact absurd rfl hf
  | _ => exact leads_pure _ _

/-- A file that is read is a text with one kind of line ends, or none. -/
lemma leads_readText_ok {a : View} {p : Path} {bs : Bytes}
    (hread : a.tree.read (seen x p) = .ok bs) :
    Leads (readText x p) a
      (.ok ((bs.decode.mapError Bytes.DecodeError.message).map Text.unifyLineEnds)) a := by
  rw [readText]
  refine leads_get ?_
  rintro w rfl
  rw [show w.tree.read (seen x p) = .ok bs from hread]
  dsimp only
  cases bs.decode <;> exact leads_pure _ _

lemma leads_readStylesheet {a : View} {p : Path} {bs : Bytes} {t : Text}
    (hread : a.tree.read (seen x p) = .ok bs) (hdecode : bs.decode = .ok t) :
    Leads (readStylesheet x p) a (.ok t.unifyLineEnds) a := by
  have htext := leads_readText_ok hread
  rw [hdecode] at htext
  rw [readStylesheet]
  exact htext.bind (leads_pure _ _)

/-- The text by which a report is shown. -/
def shownText (json : Bool) (r : Report) : Except MarkupError Text :=
  if json then .ok (r.jsonText ++ ['\n']) else r.printed

end ClassPurge.Command
