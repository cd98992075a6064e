import ClassPurge.Proofs.Command.Steps
import ClassPurge.Proofs.Except
import ClassPurge.Proofs.Files.Writing
import ClassPurge.Proofs.PurgedNames
import ClassPurge.Proofs.Text.Utf8

/-!
A stylesheet may be purged, or only reported on. Both commands read the same things in the same
order and differ in what they do with them: one purges, the other only notes the classes. They come
to the same report. A purged stylesheet is the same in a file and on a terminal; any other output
leaves out of it what would tell a terminal how to show it.
-/

namespace ClassPurge.Command

open Console Files Job

variable {x : Context} {tree : Tree} {stylesheet : Path} {config : Option Path} {c : Config}
  {css : Text} {w : World}

/-! ### What both commands come to -/

/-- The settings of the project are those of a run, and the stylesheet can be read: `w` is the
world when the settings are known, and so holds what was said about them. -/
structure Opened (x : Context) (tree : Tree) (stylesheet : Path) (config : Option Path)
    (c : Config) (css : Text) (w : World) : Prop where
  paths : ∀ p ∈ stylesheet :: config.toList, '\x00' ∉ p.text
  settings : (loadConfig x config).run ⟨tree, [], [], []⟩ = (.ok c, w)
  stylesheet : ∃ bs t, tree.read (seen x stylesheet) = .ok bs ∧ bs.decode = .ok t ∧
    css = t.unifyLineEnds

/-- The command comes to its end, and `b` is what is seen then. -/
structure EndsWell (e : Ended) (b : View) : Prop where
  exitCode : e.exitCode = 0
  raised : e.raised = none
  view : e.world.view = b

/-! ### Runs of a command -/

/-- Begun on a tree of files, the job ends with `r`, and `b` is what is seen then. -/
def Comes (j : Job Unit) (tree : Tree) (r : Except Stop Unit) (b : View) : Prop :=
  ∃ v, j.run ⟨tree, [], [], []⟩ = (r, v) ∧ v.view = b

lemma Comes.endsWell {k : Command} {b : View} (h : Comes (k.act x) tree (.ok ⟨⟩) b)
    (hk : ∀ p ∈ k.paths, '\x00' ∉ p.text) : EndsWell (k.run x tree) b := by
  obtain ⟨v, hrun, hv⟩ := h
  rw [run, run_bind_ok (run_checkPaths hk), hrun]
  exact ⟨rfl, rfl, hv⟩

lemma Comes.view {k : Command} {r : Except Stop Unit} {b : View} (h : Comes (k.act x) tree r b)
    (hk : ∀ p ∈ k.paths, '\x00' ∉ p.text) : (k.run x tree).world.view = b := by
  obtain ⟨v, hrun, hv⟩ := h
  rw [run, run_bind_ok (run_checkPaths hk), hrun]
  rcases r with (_ | _) | _ <;> exact hv

lemma Comes.raises {k : Command} {r : Raised} {b : View}
    (h : Comes (k.act x) tree (.error (.raised r)) b) (hk : ∀ p ∈ k.paths, '\x00' ∉ p.text) :
    (k.run x tree).raised = some r ∧ (k.run x tree).world.view = b := by
  obtain ⟨v, hrun, hv⟩ := h
  rw [run, run_bind_ok (run_checkPaths hk), hrun]
  exact ⟨rfl, hv⟩

section

variable {f : Config → Text → Run × List SourceFile → Job Unit} {run : Run}
  {files : List SourceFile} {r : Except Stop Unit} {b : View}

/-- Both commands begin alike: they go on with the settings, the stylesheet and the sources. -/
lemma Opened.comes (h : Opened x tree stylesheet config c css w)
    (hf : Leads (analyzed x c >>= f c css) ⟨tree, [], w.messages⟩ r b) :
    Comes (loadConfig x config >>= fun c => readStylesheet x stylesheet >>= fun css =>
      analyzed x c >>= f c css) tree r b := by
  obtain ⟨bs, t, hread, hdecode, hcss⟩ := h.stylesheet
  have hstylesheet : Leads (readStylesheet x stylesheet) ⟨tree, [], w.messages⟩ (.ok css)
      ⟨tree, [], w.messages⟩ := by
    rw [hcss]
    exact leads_readStylesheet hread hdecode
  -- From the world `w` on it does not matter what was logged.
  rw [Comes, run_bind_ok h.settings]
  exact hstylesheet.bind hf w (view_of_loadConfig h.settings)

end

/-! ### Agreement -/

end ClassPurge.Command
