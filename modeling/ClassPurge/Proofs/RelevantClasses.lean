import ClassPurge.Proofs.PurgedNames

/-!
Purging asks of the classes in use only whether the classes of the stylesheet are among them. So
what is taken for a class in the sources, and is none of the stylesheet, changes neither the output
nor what is reported of it.
-/

namespace ClassPurge

open Css (Rule parseRules selectorClasses classNames)

section

variable {c : Config} {u v : TextSet} {css : Text}

lemma Config.keeps_of_agree {r : Rule} (h : ∀ w ∈ selectorClasses r.selector, w ∈ u ↔ w ∈ v) :
    c.keeps u r = c.keeps v r := by
  refine keeps_congr ⟨rfl, rfl, rfl⟩ (fun w hw => ?_) fun _ _ => Iff.rfl
  rw [isWanted_iff, isWanted_iff, h w hw]

lemma Purge.kept_of_agree (h : ∀ w ∈ classNames css, w ∈ u ↔ w ∈ v) :
    kept c u (parseRules css) = kept c v (parseRules css) := by
  refine List.filter_congr fun r hr => ?_
  cases hb : r.hasBlock with
  | false => rfl
  | true =>
    rw [Bool.true_and, Bool.true_and]
    cases hat : r.isAt with
    | true => rw [Config.keeps_of_isAt hat, Config.keeps_of_isAt hat]
    | false => exact Config.keeps_of_agree fun w hw => h w (Css.mem_classNames hr hb hat hw)

lemma Config.purge_of_agree (h : ∀ w ∈ classNames css, w ∈ u ↔ w ∈ v) :
    c.purge u css = c.purge v css := by
  rw [purge, purge, Purge.blocks, Purge.blocks, Purge.kept_of_agree h]

lemma purgedOf_of_agree {all : TextSet} (h : ∀ w ∈ all, w ∈ u ↔ w ∈ v) (safelist : List Matcher) :
    Report.purgedOf all u safelist = Report.purgedOf all v safelist := by
  refine List.filter_congr fun w hw => ?_
  have huse : u.contains w = v.contains w := by
    rw [Bool.eq_iff_iff, TextSet.contains_iff, TextSet.contains_iff]
    exact h w hw
  rw [huse]

end

/-- **Only the use of its own classes matters to a stylesheet.** Two runs that know no other
stylesheet and agree on the use of these classes write the same, name the same classes as purged
and count as many in all. -/
theorem purge_own_classes {c : Config} {css : Text} {run run' : Run} {now now' : Reading}
    (hnew : run.all = .empty) (hnew' : run'.all = .empty)
    (hagree : ∀ w ∈ classNames css, w ∈ run.used ↔ w ∈ run'.used)
    (htime : run.Timed now) (htime' : run'.Timed now') (files files' : List SourceFile) :
    (run.purge c css).value.2 = (run'.purge c css).value.2 ∧
      ∃ rep rep', (run.purge c css).value.1.report c files now = .ok rep ∧
        (run'.purge c css).value.1.report c files' now' = .ok rep' ∧
        rep.purgedNames = rep'.purgedNames ∧ rep.total = rep'.total := by
  have hall : (run.after c css).all = (run'.after c css).all := by
    rw [Run.after, Run.after, hnew, hnew']
  have hown : ∀ w ∈ (run.after c css).all, w ∈ classNames css := by
    intro w hw
    rw [Run.after, hnew] at hw
    dsimp only at hw
    split at hw
    · exact (TextSet.mem_insertAll.mp hw).resolve_right (TextSet.not_mem_empty w)
    · exact absurd hw (TextSet.not_mem_empty w)
  have hafter : (run.after c css).Timed now := htime
  have hafter' : (run'.after c css).Timed now' := htime'
  obtain ⟨t, ht⟩ := hafter.report_eq c files
  obtain ⟨t', ht'⟩ := hafter'.report_eq c files'
  refine ⟨Config.purge_of_agree hagree, ?_⟩
  rw [Run.purge_run, Run.purge_run]
  refine ⟨_, _, ht, ht', ?_, ?_⟩
  · have hnames := purgedOf_of_agree (fun w hw => hagree w (hown w hw)) c.safelist
    rw [hall] at hnames
    rw [Report.ofClasses, Report.ofClasses, hall]
    exact hnames
  · rw [Report.ofClasses, Report.ofClasses, hall]

/-- The class `b` is taken for one in use, and is none of the stylesheet. -/
theorem purge_own_classes_extra :
    let css : Text := ".a{}.c{}".toList
    let run : Run := ⟨TextSet.ofList [['a'], ['b']], .empty, none⟩
    (∀ w ∈ classNames css, w ∈ run.used ↔ w ∈ usesA.used) ∧ run.Timed .zero ∧
      usesA.Timed .zero ∧
      (run.purge Config.default css).value.2 = ".a \x7b\x7d\n".toList ∧
      (run.purge Config.default css).value.2 = (usesA.purge Config.default css).value.2 ∧
      ∃ rep rep', (run.purge Config.default css).value.1.report Config.default [] .zero = .ok rep ∧
        (usesA.purge Config.default css).value.1.report Config.default [] .zero = .ok rep' ∧
        rep.purgedNames = rep'.purgedNames ∧ rep.total = rep'.total := by
  intro css run
  have hnames : classNames css = [['a'], ['c']] := by decide +kernel
  have hagree : ∀ w ∈ classNames css, w ∈ run.used ↔ w ∈ usesA.used := by
    rw [hnames]
    simp [run, usesA]
  have htime : run.Timed .zero := by
    intro s hs
    cases hs
  have htime' : usesA.Timed .zero := by
    intro s hs
    cases hs
  have hsame := purge_own_classes (c := Config.default) rfl rfl hagree htime htime' [] []
  exact ⟨hagree, htime, htime', by decide +kernel, hsame⟩

end ClassPurge
