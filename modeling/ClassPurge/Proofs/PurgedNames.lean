import ClassPurge.Proofs.OutputClasses
import ClassPurge.Proofs.Retention
import ClassPurge.Run

/-!
What the report names as purged, held against what purging does. Where nothing but use decides,
every class of a rule that goes is named. A name goes by use and the safelist alone, and a rule by
all its classes: so a class that is named may stay beside one that is used, and a class that the
blocklist takes away is not named if it is used.
-/

namespace ClassPurge

open Css (Rule parseRules selectorClasses classNames)

/-! ### The report -/

lemma mem_purgedOf {all used : TextSet} {safelist : List Matcher} {w : Text} :
    w ∈ Report.purgedOf all used safelist ↔
      w ∈ all ∧ w ∉ used ∧ matchesAny w safelist = false := by
  rw [Report.purgedOf, List.mem_filter, Bool.and_eq_true, Bool.not_eq_true', Bool.not_eq_true',
    ← Bool.not_eq_true, TextSet.contains_iff]
  exact Iff.rfl

/-- The timer tells how long a run has taken at the time `now`. -/
def Run.Timed (run : Run) (now : Reading) : Prop := ∀ s ∈ run.startedAt, ∃ t, s.elapsed now = .ok t

/-- All reports at one time on runs that began together show the same time. -/
lemma Run.Timed.exists_time {run : Run} {now : Reading} (h : run.Timed now) :
    ∃ t, ∀ (run' : Run) (c : Config) (files : List SourceFile),
      run'.startedAt = run.startedAt → run'.report c files now =
        .ok (.ofClasses run'.all run'.used c.safelist files t) := by
  cases hs : run.startedAt with
  | none =>
    refine ⟨0, fun run' c files hrun' => ?_⟩
    rw [Run.report, hrun']
    rfl
  | some s =>
    obtain ⟨t, ht⟩ := h s hs
    refine ⟨t, fun run' c files hrun' => ?_⟩
    rw [Run.report, hrun']
    exact congrArg (Except.map _) ht

lemma Run.Timed.report_eq {run : Run} {now : Reading} (h : run.Timed now) (c : Config)
    (files : List SourceFile) : ∃ t, run.report c files now =
      .ok (.ofClasses run.all run.used c.safelist files t) := by
  obtain ⟨t, ht⟩ := h.exists_time
  exact ⟨t, ht run c files rfl⟩

/-- The run after a stylesheet knows its classes, unless purging is off. -/
def Run.after (c : Config) (css : Text) (run : Run) : Run :=
  { run with all := if c.enabled then run.all.insertAll (classNames css) else run.all }

lemma Run.purge_run (c : Config) (css : Text) (run : Run) :
    (run.purge c css).value.1 = run.after c css := by
  rw [purge, after]
  cases c.enabled <;> rfl

/-- The report after a stylesheet is made, and names the classes that are not wanted. -/
lemma exists_report {c : Config} (hon : c.enabled = true) {run : Run} {now : Reading}
    (htime : run.Timed now) (css : Text) (files : List SourceFile) :
    ∃ rep, (run.purge c css).value.1.report c files now = .ok rep ∧
      ∀ w, w ∈ rep.purgedNames ↔
        (w ∈ classNames css ∨ w ∈ run.all) ∧ c.isWanted run.used w = false := by
  have htime' : (run.after c css).Timed now := htime
  obtain ⟨t, ht⟩ := htime'.report_eq c files
  have hall : (run.after c css).all = run.all.insertAll (classNames css) := if_pos hon
  rw [Run.purge_run]
  refine ⟨_, ht, fun w => ?_⟩
  rw [Config.isWanted_eq_false, ← TextSet.mem_insertAll, ← hall]
  exact mem_purgedOf

/-! ### Rules that go -/

section

variable {c : Config} {run : Run} {now : Reading}

/-- **Every class of a rule that goes for want of use is reported**, so nothing goes when nothing is
reported. -/
theorem report_names_removed (hon : c.enabled = true) (hc : c.JudgesByUse)
    (htime : run.Timed now) (css : Text) (files : List SourceFile) :
    ∃ rep, (run.purge c css).value.1.report c files now = .ok rep ∧
      (∀ r ∈ Purge.removed c run.used (parseRules css), ∀ w ∈ selectorClasses r.selector,
        w ∈ (run.purge c css).value.1.all ∧ w ∈ rep.purgedNames ∧
          w ∉ (run.purge c css).value.1.used ∧ matchesAny w c.safelist = false) ∧
      (rep.purgedNames = [] → Purge.removed c run.used (parseRules css) = []) := by
  obtain ⟨rep, hrep, hnames⟩ := exists_report hon htime css files
  have hgone : ∀ r ∈ Purge.removed c run.used (parseRules css),
      selectorClasses r.selector ≠ [] ∧ ∀ w ∈ selectorClasses r.selector,
        w ∈ classNames css ∧ c.isWanted run.used w = false := by
    intro r hr
    obtain ⟨hmem, hb⟩ := List.mem_filter.mp hr
    obtain ⟨hblock, hkeeps⟩ := Bool.and_eq_true_iff.mp hb
    obtain ⟨hat, hne, hunwanted⟩ := hc.of_not_keeps (by simpa using hkeeps)
    exact ⟨hne, fun w hw => ⟨Css.mem_classNames hmem hblock hat hw, hunwanted w hw⟩⟩
  refine ⟨rep, hrep, fun r hr w hw => ?_, fun hnil => ?_⟩
  · obtain ⟨hall, hunwanted⟩ := (hgone r hr).2 w hw
    rw [Run.purge, if_pos hon]
    exact ⟨TextSet.mem_insertAll.mpr (.inl hall), (hnames w).mpr ⟨.inl hall, hunwanted⟩,
      Config.isWanted_eq_false.mp hunwanted⟩
  · refine List.eq_nil_iff_forall_not_mem.mpr fun r hr => ?_
    obtain ⟨hne, hclasses⟩ := hgone r hr
    obtain ⟨w, hw⟩ := List.exists_mem_of_ne_nil _ hne
    have hnamed := (hnames w).mpr ⟨.inl (hclasses w hw).1, (hclasses w hw).2⟩
    rw [hnil] at hnamed
    cases hnamed

end

/-- The rule with the class `b` goes before a block that does not end. -/
theorem report_names_removed_open_block :
    let css : Text := ['.', 'a', '{', '}', '.', 'b', ' ', 'p', '{', '}', '.', 'c', '{']
    let run : Run := ⟨TextSet.ofList [['a']], .empty, none⟩
    Config.default.JudgesByUse ∧ run.Timed .zero ∧
      (⟨['.', 'b', ' ', 'p'], [], 4, 10, true, false⟩ : Rule) ∈
        Purge.removed Config.default run.used (parseRules css) ∧
      ∃ rep, (run.purge Config.default css).value.1.report Config.default [] .zero = .ok rep ∧
        ['b'] ∈ rep.purgedNames := by
  intro css run
  have hc : Config.default.JudgesByUse := ⟨rfl, rfl, rfl, rfl⟩
  have htime : run.Timed .zero := by
    intro s hs
    cases hs
  have hgone : (⟨['.', 'b', ' ', 'p'], [], 4, 10, true, false⟩ : Rule) ∈
      Purge.removed Config.default run.used (parseRules css) := by decide +kernel
  obtain ⟨rep, hrep, hnames, -⟩ := report_names_removed rfl hc htime css []
  exact ⟨hc, htime, hgone, rep, hrep, (hnames _ hgone ['b'] (by decide +kernel)).2.1⟩

/-! ### Classes that leave the output -/

namespace Css

/-- A style rule without blocks inside. -/
structure IsFlatStyle (r : Rule) : Prop where
  hasBlock : r.hasBlock = true
  style : r.isAt = false
  flat : r.nested = false

instance (r : Rule) : Decidable (IsFlatStyle r) :=
  decidable_of_iff (r.hasBlock = true ∧ r.isAt = false ∧ r.nested = false)
    ⟨fun ⟨hb, hs, hf⟩ => ⟨hb, hs, hf⟩, fun h => ⟨h.hasBlock, h.style, h.flat⟩⟩

end Css

/-- The whole stylesheet is flat style rules. -/
structure FlatStyles (css : Text) : Prop where
  rules : ∀ r ∈ parseRules css, Css.IsFlatStyle r
  tail : Text.AllBlank (Css.afterRules (parseRules css) css)

/-- The class stands in a rule that stays for a class that is wanted. -/
def Accompanied (c : Config) (used : TextSet) (css w : Text) : Prop :=
  ∃ r ∈ Purge.kept c used (parseRules css), w ∈ selectorClasses r.selector ∧
    ∃ v ∈ selectorClasses r.selector, c.isWanted used v = true

/-- The class is wanted, and all its rules go whatever is used. -/
def Overruled (c : Config) (used : TextSet) (css w : Text) : Prop :=
  c.isWanted used w = true ∧
    ∀ r ∈ parseRules css, w ∈ selectorClasses r.selector → c.Overrules r

section

open Css Purge

variable {c : Config} {used : TextSet} {css : Text}

lemma mem_classNames_purge (hon : c.enabled = true) (hcss : FlatStyles css)
    (hseam : ∀ r ∈ kept c used (parseRules css), Seamless r) {w : Text} :
    w ∈ classNames (c.purge used css) ↔
      ∃ r ∈ kept c used (parseRules css), w ∈ selectorClasses r.selector := by
  have hflat : ∀ r ∈ kept c used (parseRules css), IsFlatStyle r := fun r hr =>
    hcss.rules r (mem_kept hr).1
  have hstyles : AllStyles css :=
    ⟨fun r hr => ⟨(hcss.rules r hr).hasBlock, (hcss.rules r hr).style⟩, hcss.tail⟩
  have hrew : ∀ r ∈ kept c used (parseRules css), Rewritable css r := fun r hr =>
    ⟨hseam r hr, by simp [(hflat r hr).style], by simp [(hflat r hr).flat]⟩
  rw [mem_classNames_output hon hstyles hrew]
  refine exists_congr fun r => and_congr_right fun hr => ?_
  have hinner : innerClasses nestingLimit r = [] := by
    rw [nestingLimit, innerClasses, (hflat r hr).flat]
    rfl
  rw [hinner, or_iff_left List.not_mem_nil]

/-- **What is named has left, unless it stays beside a class that is wanted; what has left is named,
unless it is overruled.** -/
theorem purged_names_flat {run : Run} {now : Reading} (hon : c.enabled = true)
    (hcss : FlatStyles css) (hseam : ∀ r ∈ kept c run.used (parseRules css), Seamless r)
    (hall : ∀ w ∈ run.all, w ∈ classNames css) (htime : run.Timed now) (files : List SourceFile) :
    ∃ rep, (run.purge c css).value.1.report c files now = .ok rep ∧ ∀ w,
      (w ∈ rep.purgedNames → w ∈ classNames css ∧
        (w ∈ classNames (run.purge c css).value.2 ↔ Accompanied c run.used css w)) ∧
      (w ∈ classNames css → w ∉ classNames (run.purge c css).value.2 →
        (w ∈ rep.purgedNames ↔ ¬ Overruled c run.used css w)) := by
  obtain ⟨rep, hrep, hnames⟩ := exists_report hon htime css files
  have hout {w : Text} : w ∈ classNames (run.purge c css).value.2 ↔
      ∃ r ∈ kept c run.used (parseRules css), w ∈ selectorClasses r.selector :=
    mem_classNames_purge hon hcss hseam
  refine ⟨rep, hrep, fun w => ⟨fun hw => ⟨?_, ?_⟩, fun hmem hleft => ?_⟩⟩
  · exact ((hnames w).mp hw).1.elim id (hall w)
  · rw [hout]
    constructor
    · rintro ⟨r, hr, hwr⟩
      have hat := (hcss.rules r (mem_kept hr).1).style
      exact ⟨r, hr, hwr, ((Config.keeps_iff hat hwr).mp (keeps_of_mem_kept hr)).2⟩
    · rintro ⟨r, hr, hwr, -⟩
      exact ⟨r, hr, hwr⟩
  · have hoverruled : c.isWanted run.used w = true → Overruled c run.used css w := by
      intro hwanted
      refine ⟨hwanted, fun r hr hwr => ?_⟩
      by_contra hfree
      have hstyle := hcss.rules r hr
      have hstays := (Config.keeps_iff hstyle.style hwr).mpr ⟨hfree, w, hwr, hwanted⟩
      have hkept : r ∈ kept c run.used (parseRules css) :=
        List.mem_filter.mpr ⟨hr, Bool.and_eq_true_iff.mpr ⟨hstyle.hasBlock, hstays⟩⟩
      exact hleft (hout.mpr ⟨r, hkept, hwr⟩)
    rw [hnames]
    constructor
    · rintro ⟨-, hunwanted⟩ ⟨hwanted, -⟩
      rw [hunwanted] at hwanted
      cases hwanted
    · intro hfree
      exact ⟨.inl hmem, by simpa using mt hoverruled hfree⟩

end

def usesA : Run := ⟨TextSet.ofList [['a']], .empty, none⟩

/-- A rule with a class that is used and one that is not. -/
def sharedRule : Text := ['.', 'a', ' ', '.', 'b', '{', '}']

/-- The class `c` has left, and is named. -/
theorem purged_names_shared_rule :
    let css := sharedRule ++ ['.', 'c', '{', '}']
    FlatStyles css ∧
      (∀ r ∈ Purge.kept Config.default usesA.used (parseRules css), Purge.Seamless r) ∧
      usesA.Timed .zero ∧
      ∃ rep, (usesA.purge Config.default css).value.1.report Config.default [] .zero = .ok rep ∧
        ['c'] ∈ rep.purgedNames := by
  intro css
  have hcss : FlatStyles css := ⟨by decide +kernel, by decide +kernel⟩
  have hseam : ∀ r ∈ Purge.kept Config.default usesA.used (parseRules css), Purge.Seamless r := by
    decide +kernel
  have htime : usesA.Timed .zero := by
    intro s hs
    cases hs
  obtain ⟨rep, hrep, hnames⟩ := purged_names_flat rfl hcss hseam (by rintro w ⟨⟩) htime []
  have hleft : ['c'] ∉ classNames (usesA.purge Config.default css).value.2 := by decide +kernel
  have hfree : ¬ Overruled Config.default usesA.used css ['c'] := fun h =>
    absurd h.1 (by decide +kernel)
  exact ⟨hcss, hseam, htime, rep, hrep,
    ((hnames ['c']).2 (by decide +kernel) hleft).mpr hfree⟩

def blocksA : Config := { Config.default with blocklist := [.exact ['a']] }

/-- **The names are no list of what has left.** The class `b` is named and stays beside `a`; where
`a` is blocked it leaves with its rule, and is used and so not named. -/
theorem purged_names_mismatch :
    FlatStyles sharedRule ∧
      ((usesA.purge Config.default sharedRule).value.1.report Config.default [] .zero).map
        Report.purgedNames = .ok [['b']] ∧
      ['b'] ∈ classNames (usesA.purge Config.default sharedRule).value.2 ∧
      ((usesA.purge blocksA sharedRule).value.1.report blocksA [] .zero).map
        Report.purgedNames = .ok [['b']] ∧
      ['a'] ∈ classNames sharedRule ∧
      ['a'] ∉ classNames (usesA.purge blocksA sharedRule).value.2 :=
  ⟨⟨by decide +kernel, by decide +kernel⟩, by decide +kernel⟩

end ClassPurge
