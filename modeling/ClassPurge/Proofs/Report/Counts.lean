import ClassPurge.Proofs.PurgedNames
import ClassPurge.Proofs.Text.Sets
import Mathlib.Data.Set.Card

/-!
The counts of a report. The classes of a stylesheet fall into those that are named as purged and
those that are used or on the safelist, so the two counts make up the total. Of the settings only
the safelist has a say, and a longer one, like more classes in use, only takes names away.
-/

namespace ClassPurge

/-! ### Sizes of sets -/

lemma ncard_of_nodup {ws : List Text} (h : ws.Nodup) : {w | w ∈ ws}.ncard = ws.length := by
  rw [← List.coe_toFinset, Set.ncard_coe_finset, List.toFinset_card_of_nodup h]

namespace TextSet

variable (s : TextSet)

lemma nodup : s.toList.Nodup := s.ordered.nodup

lemma ncard_eq_size : {w | w ∈ s}.ncard = s.size := ncard_of_nodup s.nodup

lemma ncard_filter (p : Text → Bool) :
    {w | w ∈ s ∧ p w = true}.ncard = (s.toList.filter p).length := by
  rw [← ncard_of_nodup (s.nodup.filter p)]
  simp only [List.mem_filter, mem_iff]

end TextSet

/-! ### The names and the counts -/

namespace Report

/-- The report names the classes that are neither used nor on the safelist, in order and each once,
and its counts are those of the classes. -/
structure Accounts (all used : TextSet) (safelist : List Matcher) (rep : Report) : Prop where
  ordered : rep.purgedNames.Pairwise (· < ·)
  named : ∀ w, w ∈ rep.purgedNames ↔ w ∈ all ∧ w ∉ used ∧ matchesAny w safelist = false
  purged : rep.purged = rep.purgedNames.length
  total : rep.total = {w | w ∈ all}.ncard
  /-- What is not purged is used or on the safelist. -/
  balance : rep.total =
    rep.purged + {w | w ∈ all ∧ (w ∈ used ∨ matchesAny w safelist = true)}.ncard

section

variable {all used later : TextSet} {safelist longer : List Matcher}

lemma purgedOf_eq_filter (c : Config) (all used : TextSet) :
    purgedOf all used c.safelist = all.toList.filter fun w => !c.isWanted used w := by
  simp only [purgedOf, Config.isWanted, Bool.not_or]

lemma size_eq_purged_add (c : Config) (all used : TextSet) :
    all.size = (purgedOf all used c.safelist).length +
      {w | w ∈ all ∧ (w ∈ used ∨ matchesAny w c.safelist = true)}.ncard := by
  have hwanted : {w | w ∈ all ∧ (w ∈ used ∨ matchesAny w c.safelist = true)} =
      {w | w ∈ all ∧ c.isWanted used w = true} := by
    simp only [Config.isWanted, Bool.or_eq_true, TextSet.contains_iff]
  rw [hwanted, TextSet.ncard_filter, purgedOf_eq_filter, Nat.add_comm, TextSet.size]
  exact List.length_eq_length_filter_add (c.isWanted used)

lemma accounts_ofClasses (c : Config) (all used : TextSet) (files : List SourceFile) (time : Nat) :
    Accounts all used c.safelist (ofClasses all used c.safelist files time) where
  ordered := all.pairwise_lt.filter _
  named _ := mem_purgedOf
  purged := rfl
  total := by rw [TextSet.ncard_eq_size]; rfl
  balance := by
    have hsize := size_eq_purged_add c all used
    simp only [ofClasses]
    omega

/-- More classes in use and more entries on the safelist only take names away. -/
lemma purgedOf_sublist (hused : ∀ w ∈ used, w ∈ later)
    (hsafe : ∀ w, matchesAny w safelist = true → matchesAny w longer = true) :
    (purgedOf all later longer).Sublist (purgedOf all used safelist) := by
  refine List.monotone_filter_right _ fun w hw => ?_
  rw [Bool.and_eq_true, Bool.not_eq_true', Bool.not_eq_true'] at hw ⊢
  obtain ⟨hlater, hlonger⟩ := hw
  constructor
  · rw [← Bool.not_eq_true, TextSet.contains_iff] at hlater ⊢
    exact mt (hused w) hlater
  · rw [← Bool.not_eq_true] at hlonger ⊢
    exact mt (hsafe w) hlonger

end

end Report

lemma matchesAny_of_subset {w : Text} {entries more : List Matcher} (h : entries ⊆ more)
    (hw : matchesAny w entries = true) : matchesAny w more = true := by
  obtain ⟨m, hm, hacc⟩ := List.any_eq_true.mp hw
  exact List.any_eq_true.mpr ⟨m, h hm, hacc⟩

namespace Run

variable {run : Run} {now : Reading}

/-- **The counts of a report.** It names what is neither used nor on the safelist, and the names and
the classes that are make up the total. Only the safelist has a say among the settings; more classes
in use, or a safelist with more entries, only take names away; and it makes no difference in which
order, or how often, a class was put into a set. -/
theorem report_counts (htime : run.Timed now) (c : Config) (files : List SourceFile) :
    ∃ rep, run.report c files now = .ok rep ∧ rep.Accounts run.all run.used c.safelist ∧
      (∀ d : Config, d.safelist = c.safelist → run.report d files now = .ok rep) ∧
      (∀ later : TextSet, (∀ w ∈ run.used, w ∈ later) →
        ∃ after, { run with used := later }.report c files now = .ok after ∧
          after.purgedNames.Sublist rep.purgedNames) ∧
      (∀ d : Config, c.safelist ⊆ d.safelist →
        ∃ after, run.report d files now = .ok after ∧
          after.purgedNames.Sublist rep.purgedNames) ∧
      ∀ all used : List Text, (∀ w, w ∈ all ↔ w ∈ run.all) → (∀ w, w ∈ used ↔ w ∈ run.used) →
        (⟨.ofList used, .ofList all, run.startedAt⟩ : Run).report c files now = .ok rep := by
  obtain ⟨t, hreport⟩ := htime.exists_time
  have hacc := Report.accounts_ofClasses c run.all run.used files t
  refine ⟨_, hreport run c files rfl, hacc, fun d hd => ?_, fun later hlater => ?_,
    fun d hd => ?_, fun all used hall hused => ?_⟩
  · rw [hreport run d files rfl, hd]
  · exact ⟨_, hreport _ _ files rfl, Report.purgedOf_sublist hlater fun _ hw => hw⟩
  · exact ⟨_, hreport _ _ files rfl,
      Report.purgedOf_sublist (fun _ hw => hw) fun _ => matchesAny_of_subset hd⟩
  · have hallSet : TextSet.ofList all = run.all := TextSet.ext fun w => by simp [hall w]
    have husedSet : TextSet.ofList used = run.used := TextSet.ext fun w => by simp [hused w]
    rw [hallSet, husedSet, hreport _ _ files rfl]

/-- Of five classes one is used, one is on the safelist by its name and one by how it begins. -/
theorem report_counts_five :
    let startsWithX : Pattern := ⟨['^', 'x'], .plain,
      .seq (.anchor .textStart) (.one ⟨[.char 'x'.toNat], false, false, false⟩)⟩
    let c := { Config.default with safelist := [.exact ['b'], .pattern startsWithX] }
    let run : Run := ⟨.ofList [['z'], ['b'], ['a']],
      .ofList [['d'], ['x', 'l'], ['c'], ['b'], ['a']], none⟩
    run.Timed .zero ∧ ∃ rep, run.report c [] .zero = .ok rep ∧
      rep.purgedNames = [['c'], ['d']] ∧
      {w | w ∈ run.all ∧ (w ∈ run.used ∨ matchesAny w c.safelist = true)}.ncard = 3 := by
  intro startsWithX c run
  have htime : run.Timed .zero := by
    intro s hs
    cases hs
  obtain ⟨rep, hrep, hacc, -⟩ := report_counts htime c []
  have hmade : run.report c [] .zero =
      .ok ⟨5, 3, 2, [['c'], ['d']], [['b']], 0, []⟩ := by decide +kernel
  obtain rfl := Except.ok.inj (hrep.symm.trans hmade)
  have hbalance := hacc.balance
  dsimp only at hbalance
  exact ⟨htime, _, hmade, rfl, by omega⟩

end Run

end ClassPurge
