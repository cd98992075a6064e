import ClassPurge.Proofs.Css.Branches
import ClassPurge.Purge

/-!
Whether a rule stays. Use and the safelist speak for a style rule, the blocklist speaks against it:
so more of the first and less of the second keep every rule that stayed, and an entry counts for
what it accepts, however often and in whatever place it stands. The classes of all branches of a
selector are judged together. A branch without classes is no reason to keep a rule whose other
branches name only classes that nobody wants.
-/

namespace ClassPurge

open Css (Rule parseRules selectorClasses branches)

namespace Config

/-- The rule goes whatever is used: it has a blocked class, or a custom property where these are
dropped. -/
def Overrules (c : Config) (r : Rule) : Prop :=
  (∃ w ∈ selectorClasses r.selector, c.isBlocked w = true) ∨
    (c.keepCustomProperties = false ∧ mentionsCustomProperty r = true)

instance (c : Config) (r : Rule) : Decidable (c.Overrules r) :=
  inferInstanceAs (Decidable (_ ∨ _))

/-- Nothing but use and the safelist takes a rule away. -/
structure JudgesByUse (c : Config) : Prop where
  blocklist : c.blocklist = []
  keyframes : c.keepKeyframes = true
  fontFace : c.keepFontFace = true
  customProperties : c.keepCustomProperties = true

/-- The settings `c` and `d` drop the same at-rules, and custom properties alike. -/
structure SameFlags (c d : Config) : Prop where
  keyframes : d.keepKeyframes = c.keepKeyframes
  fontFace : d.keepFontFace = c.keepFontFace
  customProperties : d.keepCustomProperties = c.keepCustomProperties

/-- With `d` and `v` every class of the rule is wanted that is with `c` and `u`, and none is blocked
that is not with `c`. -/
structure Milder (c : Config) (u : TextSet) (d : Config) (v : TextSet) (r : Rule) : Prop where
  flags : SameFlags c d
  wanted : ∀ w ∈ selectorClasses r.selector, c.isWanted u w = true → d.isWanted v w = true
  blocked : ∀ w ∈ selectorClasses r.selector, d.isBlocked w = true → c.isBlocked w = true

/-- With `d` and `v` at least as much is used and on the safelist as with `c` and `u`, and at most
as much on the blocklist. -/
structure Loosens (c : Config) (u : TextSet) (d : Config) (v : TextSet) : Prop where
  flags : SameFlags c d
  used : ∀ w ∈ u, w ∈ v
  safelist : c.safelist ⊆ d.safelist
  blocklist : d.blocklist ⊆ c.blocklist

section

variable {c d : Config} {used u v : TextSet} {r : Rule}

/-! ### Classes for and against a rule -/

/-- A style rule stays if it is not overruled, and has no class or one that is wanted. -/
lemma keeps_style_iff (hat : r.isAt = false) : c.keeps used r = true ↔ ¬ c.Overrules r ∧
    (selectorClasses r.selector = [] ∨
      ∃ w ∈ selectorClasses r.selector, c.isWanted used w = true) := by
  rw [keeps, hat, if_neg (by decide), keepsClasses, Overrules]
  rcases eq_or_ne (selectorClasses r.selector) [] with hnil | hne
  · rw [hnil]
    cases hcp : c.keepCustomProperties <;> cases hm : mentionsCustomProperty r <;> simp
  · have hempty : (selectorClasses r.selector).isEmpty = false := List.isEmpty_eq_false_iff.mpr hne
    rw [hempty]
    cases hcp : c.keepCustomProperties <;> cases hm : mentionsCustomProperty r <;> simp [hne]

/-- A rule with a class in its selector stays if one of its classes is wanted and it is not
overruled. -/
lemma keeps_iff (hat : r.isAt = false) {w : Text} (hw : w ∈ selectorClasses r.selector) :
    c.keeps used r = true ↔
      ¬ c.Overrules r ∧ ∃ v ∈ selectorClasses r.selector, c.isWanted used v = true := by
  rw [keeps_style_iff hat, or_iff_right (List.ne_nil_of_mem hw)]

lemma not_overrules (hb : c.blocklist = []) (hcp : c.keepCustomProperties = true) (r : Rule) :
    ¬ c.Overrules r := by
  rintro (⟨w, -, hw⟩ | ⟨hoff, -⟩)
  · simp [isBlocked, hb] at hw
  · rw [hcp] at hoff
    cases hoff

/-- A rule that goes for want of use is a style rule, and has a class. -/
lemma JudgesByUse.of_not_keeps (h : c.JudgesByUse) (hk : c.keeps used r = false) :
    r.isAt = false ∧ selectorClasses r.selector ≠ [] ∧
      ∀ w ∈ selectorClasses r.selector, c.isWanted used w = false := by
  have hat : r.isAt = false := by
    rw [← Bool.not_eq_true]
    intro hat
    rw [keeps_of_isAt hat, keepsAt, h.keyframes, h.fontFace] at hk
    cases hk
  have hfree := not_overrules h.blocklist h.customProperties r
  rw [← Bool.not_eq_true, keeps_style_iff hat] at hk
  refine ⟨hat, fun hnil => hk ⟨hfree, .inl hnil⟩, fun w hw => ?_⟩
  rw [← Bool.not_eq_true]
  exact fun hwanted => hk ⟨hfree, .inr ⟨w, hw, hwanted⟩⟩

lemma isWanted_iff {w : Text} :
    c.isWanted used w = true ↔ w ∈ used ∨ ∃ m ∈ c.safelist, m.accepts w = true := by
  rw [isWanted, Bool.or_eq_true, TextSet.contains_iff, matchesAny, List.any_eq_true]

lemma isBlocked_iff {w : Text} :
    c.isBlocked w = true ↔ ∃ m ∈ c.blocklist, m.accepts w = true := by
  rw [isBlocked, matchesAny, List.any_eq_true]

lemma isWanted_eq_false {w : Text} :
    c.isWanted used w = false ↔ w ∉ used ∧ matchesAny w c.safelist = false := by
  rw [isWanted, Bool.or_eq_false_iff, ← Bool.not_eq_true, TextSet.contains_iff]

/-! ### Two runs -/

lemma Loosens.milder (h : Loosens c u d v) (r : Rule) : Milder c u d v r := by
  refine ⟨h.flags, fun w _ hw => ?_, fun w _ hw => ?_⟩
  · rw [isWanted_iff] at hw ⊢
    rcases hw with hw | ⟨m, hm, hw⟩
    · exact .inl (h.used w hw)
    · exact .inr ⟨m, h.safelist hm, hw⟩
  · rw [isBlocked_iff] at hw ⊢
    obtain ⟨m, hm, hw⟩ := hw
    exact ⟨m, h.blocklist hm, hw⟩

lemma Milder.overrules (h : Milder c u d v r) (hr : d.Overrules r) : c.Overrules r := by
  rcases hr with ⟨w, hw, hblocked⟩ | ⟨hoff, hm⟩
  · exact .inl ⟨w, hw, h.blocked w hw hblocked⟩
  · exact .inr ⟨h.flags.customProperties ▸ hoff, hm⟩

/-- **What stays stays** where no class loses a reason to stay, or wins one to go. -/
lemma Milder.keeps (h : Milder c u d v r) (hr : c.keeps u r = true) : d.keeps v r = true := by
  cases hat : r.isAt with
  | true =>
    rw [keeps_of_isAt hat, keepsAt] at hr ⊢
    rwa [h.flags.keyframes, h.flags.fontFace]
  | false =>
    rw [keeps_style_iff hat] at hr ⊢
    obtain ⟨hfree, hclasses⟩ := hr
    refine ⟨fun hover => hfree (h.overrules hover), ?_⟩
    rcases hclasses with hnil | ⟨w, hw, hwanted⟩
    · exact .inl hnil
    · exact .inr ⟨w, hw, h.wanted w hw hwanted⟩

lemma keeps_congr (h : SameFlags c d)
    (hwanted : ∀ w ∈ selectorClasses r.selector, c.isWanted u w = true ↔ d.isWanted v w = true)
    (hblocked : ∀ w ∈ selectorClasses r.selector, c.isBlocked w = true ↔ d.isBlocked w = true) :
    c.keeps u r = d.keeps v r := by
  have hto : Milder c u d v r :=
    ⟨h, fun w hw => (hwanted w hw).mp, fun w hw => (hblocked w hw).mpr⟩
  have hfrom : Milder d v c u r :=
    ⟨⟨h.keyframes.symm, h.fontFace.symm, h.customProperties.symm⟩, fun w hw => (hwanted w hw).mpr,
      fun w hw => (hblocked w hw).mp⟩
  rw [Bool.eq_iff_iff]
  exact ⟨hto.keeps, hfrom.keeps⟩

lemma Loosens.kept_sublist (h : Loosens c u d v) (rules : List Rule) :
    (Purge.kept c u rules).Sublist (Purge.kept d v rules) := by
  refine List.monotone_filter_right rules fun r hr => ?_
  rw [Bool.and_eq_true] at hr ⊢
  exact ⟨hr.1, (h.milder r).keeps hr.2⟩

/-! ### Entries -/

/-- The exact name on the safelist speaks for a class as its use does. -/
lemma isWanted_exact {name : Text} {before after : List Matcher}
    (h : c.safelist = before ++ after) (w : Text) :
    { c with safelist := before ++ Matcher.exact name :: after }.isWanted u w = true ↔
      c.isWanted (u.insert name) w = true := by
  have hexact : (Matcher.exact name).accepts w = true ↔ w = name := beq_iff_eq
  simp only [isWanted_iff, h, TextSet.mem_insert, List.mem_append, List.mem_cons, or_and_right,
    exists_or, exists_eq_left, hexact]
  constructor
  · rintro (hw | hw | hw | hw)
    · exact .inl (.inr hw)
    · exact .inr (.inl hw)
    · exact .inl (.inl hw)
    · exact .inr (.inr hw)
  · rintro ((hw | hw) | hw | hw)
    · exact .inr (.inr (.inl hw))
    · exact .inl hw
    · exact .inr (.inl hw)
    · exact .inr (.inr (.inr hw))

end

/-- **More use and fewer blocked classes keep more.** An exact name on the safelist is as good as
its use; the order of the entries and their number count for nothing. -/
theorem kept_monotone :
    (∀ (c d : Config) (u v : TextSet), Loosens c u d v → ∀ css,
      (∀ r ∈ parseRules css, c.keeps u r = true → d.keeps v r = true) ∧
        ((Purge.kept c u (parseRules css)).map fun r => r.format css).Sublist
          ((Purge.kept d v (parseRules css)).map fun r => r.format css)) ∧
    (∀ (c : Config) (u : TextSet) (name : Text) (before after : List Matcher) (r : Rule),
      c.safelist = before ++ after →
        { c with safelist := before ++ Matcher.exact name :: after }.keeps u r =
          c.keeps (u.insert name) r) ∧
    (∀ (c : Config) (u : TextSet) (safelist blocklist : List Matcher) (r : Rule),
      (∀ m, m ∈ safelist ↔ m ∈ c.safelist) → (∀ m, m ∈ blocklist ↔ m ∈ c.blocklist) →
        { c with safelist := safelist, blocklist := blocklist }.keeps u r = c.keeps u r) := by
  refine ⟨fun c d u v h css => ?_, fun c u name before after r h => ?_,
    fun c u safelist blocklist r hsafe hblock => ?_⟩
  · exact ⟨fun r _ => (h.milder r).keeps, (h.kept_sublist _).map _⟩
  · let listed : Config := { c with safelist := before ++ Matcher.exact name :: after }
    exact keeps_congr (c := listed) (d := c) ⟨rfl, rfl, rfl⟩ (fun w _ => isWanted_exact h w)
      fun _ _ => Iff.rfl
  · let relisted : Config := { c with safelist := safelist, blocklist := blocklist }
    refine keeps_congr (c := relisted) (d := c) ⟨rfl, rfl, rfl⟩ (fun w _ => ?_) fun w _ => ?_
    · simp only [isWanted_iff, relisted, hsafe]
    · simp only [isBlocked_iff, relisted, hblock]

/-- With `a` used and `b` blocked only the rule of `a` stays; with `b` used as well, `c` on the
safelist and nothing blocked those of `b` and `c` stay beside it. -/
theorem kept_monotone_four_rules :
    let css : Text := ".a{}.b{}.c{}.d{}".toList
    let strict : Config := { Config.default with blocklist := [.exact ['b']] }
    let mild : Config := { Config.default with safelist := [.exact ['c']] }
    let u : TextSet := TextSet.ofList [['a']]
    let v : TextSet := TextSet.ofList [['a'], ['b']]
    Loosens strict u mild v ∧
      ((Purge.kept strict u (parseRules css)).map Rule.selector = [['.', 'a']] ∧
        (Purge.kept mild v (parseRules css)).map Rule.selector =
          [['.', 'a'], ['.', 'b'], ['.', 'c']]) ∧
      ((Purge.kept strict u (parseRules css)).map fun r => r.format css).Sublist
        ((Purge.kept mild v (parseRules css)).map fun r => r.format css) ∧
      (∀ r, mild.keeps u r = Config.default.keeps (u.insert ['c']) r) ∧
      ∀ r, { strict with blocklist := [.exact ['b'], .exact ['b']] }.keeps u r =
        strict.keeps u r := by
  intro css strict mild u v
  have hused : ∀ w ∈ u, w ∈ v := by
    intro w hw
    exact TextSet.mem_ofList.mpr (List.mem_append_left [['b']] (TextSet.mem_ofList.mp hw))
  have hloose : Loosens strict u mild v :=
    ⟨⟨rfl, rfl, rfl⟩, hused, List.nil_subset _, List.nil_subset _⟩
  have hsub := (kept_monotone.1 strict mild u v hloose css).2
  have hname := fun r => kept_monotone.2.1 Config.default u ['c'] [] [] r rfl
  have htwice := fun r => kept_monotone.2.2 strict u [] [.exact ['b'], .exact ['b']] r
    (fun _ => Iff.rfl) (by simp [strict])
  exact ⟨hloose, by decide +kernel, hsub, hname, htwice⟩

/-! ### Branches -/

/-- **The branches of a selector are judged together.** Where nothing overrules it a style rule
stays exactly if none of its branches has a class, or one of them has a class that is wanted. -/
theorem keeps_iff_branches {c : Config} {used : TextSet} {r : Rule} (hat : r.isAt = false)
    (hblock : c.blocklist = []) (hcustom : c.keepCustomProperties = true) :
    c.keeps used r = true ↔ (∀ b ∈ branches r.selector, selectorClasses b = []) ∨
      ∃ b ∈ branches r.selector, ∃ w ∈ selectorClasses b, c.isWanted used w = true := by
  have hnil : selectorClasses r.selector = [] ↔
      ∀ b ∈ branches r.selector, selectorClasses b = [] := by
    simp only [List.eq_nil_iff_forall_not_mem]
    constructor
    · intro h b hb w hw
      exact h w (Css.mem_selectorClasses_branches.mpr ⟨b, hb, hw⟩)
    · intro h w hw
      obtain ⟨b, hb, hw⟩ := Css.mem_selectorClasses_branches.mp hw
      exact h b hb w hw
  have hwanted : (∃ w ∈ selectorClasses r.selector, c.isWanted used w = true) ↔
      ∃ b ∈ branches r.selector, ∃ w ∈ selectorClasses b, c.isWanted used w = true := by
    constructor
    · rintro ⟨w, hw, h⟩
      obtain ⟨b, hb, hw⟩ := Css.mem_selectorClasses_branches.mp hw
      exact ⟨b, hb, w, hw, h⟩
    · rintro ⟨b, hb, w, hw, h⟩
      exact ⟨w, Css.mem_selectorClasses_branches.mpr ⟨b, hb, hw⟩, h⟩
  rw [keeps_style_iff hat, and_iff_right (not_overrules hblock hcustom r), hnil, hwanted]

/-- The class `a` is used. -/
theorem keeps_iff_branches_mixed :
    let r : Rule := ⟨"p:is(b, i), .a, .b".toList, [], 0, 20, true, false⟩
    let used : TextSet := TextSet.ofList [['a']]
    r.isAt = false ∧ Config.default.blocklist = [] ∧ Config.default.keepCustomProperties = true ∧
      branches r.selector = ["p:is(b, i)".toList, " .a".toList, " .b".toList] ∧
      Config.default.keeps used r = true := by
  intro r used
  have hsplit : branches r.selector = ["p:is(b, i)".toList, " .a".toList, " .b".toList] := by
    decide +kernel
  have hstays : Config.default.keeps used r = true :=
    (keeps_iff_branches rfl rfl rfl).mpr
      (.inr ⟨" .a".toList, by rw [hsplit]; simp, ['a'], by decide +kernel, by decide +kernel⟩)
  exact ⟨rfl, rfl, rfl, hsplit, hstays⟩

/-- **A branch without classes does not keep its rule** beside one whose class nobody wants. -/
theorem branch_without_classes_goes :
    let css : Text := "p, .unused{}".toList
    let r : Rule := ⟨"p, .unused".toList, [], 0, 12, true, false⟩
    parseRules css = [r] ∧ r.isAt = false ∧ Config.default.blocklist = [] ∧
      Config.default.keepCustomProperties = true ∧
      (∃ b ∈ branches r.selector, selectorClasses b = []) ∧
      Config.default.keeps .empty r = false := by
  decide +kernel

end Config

end ClassPurge
