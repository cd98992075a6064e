import ClassPurge.Proofs.Css.Levels
import ClassPurge.Proofs.Text.FirstMentions

/-!
Stylesheets of style rules, statements and at-rules around more of these. Their classes are those
of the selectors in document order, each at its first mention: leaving out the repetitions in a
block first changes nothing. So nothing changes either when a stylesheet is put into an at-rule, as
long as its rules do not come to stand deeper than is looked.
-/

namespace ClassPurge.Css.Sheet

/-- Style rules without blocks in them, statements, and at-rules around more of these. -/
inductive RuleTree : Sheet → Prop
  | tail {t : Text} (ht : Text.AllBlank t) : RuleTree (.tail t)
  | statement {t : Text} {s : Sheet} (ht : IsPhrase t) (hat : IsStatement t) (hs : RuleTree s) :
      RuleTree (.line t s)
  | style {p a body b : Text} {s : Sheet} (hp : IsPhrase p) (hat : isAtSelector p.strip = false)
      (ha : Text.AllBlank a) (hbody : IsPhrase body) (htrim : Text.Trimmed body)
      (hb : Text.AllBlank b) (hs : RuleTree s) : RuleTree (.block p a (.tail body) b s)
  | atRule {p a b : Text} {i s : Sheet} (hp : IsPhrase p) (hat : isAtSelector p.strip = true)
      (hsc : SemicolonFree 0 (Css.tokens p)) (ha : Text.AllBlank a) (hi : RuleTree i)
      (htrim : Text.Trimmed i.write) (hb : Text.AllBlank b) (hs : RuleTree s) :
      RuleTree (.block p a i b s)

variable {s : Sheet}

lemma RuleTree.sound (h : s.RuleTree) : s.Sound := by
  induction h with
  | tail ht => exact (literal_of_allBlank ht).isPhrase
  | statement ht _ _ ih => exact ⟨ht, ih⟩
  | style hp _ ha hbody htrim hb _ ih => exact ⟨hp, ha, hbody, htrim, hb, ih⟩
  | atRule hp _ _ ha _ htrim hb _ ihi ih => exact ⟨hp, ha, ihi, htrim, hb, ih⟩

lemma RuleTree.readable (h : s.RuleTree) : s.Readable := by
  induction h with
  | tail ht =>
    rw [Readable, Text.strip_eq_nil ht]
    rfl
  | statement _ hat _ ih => exact ⟨fun _ => hat, ih⟩
  | style _ hat _ _ _ _ _ ih =>
    refine ⟨fun h => ?_, fun h => ?_, ih⟩
    · rw [hat] at h
      cases h
    · cases h
  | atRule _ _ hsc _ _ _ _ _ ihi ih => exact ⟨fun _ => hsc, fun _ => ihi, ih⟩

/-! ### The classes in their order -/

/-- The classes of the selectors, one after the other. -/
def styleClasses (depth : Nat) (s : Sheet) : List Text :=
  (s.styles depth).flatMap fun x => selectorClasses x.2

lemma styleClasses_eq (s : Sheet) (d e : Nat) : s.styleClasses d = s.styleClasses e := by
  have h := congrArg (List.flatMap selectorClasses) (s.map_styles d e)
  rwa [List.flatMap_map, List.flatMap_map] at h

/-- The classes of the tree are those of its selectors, each at its first mention, wherever there is
room for its rules. -/
def InOrder (s : Sheet) : Prop := ∀ room d, (∀ x ∈ s.styles d, x.1 ≤ d + room) →
  (s.classes room []).eraseDups = (s.styleClasses d).eraseDups

/-- One level of room goes to the block, and leaving out its repetitions first changes nothing. -/
lemma InOrder.inner (h : s.InOrder) {room d : Nat} (hd : ∀ x ∈ s.styles (d + 1), x.1 ≤ d + room) :
    (ifRoom room fun room =>
        if s.hasBlocks then (s.classes room []).eraseDups else []).eraseDups =
      (s.styleClasses (d + 1)).eraseDups := by
  cases room with
  | zero =>
    -- no room is left, and so no style rule
    have hnone : s.styles (d + 1) = [] := List.eq_nil_iff_forall_not_mem.mpr fun x hx => by
      have h1 := le_of_mem_styles hx
      have h2 := hd x hx
      omega
    rw [styleClasses, hnone]
    rfl
  | succ room =>
    rw [ifRoom]
    split
    · have hroom : ∀ x ∈ s.styles (d + 1), x.1 ≤ d + 1 + room := fun x hx => by
        have := hd x hx
        omega
      rw [eraseDups_eraseDups, h room (d + 1) hroom]
    · rename_i hblocks
      rw [styleClasses, styles_of_hasBlocks (by simpa using hblocks)]
      rfl

lemma RuleTree.inOrder (h : s.RuleTree) : s.InOrder := by
  induction h with
  | tail ht =>
    intro room d _
    rw [classes, List.nil_append, looseClasses_of_void (allBlank_tokens ht).void]
    rfl
  | statement ht hat _ ih =>
    intro room d hd
    rw [classes, List.nil_append, if_pos (hat.isAt ht)]
    exact ih room d hd
  | @style p a body b s _ hat _ _ _ _ _ ih =>
    intro room d hd
    have hs : ∀ x ∈ s.styles d, x.1 ≤ d + room := fun x hx => hd x (by simp [styles, hx])
    have hnone : (ifRoom room fun room =>
        if (Sheet.tail body).hasBlocks then ((Sheet.tail body).classes room []).eraseDups else []) =
          [] := by
      cases room <;> rfl
    have hstyles : styleClasses d (.block p a (.tail body) b s) =
        selectorClasses p.strip ++ s.styleClasses d := by
      simp [styleClasses, styles, hat]
    rw [classes, List.nil_append, if_neg (by simp [hat]), hnone, List.append_nil, hstyles]
    exact eraseDups_append_congr rfl (ih room d hs)
  | @atRule p a b i s _ hat _ _ _ _ _ _ ihi ih =>
    intro room d hd
    have hs : ∀ x ∈ s.styles d, x.1 ≤ d + room := fun x hx => hd x (by simp [styles, hx])
    have hi : ∀ x ∈ i.styles (d + 1), x.1 ≤ d + room := fun x hx => hd x (by simp [styles, hx])
    have hstyles : styleClasses d (.block p a i b s) =
        i.styleClasses (d + 1) ++ s.styleClasses d := by
      simp [styleClasses, styles, hat]
    rw [classes, List.nil_append, if_pos hat, List.nil_append, hstyles]
    exact eraseDups_append_congr (ihi.inner hi) (ih room d hs)

/-! ### Blanks at the ends -/

lemma tokens_blank_append {a : Text} (ha : Text.AllBlank a) (t : Text) :
    Css.tokens (a ++ t) = Css.tokens a ++ Css.tokens t := by
  have hslash : a.getLast? ≠ some '/' := fun h =>
    absurd (ha '/' (List.mem_of_getLast? h)) (by decide)
  rw [((literal_of_allBlank ha).tokenizes fun h => absurd h hslash).tokens_eq,
    (literal_of_allBlank ha).tokens_eq]

section

variable {a t : Text}

lemma isPhrase_of_blank_append (ha : Text.AllBlank a) (h : IsPhrase (a ++ t)) : IsPhrase t := by
  obtain ⟨hc, hp, hf⟩ := h
  rw [tokens_blank_append ha] at hc hp hf
  exact ⟨(closed_append.mp hc).2, (plain_append.mp hp).2, (braceFree_append.mp hf).2⟩

lemma semicolonFree_of_blank_append (ha : Text.AllBlank a)
    (h : SemicolonFree 0 (Css.tokens (a ++ t))) : SemicolonFree 0 (Css.tokens t) := by
  rwa [tokens_blank_append ha, ← semicolonFree_essence,
    essence_void_append (allBlank_tokens ha).void, semicolonFree_essence] at h

lemma isStatement_of_blank_append (ha : Text.AllBlank a) (h : IsStatement (a ++ t)) :
    IsStatement t := by
  have hwhole : Whole 0 (Css.tokens t) := by
    have := h.whole
    rwa [tokens_blank_append ha, ← whole_essence,
      essence_void_append (allBlank_tokens ha).void, whole_essence] at this
  refine ⟨?_, hwhole⟩
  obtain ⟨gap, q, hcut, hg⟩ := h.exists_at
  have hat : .char '@' ∉ Css.tokens a := (allBlank_tokens ha).void.not_mem_char (by decide)
  have hstart (v : List Token) (hv : AllTrivia v) :
      ((v ++ .char '@' :: q).dropWhile Token.isTrivia).head? = some (.char '@') := by
    rw [List.dropWhile_append_of_pos hv]
    rfl
  rw [tokens_blank_append ha] at hcut
  rcases List.append_eq_append_iff.mp hcut with ⟨v, rfl, hv⟩ | ⟨v, hv, hq⟩
  · rw [hv]
    exact hstart v (List.forall_mem_append.mp hg).2
  · cases v with
    | nil =>
      rw [List.nil_append] at hq
      rw [← hq]
      exact hstart [] (by simp [AllTrivia])
    | cons k v =>
      obtain ⟨rfl, -⟩ := List.cons.inj hq
      exact absurd (by simp [hv]) hat

end

lemma RuleTree.exists_trimStart (h : s.RuleTree) : ∃ (a : Text) (r : Sheet), Text.AllBlank a ∧
    s.write = a ++ r.write ∧ (∀ x ∈ r.write.head?, ¬ Text.isBlank x) ∧ r.RuleTree ∧
    ∀ d, r.styles d = s.styles d := by
  cases h with
  | @tail t ht =>
    have hnil : Text.AllBlank [] := by simp [Text.AllBlank]
    exact ⟨t, .tail [], ht, by simp [write], by simp [write], .tail hnil, fun _ => rfl⟩
  | @statement t s ht hat hs =>
    obtain ⟨a, t, rfl, ha, hstart⟩ := Text.exists_lead Text.isBlank t
    exact ⟨a, .line t s, ha, by simp [write], Text.head?_append_cons (by decide) hstart _,
      .statement (isPhrase_of_blank_append ha ht) (isStatement_of_blank_append ha hat) hs,
      fun _ => rfl⟩
  | @style p a' body b s hp hat ha' hbody htrim hb hs =>
    obtain ⟨a, p, rfl, ha, hstart⟩ := Text.exists_lead Text.isBlank p
    have hstrip : Text.strip (a ++ p) = Text.strip p := Text.strip_blank_append ha p
    refine ⟨a, .block p a' (.tail body) b s, ha, by simp [write],
      Text.head?_append_cons (by decide) hstart _,
      .style (isPhrase_of_blank_append ha hp) (hstrip ▸ hat) ha' hbody htrim hb hs, fun d => ?_⟩
    simp only [styles, hstrip]
  | @atRule p a' b i s hp hat hsc ha' hi htrim hb hs =>
    obtain ⟨a, p, rfl, ha, hstart⟩ := Text.exists_lead Text.isBlank p
    have hstrip : Text.strip (a ++ p) = Text.strip p := Text.strip_blank_append ha p
    refine ⟨a, .block p a' i b s, ha, by simp [write], Text.head?_append_cons (by decide) hstart _,
      .atRule (isPhrase_of_blank_append ha hp) (hstrip ▸ hat) (semicolonFree_of_blank_append ha hsc)
        ha' hi htrim hb hs, fun d => ?_⟩
    simp only [styles, hstrip]

lemma RuleTree.exists_trimEnd (h : s.RuleTree) : ∃ (r : Sheet) (b : Text), Text.AllBlank b ∧
    s.write = r.write ++ b ∧ (∀ x ∈ r.write.getLast?, ¬ Text.isBlank x) ∧ r.RuleTree ∧
    ∀ d, r.styles d = s.styles d := by
  induction h with
  | @tail t ht =>
    have hnil : Text.AllBlank [] := by simp [Text.AllBlank]
    exact ⟨.tail [], t, ht, by simp [write], by simp [write], .tail hnil, fun _ => rfl⟩
  | @statement t s ht hat _ ih =>
    obtain ⟨r, b, hb, hcut, hend, hr, hstyles⟩ := ih
    exact ⟨.line t r, b, hb, by simp [write, hcut], Text.getLast?_append_cons (by decide) hend t,
      .statement ht hat hr, hstyles⟩
  | @style p a body b' s hp hat ha hbody htrim hb' _ ih =>
    obtain ⟨r, b, hb, hcut, hend, hr, hstyles⟩ := ih
    refine ⟨.block p a (.tail body) b' r, b, hb, by simp [write, hcut], ?_,
      .style hp hat ha hbody htrim hb' hr, fun d => by simp only [styles, hstyles]⟩
    have hlast := Text.getLast?_append_cons (c := '}') (by decide) hend
      (p ++ '{' :: (a ++ (body ++ b')))
    simpa [write] using hlast
  | @atRule p a b' i s hp hat hsc ha hi htrim hb' _ _ ih =>
    obtain ⟨r, b, hb, hcut, hend, hr, hstyles⟩ := ih
    refine ⟨.block p a i b' r, b, hb, by simp [write, hcut], ?_,
      .atRule hp hat hsc ha hi htrim hb' hr, fun d => by simp only [styles, hstyles]⟩
    have hlast := Text.getLast?_append_cons (c := '}') (by decide) hend
      (p ++ '{' :: (a ++ (i.write ++ b')))
    simpa [write] using hlast

lemma RuleTree.exists_trim (h : s.RuleTree) : ∃ (a b : Text) (r : Sheet), Text.AllBlank a ∧
    Text.AllBlank b ∧ s.write = a ++ (r.write ++ b) ∧ Text.Trimmed r.write ∧ r.RuleTree ∧
    ∀ d, r.styles d = s.styles d := by
  obtain ⟨a, q, ha, hcut, hstart, hq, hstyles⟩ := h.exists_trimStart
  obtain ⟨r, b, hb, hcut', hend, hr, hstyles'⟩ := hq.exists_trimEnd
  refine ⟨a, b, r, ha, hb, by rw [hcut, hcut'], ⟨fun x hx => hstart x ?_, hend⟩, hr,
    fun d => (hstyles' d).trans (hstyles d)⟩
  rw [hcut', List.head?_append, Option.mem_def.mp hx]
  rfl

/-! ### The classes of a stylesheet -/

lemma RuleTree.classNames_write (hs : s.RuleTree) (hd : ∀ x ∈ s.styles 0, x.1 ≤ nestingLimit) :
    classNames s.write = (s.styleClasses 0).eraseDups := by
  rw [classNames, classNamesWithin_write hs.sound hs.readable]
  exact hs.inOrder nestingLimit 0 fun x hx => by simpa using hd x hx

/-- **The classes of a tree of rules are those of its selectors in document order**, each at its
first mention, and are the same when the text is put into an at-rule. -/
theorem classNames_ruleTree (hs : s.RuleTree) (hd : ∀ x ∈ s.styles 0, x.1 ≤ nestingLimit) :
    classNames s.write = (s.styleClasses 0).eraseDups ∧
    ∀ p t : Text, IsPhrase p → isAtSelector p.strip = true → SemicolonFree 0 (Css.tokens p) →
      Text.AllBlank t → (∀ x ∈ s.styles 1, x.1 ≤ nestingLimit) →
      classNames (p ++ '{' :: (s.write ++ '}' :: t)) = classNames s.write := by
  refine ⟨hs.classNames_write hd, fun p t hp hat hsc ht hdeep => ?_⟩
  obtain ⟨a, b, r, ha, hb, hcut, htrim, hr, hstyles⟩ := hs.exists_trim
  let wrapped : Sheet := .block p a r b (.tail t)
  have hwrapped : wrapped.RuleTree := .atRule hp hat hsc ha hr htrim hb (.tail ht)
  have hwstyles : wrapped.styles 0 = s.styles 1 := by simp [wrapped, styles, hat, hstyles]
  have htext : p ++ '{' :: (s.write ++ '}' :: t) = wrapped.write := by
    simp [hcut, wrapped, write]
  rw [htext, hwrapped.classNames_write (hwstyles ▸ hdeep), hs.classNames_write hd,
    styleClasses, hwstyles, ← styleClasses, s.styleClasses_eq 1 0]

/-- A statement and two rules, the first in an at-rule; and all of these in another. -/
theorem classNames_ruleTree_media :
    let rule : Sheet := .block ".b .a ".toList [' '] (.tail "x: '.c'".toList) [' '] (.tail [])
    let s : Sheet := .line " @import url(\".d\")".toList
      (.block "\n@media print ".toList ['\n'] rule ['\n'] (.block ".a".toList [] (.tail []) []
        (.tail ['\n'])))
    s.RuleTree ∧ (∀ x ∈ s.styles 0, x.1 ≤ nestingLimit) ∧ classNames s.write = [['b'], ['a']] ∧
      classNames ("@layer x ".toList ++ '{' :: (s.write ++ '}' :: ['\n'])) = [['b'], ['a']] := by
  intro rule s
  have hrule : rule.RuleTree := .style (by decide +kernel) (by decide +kernel) (by decide)
    (by decide +kernel) (by decide +kernel) (by decide) (.tail (by decide))
  have hlast : (Sheet.block ".a".toList [] (.tail []) [] (.tail ['\n'])).RuleTree :=
    .style (by decide +kernel) (by decide +kernel) (by decide) (by decide +kernel) (by decide)
      (by decide) (.tail (by decide))
  have hs : s.RuleTree := .statement (by decide +kernel) (by decide +kernel)
    (.atRule (by decide +kernel) (by decide +kernel) (by decide +kernel) (by decide) hrule
      (by decide +kernel) (by decide) hlast)
  have hd : ∀ x ∈ s.styles 0, x.1 ≤ nestingLimit := by decide +kernel
  have hclasses : (s.styleClasses 0).eraseDups = [['b'], ['a']] := by decide +kernel
  obtain ⟨h, hwrap⟩ := classNames_ruleTree hs hd
  have hlayer := hwrap "@layer x ".toList ['\n'] (by decide +kernel) (by decide +kernel)
    (by decide +kernel) (by decide) (by decide +kernel)
  rw [h, hclasses] at hlayer
  exact ⟨hs, hd, h.trans hclasses, hlayer⟩

end ClassPurge.Css.Sheet
