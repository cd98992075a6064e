import ClassPurge.Css.ClassNames
import ClassPurge.Proofs.Css.PlainRules
import ClassPurge.Proofs.Output

/-!
The classes of the output. A stylesheet of style rules has the classes of its selectors and those in
the blocks of its nested rules; comments between the rules have none. A rule that stays keeps its
selector, and its body if there are blocks in it, and so its classes.
-/

namespace ClassPurge.Css

/-- A rule with a block, and no at-rule. -/
structure IsStyle (r : Rule) : Prop where
  hasBlock : r.hasBlock = true
  style : r.isAt = false

instance (r : Rule) : Decidable (IsStyle r) :=
  decidable_of_iff (r.hasBlock = true ∧ r.isAt = false)
    ⟨fun ⟨hb, hs⟩ => ⟨hb, hs⟩, fun h => ⟨h.hasBlock, h.style⟩⟩

/-- The whole stylesheet is style rules. -/
structure AllStyles (css : Text) : Prop where
  rules : ∀ r ∈ parseRules css, IsStyle r
  tail : Text.AllBlank (afterRules (parseRules css) css)

instance (css : Text) : Decidable (AllStyles css) :=
  decidable_of_iff ((∀ r ∈ parseRules css, IsStyle r) ∧
      Text.AllBlank (afterRules (parseRules css) css))
    ⟨fun ⟨hr, ht⟩ => ⟨hr, ht⟩, fun h => ⟨h.rules, h.tail⟩⟩

/-- The classes in the blocks inside a rule, down to `room` levels. -/
def innerClasses (room : Nat) (r : Rule) : List Text :=
  match room with
  | 0 => []
  | room + 1 => if r.nested then classNamesWithin room r.body else []

/-! ### Text without classes -/

lemma classesIn_eq_nil {t : Text} (h : '.' ∉ t) : classesIn t = [] := by
  induction t with
  | nil => rw [classesIn]
  | cons x t ih =>
    rw [List.mem_cons, not_or] at h
    rw [classesIn, if_neg (by simpa using Ne.symm h.1), ih h.2]

lemma afterAddress?_eq_none {t : Text} (h : '(' ∉ t) : afterAddress? t = none := by
  unfold afterAddress?
  split
  · simp at h
  · rfl

lemma dropAddresses_eq {t : Text} (h : '(' ∉ t) : dropAddresses t = t := by
  induction t with
  | nil => rw [dropAddresses]
  | cons x t ih =>
    have hnone := afterAddress?_eq_none h
    rw [List.mem_cons, not_or] at h
    rw [dropAddresses]
    split
    · simp_all
    · rw [ih h.2]

lemma quoteTokens_eq {t : Text} (h : ∀ x ∈ t, ¬ isQuote x) : quoteTokens t = t.map .char := by
  induction t with
  | nil => rw [quoteTokens, scan_nil, List.map_nil]
  | cons x t ih =>
    obtain ⟨hx, ht⟩ := List.forall_mem_cons.mp h
    rw [quoteTokens, scan_char hx (by simp), ← quoteTokens, ih ht, List.map_cons]

lemma dropQuoted_eq {t : Text} (h : ∀ x ∈ t, ¬ isQuote x) : dropQuoted t = t := by
  have hblank (u : Text) : blankTokens (u.map .char) = u := by
    induction u with
    | nil => rfl
    | cons x u ih => simp [blankTokens, ih, Token.text]
  rw [dropQuoted, quoteTokens_eq h, hblank]

lemma looseClasses_of_void {t : Text} (h : Void (tokens t)) : looseClasses t = [] := by
  have hblank : Text.AllBlank (stripComments t) := allBlank_spell h.allBlank_dropComments
  have hno {x : Char} (hx : ¬ Text.isBlank x) : x ∉ stripComments t := fun hm => hx (hblank x hm)
  rw [looseClasses, dropQuoted_eq fun x hx hq => not_isBlank_of_isQuote hq (hblank x hx),
    dropAddresses_eq (hno (by decide)), classesIn_eq_nil (hno (by decide))]

/-! ### Rules and their classes -/

/-- The classes of a rule and of the blocks in it. -/
def ruleClasses (room : Nat) (r : Rule) : List Text :=
  if r.hasBlock then (if r.isAt then [] else selectorClasses r.selector) ++ innerClasses room r
  else []

/-- The classes of a stylesheet, with repetitions at its first level. -/
def levelClasses (room : Nat) (css : Text) : List Text :=
  (parseRules css).flatMap (ruleClasses room) ++ looseClasses (afterRules (parseRules css) css)

lemma classNamesWithin_eq (room : Nat) (css : Text) :
    classNamesWithin room css = (levelClasses room css).eraseDups := by
  let tail := afterRules (parseRules css) css
  have htail (t : Text) : (if t.allBlank then [] else looseClasses t) = looseClasses t := by
    split
    · rename_i h
      have hblank : Text.AllBlank t := List.all_eq_true.mp h
      rw [looseClasses_of_void (allBlank_tokens hblank).void]
    · rfl
  rw [classNamesWithin.eq_def, levelClasses]
  change ((parseRules css).flatMap (ruleClasses room) ++
    if tail.allBlank then [] else looseClasses tail).eraseDups = _
  rw [htail]

lemma IsStyle.ruleClasses_eq {r : Rule} (h : IsStyle r) (room : Nat) :
    ruleClasses room r = selectorClasses r.selector ++ innerClasses room r := by
  rw [ruleClasses, if_pos h.hasBlock, h.style]
  rfl

lemma mem_classNames {css : Text} {r : Rule} (hr : r ∈ parseRules css) (hb : r.hasBlock = true)
    (hat : r.isAt = false) {w : Text} (hw : w ∈ selectorClasses r.selector) :
    w ∈ classNames css := by
  have hstyle : IsStyle r := ⟨hb, hat⟩
  rw [classNames, classNamesWithin_eq, List.mem_eraseDups]
  refine List.mem_append_left _ (List.mem_flatMap.mpr ⟨r, hr, ?_⟩)
  rw [hstyle.ruleClasses_eq]
  exact List.mem_append_left _ hw

/-- Where all rules are style rules the classes are those of the rules, unless the text behind the
last one has some. -/
lemma mem_classNamesWithin {css : Text} (h : ∀ r ∈ parseRules css, IsStyle r)
    (htail : looseClasses (afterRules (parseRules css) css) = []) {room : Nat} {w : Text} :
    w ∈ classNamesWithin room css ↔
      ∃ r ∈ parseRules css, w ∈ selectorClasses r.selector ∨ w ∈ innerClasses room r := by
  rw [classNamesWithin_eq, List.mem_eraseDups, levelClasses, htail, List.append_nil,
    List.mem_flatMap]
  refine exists_congr fun r => and_congr_right fun hr => ?_
  rw [(h r hr).ruleClasses_eq, List.mem_append]

end ClassPurge.Css

namespace ClassPurge.Purge

open Css

/-! ### The output -/

/-- The rule `r'` has the selector of `r` and, if there are blocks inside, its body. -/
structure SameClasses (r r' : Rule) : Prop where
  hasBlock : r'.hasBlock = r.hasBlock
  selector : r'.selector = r.selector
  nested : r'.nested = r.nested
  body : r.nested = true → r'.body = r.body

section

variable {c : Config} {used : TextSet} {css : Text} {r r' : Rule}

lemma SameClasses.isStyle (h : SameClasses r r') (hr : IsStyle r) : IsStyle r' := by
  refine ⟨h.hasBlock.trans hr.hasBlock, ?_⟩
  rw [Rule.isAt, h.selector]
  exact hr.style

lemma SameClasses.innerClasses_eq (h : SameClasses r r') (room : Nat) :
    innerClasses room r' = innerClasses room r := by
  cases room with
  | zero => rfl
  | succ room =>
    rw [innerClasses, innerClasses, h.nested]
    split
    · rename_i hn
      rw [h.body hn]
    · rfl

lemma statements_eq_nil {rs : List Rule} (h : ∀ r ∈ rs, r.hasBlock = true) : statements rs = [] :=
  List.filter_eq_nil_iff.mpr fun r hr => by simp [h r hr]

/-- The rules of the output are the rules that stay, and blanks and comments follow them. -/
lemma forall₂_sameClasses (hon : c.enabled = true) (hcss : AllStyles css)
    (hrew : ∀ r ∈ kept c used (parseRules css), Rewritable css r) :
    List.Forall₂ SameClasses (kept c used (parseRules css)) (parseRules (c.purge used css)) ∧
      IsRemark (afterRules (parseRules (c.purge used css)) (c.purge used css)) := by
  let out := c.purge used css
  have hstatement : ∀ r i r', IsReading css r i → IsReading out r' i → SameClasses r r' :=
    fun r i r' h h' => ⟨h'.hasBlock.trans h.hasBlock.symm, h'.selector.trans h.selector.symm,
      h'.nested.trans h.nested.symm, fun _ => h'.body.trans h.body.symm⟩
  have hkept : ∀ r ∈ kept c used (parseRules css), ∀ k r', Rewritten css r k →
      IsReading out r' k.item → SameClasses r r' := fun r hr k r' hk h' =>
    ⟨by rw [h'.hasBlock, hk.hasBlock, (mem_kept hr).2], h'.selector.trans hk.selector,
      h'.nested.trans hk.nested, fun hn => h'.body.trans (hk.whole hn).2⟩
  obtain ⟨hrules, hremark, -⟩ :=
    rules_purge hon (isRemark_strip_of_allBlank hcss.tail) hrew hstatement hkept
  rw [statements_eq_nil fun r hr => (hcss.rules r hr).hasBlock, List.nil_append] at hrules
  exact ⟨hrules, hremark⟩

/-- **The classes of the output are those of the rules that stay.** -/
theorem mem_classNames_output (hon : c.enabled = true) (hcss : AllStyles css)
    (hrew : ∀ r ∈ kept c used (parseRules css), Rewritable css r) {w : Text} :
    w ∈ classNames (c.purge used css) ↔ ∃ r ∈ kept c used (parseRules css),
      w ∈ selectorClasses r.selector ∨ w ∈ innerClasses nestingLimit r := by
  obtain ⟨hrules, hremark⟩ := forall₂_sameClasses hon hcss hrew
  have hstyles : ∀ r' ∈ parseRules (c.purge used css), IsStyle r' := by
    intro r' hr'
    obtain ⟨r, hr, h⟩ := exists_of_forall₂ hrules.flip hr'
    exact h.isStyle (hcss.rules r (mem_kept hr).1)
  rw [classNames, mem_classNamesWithin hstyles (looseClasses_of_void hremark.1.void)]
  constructor
  · rintro ⟨r', hr', hw⟩
    obtain ⟨r, hr, h⟩ := exists_of_forall₂ hrules.flip hr'
    rw [h.selector, h.innerClasses_eq] at hw
    exact ⟨r, hr, hw⟩
  · rintro ⟨r, hr, hw⟩
    obtain ⟨r', hr', h⟩ := exists_of_forall₂ hrules hr
    rw [← h.selector, ← h.innerClasses_eq] at hw
    exact ⟨r', hr', hw⟩

end

end ClassPurge.Purge
