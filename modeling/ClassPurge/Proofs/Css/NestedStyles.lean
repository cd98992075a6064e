import ClassPurge.Proofs.Css.Branches
import ClassPurge.Proofs.Css.ClassSelectors
import ClassPurge.Proofs.Css.Uncommented

/-!
Style rules nested in style rules, with declarations around them. In a block that has blocks
inside, the declarations before a rule are read as part of its prelude, and those behind the last
rule as text that is no rule. So besides the classes of the selectors, down to the limit, there are
found exactly those that the declarations there seem to have: a dot in them, outside strings, may
pass for the dot of a class.
-/

namespace ClassPurge.Css

/-- A property with its value. The semicolon that ends it is not escaped. -/
structure IsProperty (t : Text) : Prop where
  phrase : IsPhrase t
  style : isAtSelector t.strip = false
  ends : EscapesClose (blanked (tokens t))

instance (t : Text) : Decidable (IsProperty t) :=
  decidable_of_iff
    (IsPhrase t ∧ isAtSelector t.strip = false ∧ EscapesClose (blanked (tokens t)))
    ⟨fun ⟨hp, hs, he⟩ => ⟨hp, hs, he⟩, fun h => ⟨h.phrase, h.style, h.ends⟩⟩

namespace Sheet

/-- Declarations and style rules in any order, at every level. -/
def Nests : Sheet → Prop
  | tail t => IsPhrase t ∧ isAtSelector t.strip = false
  | line t s => IsProperty t ∧ s.Nests
  | block p a i b s => (IsPhrase p ∧ isAtSelector p.strip = false) ∧ Text.AllBlank a ∧ i.Nests ∧
      Text.Trimmed i.write ∧ Text.AllBlank b ∧ s.Nests

instance decidableNests : (s : Sheet) → Decidable s.Nests
  | .tail _ => inferInstanceAs (Decidable (_ ∧ _))
  | .line _ s =>
    have := decidableNests s
    inferInstanceAs (Decidable (_ ∧ _))
  | .block _ _ i _ s =>
    have := decidableNests i
    have := decidableNests s
    inferInstanceAs (Decidable ((_ ∧ _) ∧ _ ∧ _ ∧ _ ∧ _ ∧ _))

/-- The classes that declarations seem to have, in the blocks that are looked into; `lead` is the
declarations since the last rule. -/
def strays (room : Nat) (lead : Text) : Sheet → List Text
  | tail t => looseClasses (lead ++ t)
  | line t s => s.strays room (lead ++ t ++ [';'])
  | block _ _ i _ s => selectorClasses lead ++
      (ifRoom room (fun room => if i.hasBlocks then i.strays room [] else []) ++ s.strays room [])

/-- No declaration in a block that is looked into has a dot outside strings. -/
def Undotted : Sheet → Prop
  | tail t => '.' ∉ blanked (Css.tokens t)
  | line t s => '.' ∉ blanked (Css.tokens t) ∧ s.Undotted
  | block _ _ i _ s => (i.hasBlocks = true → i.Undotted) ∧ s.Undotted

instance decidableUndotted : (s : Sheet) → Decidable s.Undotted
  | .tail _ => inferInstanceAs (Decidable (¬ _))
  | .line _ s =>
    have := decidableUndotted s
    inferInstanceAs (Decidable (¬ _ ∧ _))
  | .block _ _ i _ s =>
    have := decidableUndotted i
    have := decidableUndotted s
    inferInstanceAs (Decidable ((_ → _) ∧ _))

lemma Nests.sound {s : Sheet} (h : s.Nests) : s.Sound := by
  induction s with
  | tail t => exact h.1
  | line t s ih => exact ⟨h.1.phrase, ih h.2⟩
  | block p a i b s ihi ihs =>
    obtain ⟨hp, ha, hi, htrim, hb, hs⟩ := h
    exact ⟨hp.1, ha, ihi hi, htrim, hb, ihs hs⟩

lemma Nests.readable {s : Sheet} (h : s.Nests) : s.Readable := by
  have hno {t : Text} (h : isAtSelector t.strip = false) : ¬ isAtSelector t.strip = true := by
    simp [h]
  induction s with
  | tail t => exact h.2
  | line t s ih => exact ⟨fun hat => absurd hat (hno h.1.style), ih h.2⟩
  | block p a i b s ihi ihs =>
    obtain ⟨hp, -, hi, -, -, hs⟩ := h
    exact ⟨fun hat => absurd hat (hno hp.2), fun _ => ihi hi, ihs hs⟩

end Sheet

/-! ### Blanks around a selector -/

lemma selectorClasses_blank_append {a : Text} (ha : Text.AllBlank a) (t : Text) :
    selectorClasses (a ++ t) = selectorClasses t := by
  induction a with
  | nil => rfl
  | cons c a ih =>
    obtain ⟨hc, ha⟩ := List.forall_mem_cons.mp ha
    have hsep : Separates c := separates_of_isSeparator (by simp [isSeparator, hc])
    have hquote : ¬ isQuote c := fun h => not_isBlank_of_isQuote h hc
    rw [List.cons_append, selectorClasses, blankStrings_char hquote, hsep.classesIn_cons,
      ← selectorClasses, ih ha]

lemma selectorClasses_strip {t : Text} (h : ∀ x ∈ t.getLast?, ¬ Text.isBlank x) :
    selectorClasses t.strip = selectorClasses t := by
  obtain ⟨a, r, rfl, ha, hr⟩ := Text.exists_lead Text.isBlank t
  have htrim : Text.Trimmed r := ⟨hr, fun x hx => h x (by
    rw [List.getLast?_append, Option.mem_def.mp hx]
    rfl)⟩
  rw [Text.strip_blank_append ha, Text.strip_of_trimmed htrim, selectorClasses_blank_append ha]

/-! ### Declarations before a rule -/

/-- Declarations, one after the other, since the last rule. -/
structure Declared (lead : List Token) : Prop where
  solid : Solid lead
  plain : Plain lead
  ends : lead = [] ∨ ∃ u, lead = u ++ [.char ';'] ∧ EscapesClose (blanked u) ∧
    isAtSelector (spell u).strip = false

lemma declared_nil : Declared [] := ⟨solid_nil, by simp [Plain], .inl rfl⟩

section

variable {lead : List Token} {t w : Text}

lemma Declared.not_at (h : Declared lead) (hat : isAtSelector t.strip = false) :
    isAtSelector (spell lead ++ t).strip = false := by
  rcases h.ends with rfl | ⟨u, rfl, -, hu⟩
  · exact hat
  · simpa [Token.text] using isAtSelector_semicolon hu t

lemma Declared.getLast?_ne (h : Declared lead) : lead.getLast? ≠ some (.char '/') := by
  rcases h.ends with rfl | ⟨u, rfl, -⟩ <;> simp

lemma separates_semicolon : Separates ';' := ⟨by decide, by decide, by decide⟩

lemma Declared.escapesClose (h : Declared lead) : EscapesClose (blanked lead) := by
  rcases h.ends with rfl | ⟨u, rfl, hu, -⟩
  · exact trivial
  · have hsemi : EscapesClose (blanked [.char ';']) :=
      (escapesClose_cons separates_semicolon.notBackslash _).mpr trivial
    rw [blanked_append]
    exact hu.append hsemi

lemma Declared.solid_append (h : Declared lead) (ht : IsPhrase t) : Solid (lead ++ tokens t) :=
  h.solid.append ht.solid fun hl => absurd hl h.getLast?_ne

lemma Declared.line (h : Declared lead) (ht : IsProperty t) :
    Declared (lead ++ tokens t ++ [.char ';']) := by
  refine ⟨(h.solid_append ht.phrase).append_char (by decide) (by decide), ?_,
    .inr ⟨lead ++ tokens t, rfl, ?_, ?_⟩⟩
  · exact plain_append.mpr ⟨plain_append.mpr ⟨h.plain, ht.phrase.plain⟩,
      by simp [Plain, Token.isComment]⟩
  · rw [blanked_append]
    exact h.escapesClose.append ht.ends
  · rw [spell_append, spell_tokens]
    exact h.not_at ht.style

/-- What stands behind the declarations has the classes that it has alone. -/
lemma Declared.classesIn_eq (h : Declared lead) (q : Text) :
    classesIn (blankStrings (spell lead ++ q)) =
      classesIn (blankStrings (spell lead)) ++ classesIn (blankStrings q) := by
  rcases h.ends with rfl | ⟨u, rfl, hu, -⟩
  · rw [spell_nil, List.nil_append, blankStrings.eq_1, classesIn.eq_1, List.nil_append]
  · have hdots (a b : Text) (hab : blanked u = a ++ '.' :: b) : EscapesClose b := by
      rw [hab] at hu
      exact hu.after_dot
    have hcut (v : Text) : classesIn (blankStrings (spell (u ++ [.char ';']) ++ v)) =
        classesIn (blanked u) ++ classesIn (blankStrings v) := by
      have htext : blanked (u ++ [.char ';']) ++ blankStrings v =
          blanked u ++ ';' :: blankStrings v := by
        simp [blankToken, Token.text]
      rw [blankStrings_spell_append h.solid.sealed h.plain, htext,
        classesIn_separator separates_semicolon hdots]
    have hself := hcut []
    rw [List.append_nil, blankStrings.eq_1, classesIn.eq_1, List.append_nil] at hself
    rw [hcut, hself]

/-- **A selector behind declarations has their classes besides its own.** -/
lemma Declared.mem_selectorClasses (h : Declared lead) (p : Text) :
    w ∈ selectorClasses (spell lead ++ p).strip ↔
      w ∈ selectorClasses (spell lead) ∨ w ∈ selectorClasses p.strip := by
  obtain ⟨q, b, rfl, hb, hq⟩ := Text.exists_tail p
  have hlast : ∀ x ∈ (spell lead ++ q).getLast?, ¬ Text.isBlank x := by
    rcases h.ends with rfl | ⟨u, rfl, -⟩
    · exact hq
    · have := Text.getLast?_append_cons (c := ';') (by decide) hq (spell u)
      simpa [Token.text] using this
  have hstrip : Text.strip (spell lead ++ (q ++ b)) = Text.strip (spell lead ++ q) := by
    rw [← List.append_assoc, Text.strip_append_blank hb]
  rw [hstrip, selectorClasses_strip hlast, Text.strip_append_blank hb, selectorClasses_strip hq]
  simp only [selectorClasses, List.mem_eraseDups, h.classesIn_eq, List.mem_append]

lemma Declared.selectorClasses_eq_nil (h : Declared lead) (hdot : '.' ∉ blanked lead) :
    selectorClasses (spell lead) = [] := by
  have hblank := blankStrings_spell_append h.solid.sealed h.plain []
  rw [List.append_nil, blankStrings.eq_1, List.append_nil] at hblank
  rw [selectorClasses, hblank, classesIn_eq_nil hdot]
  rfl

end

lemma blankTokens_eq {ts : List Token} (h : AllSealed ts) : blankTokens ts = blanked ts := by
  induction ts with
  | nil => rfl
  | cons k ts ih =>
    obtain ⟨hk, hts⟩ := allSealed_cons.mp h
    rw [blanked_cons, ← ih hts]
    cases hk <;> rfl

lemma afterAddress?_suffix {t r : Text} (h : afterAddress? t = some r) : r <:+ t := by
  unfold afterAddress? at h
  split at h
  · split at h
    · split at h
      · rename_i a d b hcut
        split at h
        · obtain ⟨_, rfl⟩ := Text.eq_of_cut? hcut
          obtain rfl := Option.some.inj h
          have hb : b <:+ a ++ d :: b := ⟨a ++ [d], by simp⟩
          exact hb.trans ⟨[_, _, _, '('], rfl⟩
        · cases h
      · cases h
    · cases h
  · cases h

lemma mem_dropAddresses {c : Char} {t : Text} (h : c ∈ dropAddresses t) : c ∈ t := by
  fun_induction dropAddresses t with
  | case1 => exact h
  | case2 x t r hr ih => exact (afterAddress?_suffix hr).subset (ih h)
  | case3 x t _ ih =>
    rcases List.mem_cons.mp h with rfl | h
    · exact List.mem_cons_self
    · exact List.mem_cons_of_mem _ (ih h)

lemma looseClasses_eq_nil {ts : List Token} (hs : Solid ts) (hp : Plain ts)
    (hdot : '.' ∉ blanked ts) : looseClasses (spell ts) = [] := by
  have hquoted : dropQuoted (stripComments (spell ts)) = blanked ts := by
    rw [stripComments, hs.tokens_spell, hp.dropComments_eq, dropQuoted,
      quoteTokens_spell hs.sealed hp, blankTokens_eq hs.sealed]
  rw [looseClasses, hquoted, classesIn_eq_nil fun h => hdot (mem_dropAddresses h)]

namespace Sheet

/-! ### The classes of nested rules -/

/-- One of the selectors has the class and is no deeper than the limit. -/
def AnyHas (limit : Nat) (w : Text) (xs : List (Nat × Text)) : Prop :=
  ∃ x ∈ xs, x.1 ≤ limit ∧ w ∈ selectorClasses x.2

instance (limit : Nat) (w : Text) (xs : List (Nat × Text)) : Decidable (AnyHas limit w xs) :=
  List.decidableBEx _ xs

/-- A selector of the tree, no deeper than is looked, has the class. -/
def Selects (s : Sheet) (w : Text) : Prop := AnyHas nestingLimit w (s.styles 0)

instance (s : Sheet) (w : Text) : Decidable (s.Selects w) :=
  inferInstanceAs (Decidable (AnyHas ..))

lemma not_anyHas_nil {n : Nat} {w : Text} : ¬ AnyHas n w [] := by simp [AnyHas]

lemma anyHas_append {n : Nat} {w : Text} {xs ys : List (Nat × Text)} :
    AnyHas n w (xs ++ ys) ↔ AnyHas n w xs ∨ AnyHas n w ys := by
  simp only [AnyHas, List.mem_append, or_and_right, exists_or]

lemma anyHas_singleton {n d : Nat} {w p : Text} (h : d ≤ n) :
    AnyHas n w [(d, p)] ↔ w ∈ selectorClasses p := by
  simp [AnyHas, h]

variable {s : Sheet} {lead : List Token}

lemma not_anyHas_styles {n d : Nat} {w : Text} (h : n < d) : ¬ AnyHas n w (s.styles d) := by
  rintro ⟨x, hx, hle, -⟩
  have := le_of_mem_styles hx
  omega

/-- The classes are those of the selectors and those that declarations seem to have. -/
lemma Nests.mem_classes (h : s.Nests) (hlead : Declared lead) {room d : Nat} {w : Text} :
    w ∈ s.classes room (spell lead) ↔
      AnyHas (d + room) w (s.styles d) ∨ w ∈ s.strays room (spell lead) := by
  induction s generalizing lead room d with
  | tail t =>
    rw [classes, strays, styles]
    exact (or_iff_right not_anyHas_nil).symm
  | line t s ih =>
    have hat := hlead.not_at h.1.style
    have htext : spell lead ++ t ++ [';'] = spell (lead ++ Css.tokens t ++ [.char ';']) := by
      simp [Token.text]
    rw [classes, if_neg (by simp [hat]), strays, htext]
    exact ih h.2 (hlead.line h.1)
  | block p a i b s ihi ihs =>
    obtain ⟨hp, -, hi, -, -, hs⟩ := h
    have hat := hlead.not_at hp.2
    have hrest : w ∈ s.classes room [] ↔
        AnyHas (d + room) w (s.styles d) ∨ w ∈ s.strays room [] := ihs hs declared_nil
    have hinner : w ∈ ifRoom room
          (fun room => if i.hasBlocks then (i.classes room []).eraseDups else []) ↔
        AnyHas (d + room) w (i.styles (d + 1)) ∨
          w ∈ ifRoom room (fun room => if i.hasBlocks then i.strays room [] else []) := by
      cases room with
      | zero => exact (or_iff_right (not_anyHas_styles (by omega))).symm
      | succ room =>
        by_cases hblocks : i.hasBlocks = true
        · have hroom : d + (room + 1) = d + 1 + room := by omega
          rw [ifRoom, ifRoom, if_pos hblocks, if_pos hblocks, List.mem_eraseDups, hroom]
          exact ihi hi declared_nil
        · have hnone := styles_of_hasBlocks (by simpa using hblocks) (d + 1)
          rw [ifRoom, ifRoom, if_neg hblocks, if_neg hblocks, hnone]
          exact (or_iff_right not_anyHas_nil).symm
    have hself : AnyHas (d + room) w [(d, p.strip)] ↔ w ∈ selectorClasses p.strip :=
      anyHas_singleton (Nat.le_add_right d room)
    rw [classes, if_neg (by simp [hat]), strays, styles, if_neg (by simp [hp.2])]
    simp only [List.mem_append, anyHas_append, hlead.mem_selectorClasses, hself, hinner, hrest,
      or_assoc, or_comm, or_left_comm]

lemma Nests.strays_eq_nil (h : s.Nests) (hu : s.Undotted) (hlead : Declared lead)
    (hdot : '.' ∉ blanked lead) (room : Nat) : s.strays room (spell lead) = [] := by
  have hnil : '.' ∉ blanked [] := List.not_mem_nil
  induction s generalizing lead room with
  | tail t =>
    have htext : spell lead ++ t = spell (lead ++ Css.tokens t) := by simp
    have hdots : '.' ∉ blanked (lead ++ Css.tokens t) := by
      rw [blanked_append, List.mem_append, not_or]
      exact ⟨hdot, hu⟩
    rw [strays, htext]
    exact looseClasses_eq_nil (hlead.solid_append h.1) (plain_append.mpr ⟨hlead.plain, h.1.plain⟩)
      hdots
  | line t s ih =>
    have htext : spell lead ++ t ++ [';'] = spell (lead ++ Css.tokens t ++ [.char ';']) := by
      simp [Token.text]
    have hdots : '.' ∉ blanked (lead ++ Css.tokens t ++ [.char ';']) := by
      simp [blankToken, Token.text, hdot, hu.1]
    rw [strays, htext]
    exact ih h.2 hu.2 (hlead.line h.1) hdots room
  | block p a i b s ihi ihs =>
    obtain ⟨-, -, hi, -, -, hs⟩ := h
    have hrest : s.strays room [] = [] := ihs hs hu.2 declared_nil hnil room
    have hinner : ifRoom room (fun room => if i.hasBlocks then i.strays room [] else []) = [] := by
      cases room with
      | zero => rfl
      | succ room =>
        rw [ifRoom]
        split
        · rename_i hblocks
          exact ihi hi (hu.1 hblocks) declared_nil hnil room
        · rfl
    rw [strays, hlead.selectorClasses_eq_nil hdot, hinner, hrest]
    rfl

/-- **The classes of nested style rules.** Besides those of the selectors, down to the limit, only
declarations that stand beside a nested rule add any, and not without a dot outside strings. -/
theorem mem_classNames_nested (h : s.Nests) {css : Text} (hcss : InGrammar css)
    (htext : stripComments css = s.write) :
    (∀ w, w ∈ classNames css ↔ s.Selects w ∨ w ∈ s.strays nestingLimit []) ∧
    (s.Undotted → ∀ w, w ∈ classNames css ↔ s.Selects w) := by
  have hreads := h.sound.reads
  have hfree : CommentFree (stripComments css) := by
    rw [htext, ← s.spell_tokens]
    exact hreads.solid.commentFree hreads.plain
  have hall (w : Text) : w ∈ classNames css ↔ s.Selects w ∨ w ∈ s.strays nestingLimit [] := by
    rw [classNames, ← classNamesWithin_stripComments hcss hfree, htext,
      classNamesWithin_write h.sound h.readable, List.mem_eraseDups]
    have hmem : w ∈ s.classes nestingLimit [] ↔
        AnyHas (0 + nestingLimit) w (s.styles 0) ∨ w ∈ s.strays nestingLimit [] :=
      h.mem_classes declared_nil
    rwa [Nat.zero_add] at hmem
  refine ⟨hall, fun hu w => ?_⟩
  have hnone : s.strays nestingLimit [] = [] := h.strays_eq_nil hu declared_nil List.not_mem_nil _
  rw [hall, hnone]
  simp

/-- A declaration with a string and a comment stand before the inner rule: neither has a class. -/
theorem mem_classNames_nested_comment :
    let inner : Sheet := .block ".b".toList [] (.tail "y: 1".toList) [' '] (.tail [])
    let s : Sheet := .block ".a ".toList [' '] (.line "x: '.c'".toList inner) [] (.tail ['\n'])
    let css : Text := ".a \x7b x: '.c';/* .d */.b\x7by: 1 \x7d\x7d\n".toList
    s.Nests ∧ InGrammar css ∧ stripComments css = s.write ∧ s.Undotted ∧
      ∀ w, w ∈ classNames css ↔ s.Selects w := by
  intro inner s css
  have hs : s.Nests := by decide +kernel
  have htail : IsTrivia (afterRules (parseRules css) css) := by
    have hrest : afterRules (parseRules css) css = ['\n'] := by decide +kernel
    rw [hrest]
    exact ⟨[.char '\n'], .cons (.char (by decide) (by decide)) (.nil []), by decide⟩
  have hcss : InGrammar css := (parseRules_longest css).2.mp htail
  have htext : stripComments css = s.write := by decide +kernel
  have hdots : s.Undotted := by decide +kernel
  exact ⟨hs, hcss, htext, hdots, (mem_classNames_nested hs hcss htext).2 hdots⟩

/-- **The name of a file passes for a class**, though no selector has it. -/
theorem nested_address_is_class :
    let inner : Sheet := .block ".b".toList [] (.tail []) [] (.tail [])
    let s : Sheet := .block ".a".toList [] (.line "x:url(f.png)".toList inner) [] (.tail [])
    s.Nests ∧ InGrammar s.write ∧ "png".toList ∈ classNames s.write ∧ ¬ s.Selects "png".toList := by
  intro inner s
  have hrest : afterRules (parseRules s.write) s.write = [] := by decide +kernel
  have hcss : InGrammar s.write :=
    (parseRules_longest s.write).2.mp (hrest ▸ ⟨[], .nil [], by decide⟩)
  exact ⟨by decide +kernel, hcss, by decide +kernel, by decide +kernel⟩

end Sheet

end ClassPurge.Css
