import ClassPurge.Proofs.Css.EscapedNames
import ClassPurge.Proofs.Extract.Attribute
import ClassPurge.Proofs.Text.Parts
import ClassPurge.Proofs.Text.Stripping
import ClassPurge.Run

/-!
A class that a source uses is never purged. Its name passes the attribute that mentions it, the
set of used classes, the selector that spells it and the decision whether the rule stays, and no
character of it is read in two ways on the path.
-/

namespace ClassPurge

open Css Extract

/-- A name that a selector can spell, behind a dot. -/
structure IsClassName (name : Text) : Prop where
  starts : StartsName name
  noBlank : Avoids Text.isBlank name
  noQuote : Avoids isQuote name
  noBrace : '{' ∉ name ∧ '}' ∉ name

/-- A body without strings, comments and blocks. -/
structure IsPlainBody (body : Text) : Prop where
  noQuote : Avoids isQuote body
  noComment : ¬ commentMark <:+: body
  noBrace : '{' ∉ body ∧ '}' ∉ body

def classSelector (name : Text) : Text := '.' :: escape name

/-- The rule for one class, with what follows it. -/
def classRule (name body rest : Text) : Text :=
  classSelector name ++ '{' :: (body ++ '}' :: rest)

/-- What is read where the rule for the class stands. -/
def classRuleAt (n : Nat) (name body : Text) : Rule :=
  ⟨classSelector name, body.strip, n, n + ((classSelector name).length + body.length + 2), true,
    false⟩

/-- The source at `path` names the class in the first attribute that it has, and no extractor of
the project reads it. -/
structure NamedIn (c : Config) (s : Sources) (path pre value post name : Text) : Prop where
  listed : ∃ paths, s.paths.value = .ok paths ∧ path ∈ paths
  holds : ∃ bs, s.read path = .ok bs ∧ bs.decode = .ok (pre ++ markupAttribute value post)
  noExtractor : c.extractors.forPath? (Files.Path.ofText path) = none
  first : ¬ markupName <:+: pre
  apart : ∀ x ∈ pre.getLast?, ¬ Text.isName x
  noQuote : '"' ∉ value
  word : name ∈ Text.words value

/-! ### From the source to the set of used classes -/

lemma NamedIn.mem_used {c : Config} {s : Sources} {path pre value post name : Text}
    (h : NamedIn c s path pre value post name) (hon : c.enabled = true) (now : Reading)
    (run : Run) : name ∈ (run.analyze c s now).value.1.used := by
  obtain ⟨paths, hpaths, hpath⟩ := h.listed
  obtain ⟨bs, hread, hdecode⟩ := h.holds
  have hfile : Run.readSource c s.read path =
      .ok ⟨path, candidates (pre ++ markupAttribute value post), bs.length⟩ := by
    simp only [Run.readSource, hread, hdecode, extractClasses, h.noExtractor]
  have hmem : ⟨path, candidates (pre ++ markupAttribute value post), bs.length⟩ ∈
      Run.readAll c s.read paths :=
    List.mem_filterMap.mpr ⟨path, hpath, by rw [hfile]; rfl⟩
  rw [Run.analyze, if_pos hon, hpaths]
  refine TextSet.mem_insertAll.mpr (.inl (List.mem_flatMap.mpr ⟨_, hmem, ?_⟩))
  exact mem_candidates h.first h.apart h.noQuote h.word

/-! ### From the stylesheet to the rule -/

section

variable {name body : Text}

lemma IsClassName.not_isDelimiter (h : IsClassName name) : Avoids isDelimiter name := by
  intro x hx hd
  simp only [isDelimiter, Bool.or_eq_true, beq_iff_eq] at hd
  rcases hd with (hd | rfl) | rfl
  · exact h.noQuote x hx hd
  · exact h.noBrace.1 hx
  · exact h.noBrace.2 hx

lemma IsPlainBody.literal (h : IsPlainBody body) : Literal body :=
  ⟨h.noQuote, h.noComment, h.noBrace⟩

lemma classRuleAt_mem {a : Text} (ha : EndsAtRule a) (hn : IsClassName name)
    (hb : IsPlainBody body) (rest : Text) :
    classRuleAt a.length name body ∈ parseRules (a ++ classRule name body rest) := by
  have hstart : ∀ x ∈ (classSelector name).head?, ¬ (Token.char x).isTrivia ∧ x ≠ '@' := by
    rintro x hx
    obtain rfl : '.' = x := by simpa [classSelector] using hx
    decide
  have hselector : Literal (classSelector name) := literal_class hn.not_isDelimiter
  have hread : plainReading a.length (classSelector name) body =
      classRuleAt a.length name body := by
    rw [plainReading, classSelector, Text.strip_of_trimmed (trimmed_class hn.noBlank)]
    rfl
  rw [parseRules_append ha, classRule,
    parseFrom_plainItem hselector hb.literal hstart, hread]
  exact List.mem_append_right _ List.mem_cons_self

lemma keeps_classRuleAt {c : Config} {used : TextSet} (hn : IsClassName name)
    (hcustom : c.keepCustomProperties = true) (hblock : c.isBlocked name = false)
    (hused : name ∈ used) (n : Nat) : c.keeps used (classRuleAt n name body) = true := by
  have hat : (classRuleAt n name body).isAt = false := rfl
  have hclasses : selectorClasses (classRuleAt n name body).selector = [name] :=
    selectorClasses_escape hn.starts
  have hcontains : used.contains name = true := TextSet.contains_iff.mpr hused
  simp [Config.keeps, hat, hcustom, hclasses, Config.keepsClasses, hblock, Config.isWanted,
    hcontains]

end

/-! ### From the rule to the output -/

lemma infix_assemble {t : Text} {ts : List Text} (h : t ∈ ts) : t <:+: Purge.assemble ts := by
  obtain ⟨us, vs, rfl⟩ := List.append_of_mem h
  have hjoin : t <:+: Text.join ['\n', '\n'] (us ++ t :: vs) := by
    rw [Text.join_append_cons, ← List.append_assoc]
    exact ⟨_, _, rfl⟩
  rw [Purge.assemble]
  split
  · exact hjoin
  · exact hjoin.trans (List.prefix_append _ _).isInfix

/-- **A class that a source uses is never purged.** -/
theorem purge_keeps_used {c : Config} {s : Sources} {path pre value post name a body b : Text}
    (hon : c.enabled = true) (hcustom : c.keepCustomProperties = true)
    (hblock : c.isBlocked name = false) (hname : IsClassName name)
    (hsource : NamedIn c s path pre value post name) (ha : EndsAtRule a) (hbody : IsPlainBody body)
    (now : Reading) (start : Run) :
    let css := a ++ classRule name body b
    let run := (start.analyze c s now).value.1
    let rule := classRuleAt a.length name body
    rule ∈ Purge.kept c run.used (parseRules css) ∧
      rule.format css ∈ Purge.blocks c run.used css ∧
      rule.format css <:+: (run.purge c css).value.2 := by
  intro css run rule
  have hkept : rule ∈ Purge.kept c run.used (parseRules css) := by
    refine List.mem_filter.mpr ⟨classRuleAt_mem ha hname hbody b, ?_⟩
    rw [keeps_classRuleAt hname hcustom hblock (hsource.mem_used hon now start)]
    rfl
  have hblocks : rule.format css ∈ Purge.blocks c run.used css :=
    List.mem_append_right _ (List.mem_map.mpr ⟨rule, hkept, rfl⟩)
  have hout : (run.purge c css).value.2 = Purge.assemble (Purge.blocks c run.used css) := by
    simp only [Run.purge, Config.purge, if_pos hon]
  exact ⟨hkept, hblocks, hout ▸ infix_assemble hblocks⟩

def halfWidth : Text := ['w', '-', '1', '/', '2']

/-- A page with the class in its attribute. -/
def halfWidthPage : Sources :=
  ⟨⟨.ok [['a', '.', 'h', 't', 'm', 'l']], []⟩,
    fun _ => .ok ((['<', 'p', ' '] ++ markupAttribute (' ' :: halfWidth) ['>']).map
      fun x => x.toNat.toUInt8)⟩

/-- A name with a slash is kept between another rule and a brace that nothing opened. -/
theorem purge_keeps_half_width :
    let before : Text := ['.', 'x', '{', '}']
    let body : Text := ['m', ':', '0']
    let css := before ++ classRule halfWidth body ['}']
    let run := (Run.start.analyze Config.default halfWidthPage .zero).value.1
    IsClassName halfWidth ∧
      NamedIn Config.default halfWidthPage ['a', '.', 'h', 't', 'm', 'l'] ['<', 'p', ' ']
        (' ' :: halfWidth) ['>'] halfWidth ∧
      (classRuleAt before.length halfWidth body).format css <:+:
        (run.purge Config.default css).value.2 := by
  intro before body css run
  have hname : IsClassName halfWidth :=
    ⟨⟨'w', _, by decide, .inl rfl⟩, by decide, by decide, by decide⟩
  have hbody : IsPlainBody body := ⟨by decide, by decide, by decide⟩
  have hapart : ∀ x ∈ (['<', 'p', ' '] : Text).getLast?, ¬ Text.isName x := by
    rintro x hx
    obtain rfl : ' ' = x := by simpa using hx
    decide
  have hsource : NamedIn Config.default halfWidthPage ['a', '.', 'h', 't', 'm', 'l']
      ['<', 'p', ' '] (' ' :: halfWidth) ['>'] halfWidth :=
    ⟨⟨_, rfl, by decide⟩, ⟨_, rfl, by decide +kernel⟩, rfl, by decide, hapart, by decide, by decide⟩
  have ha : EndsAtRule before := by
    unfold EndsAtRule
    decide +kernel
  exact ⟨hname, hsource, (purge_keeps_used rfl rfl rfl hname hsource ha hbody .zero .start).2.2⟩
end ClassPurge
