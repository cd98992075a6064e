import ClassPurge.Proofs.Extract.Attribute
import ClassPurge.Proofs.Extract.Candidates

/-!
Pages made of plain text and of attributes. Where the text between the attributes does not have
their name, and no value has it, the search meets every attribute at its beginning: what it has
read ends in a quote or in text that no name runs out of. So it finds the values, in their order.
-/

namespace ClassPurge.Extract

open Text

/-- Text between attributes. It does not have the attribute name, and no name runs out of it. -/
structure Chunk where
  text : Text
  unnamed : ¬ markupName <:+: text
  apart : ∀ c ∈ text.getLast?, ¬ isName c

/-- An attribute of either name. Its value has neither its quote nor the attribute name. -/
structure Attribute where
  name : Text
  left : Text
  right : Text
  quote : Char
  value : Text
  name_mem : name ∈ attributeNames
  left_blank : AllBlank left
  right_blank : AllBlank right
  quote_eq : quote = '"' ∨ quote = '\''
  unquoted : quote ∉ value
  unnamed : ¬ markupName <:+: value

def Attribute.text (a : Attribute) : Text := spellAttribute a.name a.left a.right a.quote a.value

inductive Segment
  | chunk (c : Chunk)
  | attr (a : Attribute)

namespace Segment

def text : Segment → Text
  | chunk c => c.text
  | attr a => a.text

/-- The value, if the segment is an attribute of this name. -/
def value? (name : Text) : Segment → Option Text
  | chunk _ => none
  | attr a => if a.name = name then some a.value else none

end Segment

/-- The text of a page: its segments one behind the other. -/
def pageText (page : List Segment) : Text := page.flatMap Segment.text

/-- The words in the values of the attributes of this name, in their order. -/
def pageWords (name : Text) (page : List Segment) : List Text :=
  (page.filterMap (Segment.value? name)).flatMap words

/-! ### One attribute -/

/-- The long name is not read where the short one stands with another character behind it. -/
lemma attributeValue_componentName {t : Text} (ht : t.head? ≠ some 'N') (before : Option Char) :
    attributeValue componentName before (markupName ++ t) = none := by
  have hafter : after? componentName (markupName ++ t) = none := by
    refine Option.eq_none_iff_forall_ne_some.mpr fun r hr => ht ?_
    have heq := eq_append_of_after? hr
    rw [componentName, List.append_assoc, List.append_cancel_left_eq] at heq
    rw [heq]
    rfl
  rw [attributeValue, hafter]
  split <;> rfl

/-- The short name is not read where the long one stands: its rest is no equals sign. -/
lemma attributeValue_markupName (before : Option Char) (t : Text) :
    attributeValue markupName before (componentName ++ t) = none := by
  have hafter : after? markupName (componentName ++ t) = some ('N' :: 'a' :: 'm' :: 'e' :: t) := by
    rw [componentName, List.append_assoc]
    exact after?_append markupName _
  rw [attributeValue, hafter]
  split <;> rfl

namespace Attribute

variable (a : Attribute)

lemma quote_not_isName : ¬ isName a.quote := by
  rcases a.quote_eq with h | h <;> rw [h] <;> decide

/-- The attribute behind the first character of its name. -/
def tail : Text := a.name.tail ++ (a.left ++ '=' :: (a.right ++ a.quote :: (a.value ++ [a.quote])))

lemma text_eq : ∃ c, a.text = c :: a.tail := by
  obtain ⟨c, name, hname⟩ : ∃ c name, a.name = c :: name := by
    refine List.exists_cons_of_ne_nil fun hnil => ?_
    have hmem := a.name_mem
    rw [hnil] at hmem
    exact absurd hmem (by decide)
  exact ⟨c, by rw [text, spellAttribute, tail, hname]; rfl⟩

lemma getLast?_tail : a.tail.getLast? = some a.quote := by
  have htail : a.tail = (a.name.tail ++ (a.left ++ '=' :: (a.right ++ a.quote :: a.value))) ++
      [a.quote] := by
    simp [tail]
  rw [htail, List.getLast?_concat]

lemma getLast?_text : a.text.getLast? = some a.quote := by
  obtain ⟨c, htext⟩ := a.text_eq
  rw [htext, List.getLast?_cons, getLast?_tail]
  rfl

/-- The attribute has its name at the beginning and nowhere else. -/
lemma unnamed_tail : ¬ markupName <:+: a.tail := by
  have hchars : ∀ c ∈ markupName, isName c := (attributeName_shape markupName (by decide)).2
  have hblank {t : Text} (ht : AllBlank t) : ∀ c ∈ t, c ∉ markupName := fun c hc hmem =>
    not_isBlank_of_isName (hchars c hmem) (ht c hc)
  have hquote : a.quote ∉ markupName := fun hmem => a.quote_not_isName (hchars _ hmem)
  -- what stands between the name and the value has no character of the name
  let middle := a.left ++ '=' :: (a.right ++ [a.quote])
  have hmiddle : ∀ c ∈ middle, c ∉ markupName := by
    have hequals : '=' ∉ markupName := by decide
    exact List.forall_mem_append.mpr ⟨hblank a.left_blank, List.forall_mem_cons.mpr
      ⟨hequals, List.forall_mem_append.mpr ⟨hblank a.right_blank, by simpa using hquote⟩⟩⟩
  have htail : a.tail = a.name.tail ++ (middle ++ (a.value ++ [a.quote])) := by
    simp [tail, middle]
  intro h
  rw [htail] at h
  rcases isInfix_of_separated hmiddle (by simp [middle]) h with hname | hvalue
  · have hnames : ∀ name ∈ attributeNames, ¬ markupName <:+: name.tail := by decide
    exact hnames a.name a.name_mem hname
  · refine a.unnamed (isInfix_of_padded (a := []) (by simp) ?_ hvalue)
    simpa using hquote

lemma attributeValue_text {before : Option Char} (hb : ∀ x ∈ before, ¬ isName x) (post : Text) :
    attributeValue a.name before (a.text ++ post) = some (a.value, post) :=
  attributeValue_spell hb a.left_blank a.right_blank a.quote_eq a.unquoted a.name post

/-- An attribute of the one name is none of the other, though both names begin alike. -/
lemma attributeValue_other {name : Text} (hname : name ∈ attributeNames) (hne : a.name ≠ name)
    (before : Option Char) (post : Text) : attributeValue name before (a.text ++ post) = none := by
  let rest := a.left ++ '=' :: (a.right ++ a.quote :: (a.value ++ a.quote :: post))
  have htext : a.text ++ post = a.name ++ rest := by
    simp [text, spellAttribute, rest]
  have hnames := a.name_mem
  simp only [attributeNames, List.mem_cons, List.not_mem_nil, or_false] at hname hnames
  rw [htext]
  rcases hnames with hmarkup | hcomponent
  · have hother : name = componentName := hname.resolve_left fun h => hne (by rw [hmarkup, h])
    have hhead : rest.head? ≠ some 'N' := by
      cases hleft : a.left with
      | nil => simp [rest, hleft]
      | cons c left =>
        have hc : isBlank c := a.left_blank c (by rw [hleft]; exact List.mem_cons_self)
        have hne : c ≠ 'N' := by
          rintro rfl
          exact absurd hc (by decide)
        simpa [rest, hleft] using hne
    rw [hother, hmarkup]
    exact attributeValue_componentName hhead before
  · have hother : name = markupName := hname.resolve_right fun h => hne (by rw [hcomponent, h])
    rw [hother, hcomponent]
    exact attributeValue_markupName before rest

lemma attributeValue_none {name x y : Text} {before : Option Char} (hname : name ∈ attributeNames)
    (hne : a.name ≠ name) (hcut : a.text = x ++ y) (hy : y ≠ []) (post : Text) :
    attributeValue name before (y ++ post) = none := by
  cases x with
  | nil =>
    rw [List.nil_append] at hcut
    rw [← hcut]
    exact a.attributeValue_other hname hne before post
  | cons c x =>
    obtain ⟨d, htext⟩ := a.text_eq
    rw [htext] at hcut
    obtain ⟨-, htail⟩ := List.cons.inj hcut
    have hcut : a.tail = x ++ y := htail
    refine attributeValue_inside hname (hcut ▸ a.unnamed_tail) ?_ hy
    rw [← hcut, getLast?_tail]
    simpa using a.quote_not_isName

end Attribute

/-! ### The whole page -/

/-- The search meets every segment at its beginning. -/
lemma occurrencesFrom_page {name : Text} (hname : name ∈ attributeNames) (page : List Segment)
    {before : Option Char} (hb : ∀ x ∈ before, ¬ isName x) :
    occurrencesFrom (attributeValue name) before (pageText page) =
      page.filterMap (Segment.value? name) := by
  induction page generalizing before with
  | nil => exact occurrencesFrom.eq_1 _ _
  | cons segment page ih =>
    have htext : pageText (segment :: page) = segment.text ++ pageText page := List.flatMap_cons
    rw [htext, List.filterMap_cons]
    cases segment with
    | chunk c =>
      have hskip : ∀ x y, c.text = x ++ y → y ≠ [] →
          attributeValue name (x.getLast?.or before) (y ++ pageText page) = none := by
        intro x y hcut hy
        exact attributeValue_inside hname (hcut ▸ c.unnamed) (hcut ▸ c.apart) hy
      have hnext : ∀ x ∈ c.text.getLast?.or before, ¬ isName x := by
        cases hlast : c.text.getLast? with
        | none => exact hb
        | some d => exact fun x hx => c.apart x (hlast ▸ hx)
      rw [Segment.text, occurrencesFrom_append hskip]
      exact ih hnext
    | attr a =>
      have hquote : ∀ x ∈ a.text.getLast?, ¬ isName x := by
        rw [a.getLast?_text]
        simpa using a.quote_not_isName
      rw [Segment.text, Segment.value?]
      by_cases hsame : a.name = name
      · have hne : a.text ≠ [] := by
          obtain ⟨c, hc⟩ := a.text_eq
          simp [hc]
        have hfound := hsame ▸ a.attributeValue_text hb (pageText page)
        rw [if_pos hsame, occurrencesFrom_found hne hfound, ih hquote]
      · have hskip : ∀ x y, a.text = x ++ y → y ≠ [] →
            attributeValue name (x.getLast?.or before) (y ++ pageText page) = none :=
          fun x y hcut hy => a.attributeValue_none hname hsame hcut hy (pageText page)
        have hlast : a.text.getLast?.or before = a.text.getLast? := by
          rw [a.getLast?_text]
          rfl
        rw [if_neg hsame, occurrencesFrom_append hskip, hlast, ih hquote]

lemma attributeWords_page {name : Text} (hname : name ∈ attributeNames) (page : List Segment) :
    attributeWords name (pageText page) = pageWords name page := by
  rw [attributeWords, occurrences, occurrencesFrom_page hname page (by simp), pageWords]

/-- The words of the attributes come first among the candidates. -/
lemma isPrefix_candidates (t : Text) :
    (classAttribute t ++ classNameAttribute t).eraseDups <+: candidates t := by
  have hall : (heuristics.flatMap fun h => h t) = (classAttribute t ++ classNameAttribute t) ++
      [templateFragments, ternaryLiterals, arbitraryValues, catchAll].flatMap fun h => h t := by
    simp [heuristics]
  rw [candidates_eq, hall]
  exact isPrefix_eraseDups _ _

/-- **Attributes are read exactly.** Of a page made of text and attributes, the words of the values
are found, in their order, and they come first among the candidates. -/
theorem attributes_of_page (page : List Segment) :
    classAttribute (pageText page) = pageWords markupName page ∧
    classNameAttribute (pageText page) = pageWords componentName page ∧
    ∀ (extractors : Registry Extractor) (path : Files.Path), extractors.forPath? path = none →
      ∃ cs, extractClasses extractors path (pageText page) = .ok cs ∧
        (pageWords markupName page ++ pageWords componentName page).eraseDups <+: cs := by
  have hmarkup : classAttribute (pageText page) = pageWords markupName page :=
    attributeWords_page (by decide) page
  have hcomponent : classNameAttribute (pageText page) = pageWords componentName page :=
    attributeWords_page (by decide) page
  refine ⟨hmarkup, hcomponent, fun extractors path hpath => ?_⟩
  have hfirst := isPrefix_candidates (pageText page)
  rw [hmarkup, hcomponent] at hfirst
  exact ⟨candidates (pageText page), by rw [extractClasses, hpath], hfirst⟩

/-- Both attributes, with the other quote and a line end in a value, and two with nothing between
them. -/
theorem attributes_of_page_three :
    let component : Attribute := ⟨componentName, [' '], ['\n'], '\'', "a \"b\"\n a".toList,
      by decide, by decide, by decide, .inr rfl, by decide, by decide⟩
    let markup (value : Text) (hq : '"' ∉ value) (hv : ¬ markupName <:+: value) : Attribute :=
      ⟨markupName, [], [' '], '"', value, by decide, by decide, by decide, .inl rfl, hq, hv⟩
    let page : List Segment :=
      [.chunk ⟨"<p ".toList, by decide, by simp; decide⟩, .attr component,
        .attr (markup "it's a".toList (by decide) (by decide)),
        .attr (markup "c".toList (by decide) (by decide))]
    (pageText page).string = "<p className =\n'a \"b\"\n a'class= \"it's a\"class= \"c\"" ∧
      classAttribute (pageText page) = ["it's", "a", "c"].map String.toList ∧
      classNameAttribute (pageText page) = ["a", "\"b\"", "a"].map String.toList ∧
      ∃ cs, extractClasses .empty (.ofText []) (pageText page) = .ok cs ∧
        ["it's", "a", "c", "\"b\""].map String.toList <+: cs := by
  intro component markup page
  have hmarkup : pageWords markupName page = ["it's", "a", "c"].map String.toList := by
    decide +kernel
  have hcomponent : pageWords componentName page = ["a", "\"b\"", "a"].map String.toList := by
    decide +kernel
  obtain ⟨hclass, hclassName, hextract⟩ := attributes_of_page page
  obtain ⟨cs, hcs, hfirst⟩ := hextract .empty (.ofText []) rfl
  rw [hmarkup, hcomponent] at hfirst
  exact ⟨by decide +kernel, hclass.trans hmarkup, hclassName.trans hcomponent, cs, hcs, hfirst⟩

end ClassPurge.Extract
