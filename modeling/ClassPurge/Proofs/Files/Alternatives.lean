import ClassPurge.Proofs.Files.Braces
import Mathlib.Computability.Language

/-!
What braces in a pattern mean. A pattern is a row of plain texts and groups, and the alternatives of
a group are patterns again; it stands for the texts that come of taking one alternative of each
group. Expansion knows nothing of this: it rewrites the text, one innermost group at a time. Both
come to the same texts at any depth, and where no group is nested to the same list.
-/

namespace ClassPurge.Files

/-- The characters that shape a pattern: braces, and within a group commas as well. -/
def isDelimiter (inside : Bool) (c : Char) : Bool := isBrace c || (inside && c == ',')

mutual

/-- A pattern, by itself or as an alternative inside a group. -/
inductive Braced : Bool → Type
  | done {inside : Bool} : Braced inside
  | plain {inside : Bool} (t : Text) (ht : Avoids (isDelimiter inside) t) (rest : Braced inside) :
    Braced inside
  | group {inside : Bool} (choices : Choices) (rest : Braced inside) : Braced inside

/-- The alternatives of a group, of which there is at least one. -/
inductive Choices : Type
  | last (p : Braced true)
  | more (p : Braced true) (others : Choices)

end

/-! ### Texts and meanings -/

mutual

def Braced.text {inside : Bool} : Braced inside → Text
  | .done => []
  | .plain t _ p => t ++ p.text
  | .group cs p => '{' :: (cs.text ++ '}' :: p.text)

/-- The alternatives with commas between them. -/
def Choices.text : Choices → Text
  | .last p => p.text
  | .more p cs => p.text ++ ',' :: cs.text

end

mutual

/-- The texts that a pattern stands for. -/
def Braced.language {inside : Bool} : Braced inside → Language Char
  | .done => 1
  | .plain t _ p => ({t} : Language Char) * p.language
  | .group cs p => cs.language * p.language

def Choices.language : Choices → Language Char
  | .last p => p.language
  | .more p cs => p.language + cs.language

end

mutual

/-- What a pattern comes to when its groups are replaced from the left. -/
def Braced.spread {inside : Bool} : Braced inside → List Text
  | .done => [[]]
  | .plain t _ p => p.spread.map (t ++ ·)
  | .group cs p => cs.spread.flatten.flatMap fun w => p.spread.map (w ++ ·)

/-- What the alternatives of a group come to side by side. -/
def Choices.spread : Choices → List (List Text)
  | .last p => p.spread.map ([·])
  | .more p cs => p.spread.flatMap fun w => cs.spread.map (w :: ·)

end

/-! ### Expansion -/

lemma avoids_of_isDelimiter {inside : Bool} {w : Text} (h : Avoids (isDelimiter inside) w) :
    Avoids isBrace w :=
  fun c hc hbrace => h c hc (by rw [isDelimiter, hbrace]; rfl)

lemma avoids_delimiter_of_inside {inside : Bool} {w : Text} (h : Avoids (isDelimiter true) w) :
    Avoids (isDelimiter inside) w := by
  refine fun c hc hdel => h c hc ?_
  rw [isDelimiter, Bool.or_eq_true] at hdel ⊢
  exact hdel.imp_right fun hcomma => (Bool.and_eq_true_iff.mp hcomma).2

lemma avoids_comma {w : Text} (h : Avoids (isDelimiter true) w) : Avoids (· == ',') w :=
  fun c hc hcomma => h c hc (by rw [isDelimiter, Bool.or_eq_true]; exact .inr hcomma)

mutual

lemma Braced.avoids_of_mem_spread {inside : Bool} {w : Text} :
    (p : Braced inside) → w ∈ p.spread → Avoids (isDelimiter inside) w
  | .done, hw => by
    obtain rfl : w = [] := by simpa [Braced.spread] using hw
    simp [Avoids]
  | .plain t ht p, hw => by
    obtain ⟨v, hv, rfl⟩ := List.mem_map.mp hw
    exact List.forall_mem_append.mpr ⟨ht, p.avoids_of_mem_spread hv⟩
  | .group cs p, hw => by
    obtain ⟨u, hu, hw⟩ := List.mem_flatMap.mp hw
    obtain ⟨v, hv, rfl⟩ := List.mem_map.mp hw
    obtain ⟨us, hus, hu⟩ := List.mem_flatten.mp hu
    exact List.forall_mem_append.mpr
      ⟨avoids_delimiter_of_inside (cs.avoids_of_mem_spread hus u hu), p.avoids_of_mem_spread hv⟩

lemma Choices.avoids_of_mem_spread {ws : List Text} :
    (cs : Choices) → ws ∈ cs.spread → ∀ w ∈ ws, Avoids (isDelimiter true) w
  | .last p, hws => by
    obtain ⟨v, hv, rfl⟩ := List.mem_map.mp hws
    simpa using p.avoids_of_mem_spread hv
  | .more p cs, hws => by
    obtain ⟨v, hv, hws⟩ := List.mem_flatMap.mp hws
    obtain ⟨vs, hvs, rfl⟩ := List.mem_map.mp hws
    exact List.forall_mem_cons.mpr
      ⟨p.avoids_of_mem_spread hv, cs.avoids_of_mem_spread hvs⟩

end

lemma Choices.ne_nil_of_mem_spread {ws : List Text} (cs : Choices) (h : ws ∈ cs.spread) :
    ws ≠ [] := by
  cases cs with
  | last p =>
    obtain ⟨v, -, rfl⟩ := List.mem_map.mp h
    simp
  | more p cs =>
    obtain ⟨v, -, h⟩ := List.mem_flatMap.mp h
    obtain ⟨vs, -, rfl⟩ := List.mem_map.mp h
    simp

/-- A group whose inside is plain alternatives is replaced by them. -/
lemma expandBraces_group {h b : Text} {ws : List Text} (hh : '}' ∉ h) (hne : ws ≠ [])
    (hws : ∀ w ∈ ws, Avoids (isDelimiter true) w) :
    expandBraces (h ++ '{' :: (Text.join [','] ws ++ '}' :: b)) =
      ws.flatMap fun w => expandBraces (h ++ w ++ b) := by
  have hinside : Avoids isBrace (Text.join [','] ws) :=
    Text.avoids_join (by simp [Avoids, isBrace]) fun w hw => avoids_of_isDelimiter (hws w hw)
  have hsplit : alternatives (Text.join [','] ws) = ws :=
    Text.splitOn_join rfl hne fun w hw => avoids_comma (hws w hw)
  rw [expandBraces_of_some (firstGroup?_append hh hinside), hsplit]

mutual

/-- Behind a text where no group ends, the groups of a pattern are replaced first. -/
lemma Braced.expandBraces_append {inside : Bool} {h : Text} (hh : '}' ∉ h) (b : Text) :
    (p : Braced inside) → expandBraces (h ++ (p.text ++ b)) =
      p.spread.flatMap fun w => expandBraces (h ++ (w ++ b))
  | .done => by simp [Braced.text, Braced.spread]
  | .plain t ht p => by
    have ht' : '}' ∉ t := (not_mem_of_avoids (avoids_of_isDelimiter ht)).2
    have hnext := p.expandBraces_append (h := h ++ t) (by simp [hh, ht']) b
    simpa only [Braced.text, Braced.spread, List.append_assoc, List.flatMap_map] using hnext
  | .group cs p => by
    have hinner := cs.expandBraces_append (h := h ++ ['{']) (by simp [hh]) ('}' :: (p.text ++ b))
    have hopen : h ++ ((Braced.group cs p).text ++ b) =
        h ++ ['{'] ++ (cs.text ++ '}' :: (p.text ++ b)) := by simp [Braced.text]
    rw [hopen, hinner, Braced.spread, List.flatMap_assoc, List.flatten_eq_flatMap, List.flatMap_assoc]
    refine List.flatMap_congr fun ws hws => ?_
    rw [List.append_assoc, List.singleton_append,
      expandBraces_group hh (cs.ne_nil_of_mem_spread hws) (cs.avoids_of_mem_spread hws)]
    refine List.flatMap_congr fun w hw => ?_
    have hw' : '}' ∉ w := (not_mem_of_avoids
      (avoids_of_isDelimiter (cs.avoids_of_mem_spread hws w hw))).2
    rw [p.expandBraces_append (h := h ++ w) (by simp [hh, hw']) b, List.flatMap_map]
    simp only [List.append_assoc]

lemma Choices.expandBraces_append {h : Text} (hh : '}' ∉ h) (b : Text) :
    (cs : Choices) → expandBraces (h ++ (cs.text ++ b)) =
      cs.spread.flatMap fun ws => expandBraces (h ++ (Text.join [','] ws ++ b))
  | .last p => by
    rw [Choices.text, p.expandBraces_append hh b, Choices.spread, List.flatMap_map]
    rfl
  | .more p cs => by
    have hfirst := p.expandBraces_append hh (',' :: (cs.text ++ b))
    rw [Choices.text, List.append_assoc, List.cons_append, hfirst, Choices.spread,
      List.flatMap_assoc]
    refine List.flatMap_congr fun w hw => ?_
    have hw' : '}' ∉ w :=
      (not_mem_of_avoids (avoids_of_isDelimiter (p.avoids_of_mem_spread hw))).2
    have hrest := cs.expandBraces_append (h := h ++ w ++ [',']) (by simp [hh, hw']) b
    have hcomma : h ++ (w ++ ',' :: (cs.text ++ b)) = h ++ w ++ [','] ++ (cs.text ++ b) := by simp
    rw [hcomma, hrest, List.flatMap_map]
    refine List.flatMap_congr fun ws hws => ?_
    rw [Text.join_cons_of_ne_nil _ _ (cs.ne_nil_of_mem_spread hws)]
    simp

end

lemma expandBraces_text {inside : Bool} (p : Braced inside) : expandBraces p.text = p.spread := by
  have hall := p.expandBraces_append (h := []) List.not_mem_nil []
  simp only [List.nil_append, List.append_nil] at hall
  have hdone : ∀ w ∈ p.spread, expandBraces w = [w] := fun w hw =>
    expandBraces_of_avoids (avoids_of_isDelimiter (p.avoids_of_mem_spread hw))
  rw [hall, List.flatMap_congr hdone, List.flatMap_singleton']

/-! ### Meanings -/

mutual

lemma Braced.spread_ne_nil {inside : Bool} : (p : Braced inside) → p.spread ≠ []
  | .done => by simp [Braced.spread]
  | .plain t _ p => by simpa [Braced.spread] using p.spread_ne_nil
  | .group cs p => by
    obtain ⟨ws, hws⟩ := List.exists_mem_of_ne_nil _ cs.spread_ne_nil
    obtain ⟨w, hw⟩ := List.exists_mem_of_ne_nil _ (cs.ne_nil_of_mem_spread hws)
    obtain ⟨v, hv⟩ := List.exists_mem_of_ne_nil _ p.spread_ne_nil
    refine List.ne_nil_of_mem (List.mem_flatMap.mpr ⟨w, ?_, List.mem_map_of_mem hv⟩)
    exact List.mem_flatten.mpr ⟨ws, hws, hw⟩

lemma Choices.spread_ne_nil : (cs : Choices) → cs.spread ≠ []
  | .last p => by simpa [Choices.spread] using p.spread_ne_nil
  | .more p cs => by
    obtain ⟨v, hv⟩ := List.exists_mem_of_ne_nil _ p.spread_ne_nil
    obtain ⟨ws, hws⟩ := List.exists_mem_of_ne_nil _ cs.spread_ne_nil
    exact List.ne_nil_of_mem (List.mem_flatMap.mpr ⟨v, hv, List.mem_map_of_mem hws⟩)

end

mutual

/-- **A pattern comes to the texts that it stands for.** -/
lemma Braced.mem_language {inside : Bool} {w : Text} :
    (p : Braced inside) → (w ∈ p.language ↔ w ∈ p.spread)
  | .done => by simp [Braced.language, Braced.spread, Language.mem_one]
  | .plain t _ p => by
    rw [Braced.language, Braced.spread, Language.mem_mul, List.mem_map]
    constructor
    · rintro ⟨u, rfl, v, hv, rfl⟩
      exact ⟨v, p.mem_language.mp hv, rfl⟩
    · rintro ⟨v, hv, rfl⟩
      exact ⟨t, rfl, v, p.mem_language.mpr hv, rfl⟩
  | .group cs p => by
    rw [Braced.language, Braced.spread, Language.mem_mul, List.mem_flatMap]
    refine exists_congr fun u => and_congr ?_ ?_
    · rw [cs.mem_language, List.mem_flatten]
    · rw [List.mem_map]
      exact exists_congr fun v => and_congr p.mem_language Iff.rfl

lemma Choices.mem_language {w : Text} :
    (cs : Choices) → (w ∈ cs.language ↔ ∃ ws ∈ cs.spread, w ∈ ws)
  | .last p => by
    rw [Choices.language, Choices.spread, p.mem_language]
    simp
  | .more p cs => by
    rw [Choices.language, Choices.spread, Language.mem_add, p.mem_language, cs.mem_language]
    constructor
    · rintro (hw | ⟨ws, hws, hw⟩)
      · obtain ⟨ws, hws⟩ := List.exists_mem_of_ne_nil _ cs.spread_ne_nil
        exact ⟨w :: ws, List.mem_flatMap.mpr ⟨w, hw, List.mem_map_of_mem hws⟩,
          List.mem_cons_self⟩
      · obtain ⟨v, hv⟩ := List.exists_mem_of_ne_nil _ p.spread_ne_nil
        exact ⟨v :: ws, List.mem_flatMap.mpr ⟨v, hv, List.mem_map_of_mem hws⟩,
          List.mem_cons_of_mem v hw⟩
    · rintro ⟨ws, hws, hw⟩
      obtain ⟨v, hv, hws⟩ := List.mem_flatMap.mp hws
      obtain ⟨us, hus, rfl⟩ := List.mem_map.mp hws
      rcases List.mem_cons.mp hw with rfl | hw
      · exact .inl hv
      · exact .inr ⟨us, hus, hw⟩

end

/-! ### Patterns without nesting -/

/-- All ways of taking one element of each list, those with an earlier first one first. -/
def tuples {α : Type} : List (List α) → List (List α)
  | [] => [[]]
  | ws :: wss => ws.flatMap fun w => (tuples wss).map (w :: ·)

namespace Braced

def hasGroup {inside : Bool} : Braced inside → Bool
  | done => false
  | plain _ _ p => p.hasGroup
  | group .. => true

end Braced

namespace Choices

def toList : Choices → List (Braced true)
  | last p => [p]
  | more p cs => p :: cs.toList

end Choices

namespace Braced

/-- No alternative of a group has a group in it. -/
def IsFlat {inside : Bool} : Braced inside → Prop
  | done => True
  | plain _ _ p => p.IsFlat
  | group cs p => (∀ q ∈ cs.toList, q.hasGroup = false) ∧ p.IsFlat

/-- The texts that each part may stand for, one for a plain text. -/
def options {inside : Bool} : Braced inside → List (List Text)
  | done => []
  | plain t _ p => [t] :: p.options
  | group cs p => cs.toList.map text :: p.options

/-- How many alternatives each group has. -/
def sizes {inside : Bool} : Braced inside → List Nat
  | done => []
  | plain _ _ p => p.sizes
  | group cs p => cs.toList.length :: p.sizes

lemma spread_of_hasGroup {inside : Bool} :
    (p : Braced inside) → p.hasGroup = false → p.spread = [p.text]
  | done, _ => rfl
  | plain t _ p, h => by
    rw [spread, p.spread_of_hasGroup h, text]
    rfl
  | group .., h => by cases h

end Braced

lemma Choices.spread_of_flat : (cs : Choices) → (∀ q ∈ cs.toList, q.hasGroup = false) →
    cs.spread = [cs.toList.map Braced.text]
  | .last p, h => by
    rw [Choices.spread, p.spread_of_hasGroup (h p List.mem_cons_self)]
    rfl
  | .more p cs, h => by
    obtain ⟨hp, hcs⟩ := List.forall_mem_cons.mp h
    rw [Choices.spread, p.spread_of_hasGroup hp, cs.spread_of_flat hcs]
    rfl

lemma Braced.spread_of_flat {inside : Bool} :
    (p : Braced inside) → p.IsFlat → p.spread = (tuples p.options).map List.flatten
  | done, _ => rfl
  | plain t _ p, h => by
    simp [spread, options, tuples, p.spread_of_flat h]
  | group cs p, ⟨hcs, hp⟩ => by
    simp [spread, options, tuples, cs.spread_of_flat hcs, p.spread_of_flat hp, List.map_flatMap,
      Function.comp_def]

lemma length_tuples {α : Type} (wss : List (List α)) :
    (tuples wss).length = (wss.map List.length).prod := by
  induction wss with
  | nil => rfl
  | cons ws wss ih => simp [tuples, List.length_flatMap, ih]

lemma Braced.prod_length_options {inside : Bool} (p : Braced inside) :
    (p.options.map List.length).prod = p.sizes.prod := by
  match p with
  | done => rfl
  | plain t _ p => simp [options, sizes, p.prod_length_options]
  | group cs p => simp [options, sizes, p.prod_length_options]

/-- **Braces have their meaning.** A pattern is expanded to the texts that it stands for, however its
groups are nested; without nesting, to all choices of an alternative of each group, the earlier ones
first. Expansion does to the first group of any text what is said of it, ends, and leaves no group. -/
theorem expandBraces_meaning :
    (∀ (p : Braced false) (w : Text), w ∈ expandBraces p.text ↔ w ∈ p.language) ∧
      (∀ p : Braced false, p.IsFlat →
        expandBraces p.text = (tuples p.options).map List.flatten ∧
          (expandBraces p.text).length = p.sizes.prod) ∧
      WellFounded Asks ∧
      ∀ t : Text,
        (expandBraces t =
          match firstGroup? t with
          | none => [t]
          | some (h, a, b) => (alternatives a).flatMap fun w => expandBraces (h ++ w ++ b)) ∧
        ∀ u ∈ expandBraces t, ¬ HasGroup u := by
  refine ⟨fun p w => ?_, fun p hp => ?_, wellFounded_asks, fun t => ⟨?_, fun u hu => ?_⟩⟩
  · rw [expandBraces_text, p.mem_language]
  · rw [expandBraces_text, p.spread_of_flat hp, List.length_map, length_tuples,
      p.prod_length_options]
    exact ⟨rfl, rfl⟩
  · cases hg : firstGroup? t with
    | none => exact expandBraces_of_none hg
    | some g =>
      obtain ⟨h, a, b⟩ := g
      exact expandBraces_of_some hg
  · exact not_hasGroup_of_mem hu

/-- A name out of two with an ending out of two, and an alternative with a group of its own. -/
theorem expandBraces_meaning_two_groups :
    let name (c : Char) (h : Avoids (isDelimiter true) [c]) : Braced true := .plain [c] h .done
    let a := name 'a' (by decide)
    let b := name 'b' (by decide)
    let flat : Braced false := .group (.more a (.last b))
      (.plain ['/', '*', '.'] (by decide) (.group (.more b (.last a)) .done))
    let nested : Braced false := .group (.more a (.last (.group (.more b (.last .done)) a))) .done
    flat.text = "\x7ba,b\x7d/*.\x7bb,a\x7d".toList ∧ flat.IsFlat ∧
      expandBraces flat.text = ["a/*.b", "a/*.a", "b/*.b", "b/*.a"].map String.toList ∧
      (expandBraces flat.text).length = 2 * 2 ∧
      nested.text = "\x7ba,\x7bb,\x7da\x7d".toList ∧ ['b', 'a'] ∈ nested.language := by
  intro name a b flat nested
  obtain ⟨hmem, hflat, -, -⟩ := expandBraces_meaning
  have hf : flat.IsFlat := ⟨by decide, by decide, trivial⟩
  obtain ⟨hlist, hlength⟩ := hflat flat hf
  refine ⟨rfl, hf, hlist.trans rfl, hlength.trans rfl, rfl, (hmem nested _).mp ?_⟩
  decide +kernel

/-- The group inside is replaced first, so the alternative beside it comes twice. -/
example : expandBraces "\x7ba,b\x7bc,d\x7d\x7d".toList =
    ["a", "bc", "a", "bd"].map String.toList := by
  decide +kernel

end ClassPurge.Files
