import ClassPurge.Config.Basic
import ClassPurge.Proofs.Files.WrittenPaths

/-!
Patterns for what lies inside folders of some name. The stars on both sides stand for any text,
slashes included, so such a pattern looks for the name between two slashes; the slash that is put
before a path is the one that its first component lacks.
-/

namespace ClassPurge.Files

open Text

/-- The pattern for what lies in a folder of this name, wherever that is. -/
def insideAny (x : Text) : Text := ['*', '*', '/'] ++ x ++ ['/', '*', '*']

variable {x t : Text}

lemma wilds_char {c : Char} (hc : ¬ isMagic c) (r : Text) :
    wilds (c :: r) = .char c :: wilds r := by
  simp only [isMagic, Bool.or_eq_true, beq_iff_eq, not_or] at hc
  rw [wilds, if_neg hc.1.1, if_neg hc.1.2, if_neg hc.2]

lemma wilds_star (r : Text) : wilds ('*' :: r) = .anyText :: wilds r := by
  rw [wilds, if_pos rfl]

lemma wilds_append {a : Text} (ha : Avoids isMagic a) (b : Text) :
    wilds (a ++ b) = a.map .char ++ wilds b := by
  induction a with
  | nil => rfl
  | cons c a ih =>
    obtain ⟨hc, ha⟩ := List.forall_mem_cons.mp ha
    rw [List.cons_append, wilds_char hc, ih ha]
    rfl

lemma wildMatch_map_char (a : Text) (ps : List Wild) (t : Text) :
    wildMatch (a.map .char ++ ps) t = true ↔ ∃ b, t = a ++ b ∧ wildMatch ps b = true := by
  induction a generalizing t with
  | nil => simp
  | cons c a ih =>
    rw [List.map_cons, List.cons_append]
    cases t with
    | nil => simp [wildMatch]
    | cons d t =>
      rw [wildMatch_char, Bool.and_eq_true, beq_iff_eq, ih]
      constructor
      · rintro ⟨rfl, b, rfl, hb⟩
        exact ⟨b, rfl, hb⟩
      · rintro ⟨b, he, hb⟩
        obtain ⟨rfl, rfl⟩ := List.cons.inj he
        exact ⟨rfl, b, rfl, hb⟩

/-- Stars in a row are worth one. -/
lemma wildMatch_stars (ps : List Wild) (t : Text) :
    wildMatch (.anyText :: .anyText :: ps) t = wildMatch (.anyText :: ps) t := by
  rw [Bool.eq_iff_iff]
  simp only [wildMatch_anyText, anySuffix_iff]
  constructor
  · rintro ⟨a, _, rfl, b, d, rfl, h⟩
    exact ⟨a ++ b, d, (List.append_assoc a b d).symm, h⟩
  · rintro ⟨a, b, rfl, h⟩
    exact ⟨a, b, rfl, [], b, rfl, h⟩

/-- The pattern stands for every text with the name between two slashes in it. -/
lemma matchesWild_insideAny (hx : Avoids isMagic x) (t : Text) :
    matchesWild (insideAny x) t = true ↔ '/' :: (x ++ ['/']) <:+: t := by
  have hslashes : Avoids isMagic ('/' :: (x ++ ['/'])) := by
    have hslash : Avoids isMagic ['/'] := List.forall_mem_singleton.mpr (by decide)
    exact List.forall_mem_cons.mpr ⟨by decide, List.forall_mem_append.mpr ⟨hx, hslash⟩⟩
  have hpattern : insideAny x = '*' :: '*' :: ('/' :: (x ++ ['/']) ++ ['*', '*']) := by
    simp [insideAny]
  have hends : wilds ['*', '*'] = [.anyText, .anyText] := by
    rw [wilds_star, wilds_star, wilds]
  rw [matchesWild, hpattern, wilds_star, wilds_star, wildMatch_stars, wilds_append hslashes, hends,
    wildMatch_anyText, anySuffix_iff]
  constructor
  · rintro ⟨a, b, rfl, h⟩
    obtain ⟨r, rfl, -⟩ := (wildMatch_map_char _ _ _).mp h
    exact ⟨a, r, by simp⟩
  · rintro ⟨a, r, rfl⟩
    refine ⟨a, '/' :: (x ++ ['/']) ++ r, by simp, (wildMatch_map_char _ _ _).mpr ⟨r, rfl, ?_⟩⟩
    rw [wildMatch_stars, wildMatch_rest]

/-- A pattern stands for a path, with or without a slash before it, if the name is a component of
the path and not the last one. -/
lemma ignores_insideAny (hx : Avoids isMagic x) (hslash : '/' ∉ x) (path : Text) :
    ignores (insideAny x) path = true ↔ x ∈ (splitOn Path.isSlash path).dropLast := by
  have hbehind : path <:+: '/' :: path := (List.suffix_cons '/' path).isInfix
  calc ignores (insideAny x) path = true
      ↔ '/' :: (x ++ ['/']) <:+: path ∨ '/' :: (x ++ ['/']) <:+: '/' :: path := by
        rw [ignores, Bool.or_eq_true, matchesWild_insideAny hx, matchesWild_insideAny hx]
    _ ↔ '/' :: (x ++ ['/']) <:+: '/' :: path := or_iff_right_of_imp fun h => h.trans hbehind
    _ ↔ x ∈ (splitOn Path.isSlash path).dropLast := (mem_dropLast_splitOn hslash path).symm

/-- The pieces of a path that is written as it is read are its components, with nothing before the
slashes that it begins with. -/
lemma mem_dropLast_components (hx : x ≠ []) {path : Text} (hpath : (Path.ofText path).text = path) :
    x ∈ (splitOn Path.isSlash path).dropLast ↔ x ∈ (Path.ofText path).parts.dropLast := by
  have hparts : ∀ n ∈ (Path.ofText path).parts, Avoids Path.isSlash n :=
    fun n hn => avoids_of_mem_splitOn (List.mem_filter.mp hn).1
  have hroot : (Path.ofText path).root = [] ∨ (Path.ofText path).root = ['/'] ∨
      (Path.ofText path).root = ['/', '/'] := by
    rw [Path.ofText]
    dsimp only
    split_ifs <;> simp
  generalize Path.ofText path = p at hpath hparts hroot
  obtain ⟨root, parts⟩ := p
  have hjoin : (splitOn Path.isSlash (join ['/'] parts)).dropLast = parts.dropLast := by
    by_cases hnil : parts = []
    · rw [hnil]
      rfl
    · rw [splitOn_join (p := Path.isSlash) rfl hnil hparts]
  have hslash (r : Text) : (splitOn Path.isSlash ('/' :: r)).dropLast =
      [] :: (splitOn Path.isSlash r).dropLast :=
    List.dropLast_cons_of_ne_nil (splitOn_ne_nil _ r)
  rw [← hpath]
  rcases hroot with rfl | rfl | rfl
  · by_cases hnil : parts = []
    · rw [hnil]
      rfl
    · have htext : (⟨[], parts⟩ : Path).text = join ['/'] parts := by simp [Path.text, hnil]
      rw [htext, hjoin]
  · have htext : (⟨['/'], parts⟩ : Path).text = '/' :: join ['/'] parts := rfl
    rw [htext, hslash, hjoin, List.mem_cons, or_iff_right hx]
  · have htext : (⟨['/', '/'], parts⟩ : Path).text = '/' :: '/' :: join ['/'] parts := rfl
    rw [htext, hslash, hslash, hjoin, List.mem_cons, or_iff_right hx, List.mem_cons,
      or_iff_right hx]

/-- A name that means itself in a pattern. -/
structure IsLiteral (x : Text) : Prop where
  notEmpty : x ≠ []
  noSlash : '/' ∉ x
  noMagic : Avoids isMagic x

instance (x : Text) : Decidable (IsLiteral x) :=
  decidable_of_iff (x ≠ [] ∧ '/' ∉ x ∧ Avoids isMagic x)
    ⟨fun ⟨hx, hs, hm⟩ => ⟨hx, hs, hm⟩, fun ⟨hx, hs, hm⟩ => ⟨hx, hs, hm⟩⟩

lemma isIgnored_map_insideAny {xs : List Text} (hxs : ∀ x ∈ xs, IsLiteral x) {path : Text}
    (hpath : (Path.ofText path).text = path) :
    isIgnored (xs.map insideAny) path = true ↔
      ∃ x ∈ xs, x ∈ (Path.ofText path).parts.dropLast := by
  rw [isIgnored, List.any_map, List.any_eq_true]
  refine exists_congr fun x => and_congr_right fun hmem => ?_
  have hx : IsLiteral x := hxs x hmem
  rw [Function.comp_apply, ignores_insideAny hx.noMagic hx.noSlash,
    mem_dropLast_components hx.notEmpty hpath]

/-- **What is ignored lies in a folder of one of the names**, at whatever depth. What has the name
itself is not ignored, nor is a folder whose name only has it in it; so it is with the names that
are ignored by default. -/
theorem isIgnored_insideAny_iff {path : Text} (hpath : (Path.ofText path).text = path) :
    (∀ xs : List Text, (∀ x ∈ xs, IsLiteral x) →
      (isIgnored (xs.map insideAny) path = true ↔
        ∃ x ∈ xs, x ∈ (Path.ofText path).parts.dropLast)) ∧
    (isIgnored Config.defaultIgnore path = true ↔
      ∃ x ∈ ["node_modules", "dist", ".git"], x.toList ∈ (Path.ofText path).parts.dropLast) := by
  refine ⟨fun xs hxs => isIgnored_map_insideAny hxs hpath, ?_⟩
  have hdefault : Config.defaultIgnore =
      (["node_modules", "dist", ".git"].map String.toList).map insideAny := by decide
  rw [hdefault, isIgnored_map_insideAny (by decide) hpath]
  simp only [List.mem_map, exists_exists_and_eq_and]

/-- Names that have an ignored name in them, the ignored name in the last place, and a name that is
no proper set of characters. -/
theorem isIgnored_insideAny_names :
    let path := "my-dist/.git\n/x]/dist".toList
    (Path.ofText path).text = path ∧ isIgnored Config.defaultIgnore path = false ∧
      isIgnored (["my".toList, "x]".toList].map insideAny) path = true ∧
      isIgnored Config.defaultIgnore "/dist/js/a.js".toList = true := by
  intro path
  have hpath : (Path.ofText path).text = path := by decide
  obtain ⟨hnames, hdefault⟩ := isIgnored_insideAny_iff hpath
  have habsolute := @isIgnored_insideAny_iff "/dist/js/a.js".toList (by decide)
  refine ⟨hpath, ?_, (hnames _ (by decide)).mpr (by decide), habsolute.2.mpr (by decide)⟩
  rw [Bool.eq_false_iff, Ne, hdefault]
  decide

end ClassPurge.Files
