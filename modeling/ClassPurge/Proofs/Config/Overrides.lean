import ClassPurge.Proofs.Config.Fields
import ClassPurge.Settings
import Mathlib.Data.List.Pairwise

/-!
Overrides put over the section of a settings file. A field that is overridden has the value of the
override, and every other field the value that it has without overrides. One override comes to
nothing: that of a field by its long name while the section has the field by its short name, which
counts first wherever it stands.
-/

namespace ClassPurge

open Extract (Catalogue)
open Config (Field ofFields valueOf?)

namespace Config

/-- The key is a name of the field. -/
def Field.Named (f : Field) (k : Document) : Prop := ∃ n ∈ f.names, k = .ofString n

lemma Field.named_ofString {f : Field} {n : String} : f.Named (.ofString n) ↔ n ∈ f.names := by
  refine ⟨?_, fun h => ⟨n, h, rfl⟩⟩
  rintro ⟨m, hm, h⟩
  rwa [String.toList_inj.mp (Document.text.inj h)]

/-- The configuration that has in each field the value that `g` has there. -/
def pick (g : Field → Config) : Config :=
  ⟨(g .enabled).enabled, (g .content).content, (g .safelist).safelist, (g .blocklist).blocklist,
    (g .keepKeyframes).keepKeyframes, (g .keepFontFace).keepFontFace,
    (g .keepCustomProperties).keepCustomProperties, (g .extractors).extractors,
    (g .ignore).ignore⟩

lemma same_pick (g : Field → Config) (f : Field) : f.Same (g f) (pick g) := by
  cases f <;> rfl

lemma valueOf?_cons (fields : List (Document × Document)) (n : String) (ns : List String) :
    valueOf? fields (n :: ns) =
      ((Document.entry? fields n.toList).map (n, ·)).or (valueOf? fields ns) := by
  rw [valueOf?, List.findSome?_cons]
  cases Document.entry? fields n.toList <;> rfl

lemma valueOf?_congr {fields others : List (Document × Document)} {ns : List String}
    (h : ∀ n ∈ ns, Document.entry? fields n.toList = Document.entry? others n.toList) :
    valueOf? fields ns = valueOf? others ns := by
  induction ns with
  | nil => rfl
  | cons n ns ih =>
    obtain ⟨hn, hns⟩ := List.forall_mem_cons.mp h
    rw [valueOf?_cons, valueOf?_cons, hn, ih hns]

lemma exists_ofFields_eq_ok {catalogue : Catalogue} {fields : List (Document × Document)}
    (h : ∀ f : Field, ∃ c, f.Gives catalogue fields c) :
    ∃ c, ofFields catalogue fields = .ok c := by
  choose g hg using h
  exact ⟨pick g, ofFields_eq_ok_iff.mpr fun f => Field.gives_of_same (hg f) (same_pick g f)⟩

lemma Field.names_cases (f : Field) : (∃ n, f.names = [n]) ∨ ∃ m n, f.names = [m, n] := by
  cases f with
  | keepKeyframes | keepFontFace | keepCustomProperties => exact .inr ⟨_, _, rfl⟩
  | enabled | content | safelist | blocklist | extractors | ignore => exact .inl ⟨_, rfl⟩

lemma Field.nodup_names (f : Field) : f.names.Nodup := by
  cases f <;> decide

lemma Field.ofString_ne {f : Field} {m n : String} (h : f.names = [m, n]) :
    Document.ofString n ≠ .ofString m := by
  have hmn := f.nodup_names
  rw [h] at hmn
  intro heq
  obtain rfl : n = m := String.toList_inj.mp (Document.text.inj heq)
  simp at hmn

end Config

namespace Settings

/-- The section of the configuration has an entry of that name. -/
def Has (s : Settings) (n : String) : Prop :=
  ∃ es d, s.purgeSection = .map es ∧ Document.entry? es n.toList = some d

/-- Each override is nothing, or alone a valid section; it goes by a name of its field, and no
field is overridden twice. -/
structure Overriding (catalogue : Catalogue) (overrides : List (Document × Document)) : Prop where
  valid : ∀ e ∈ overrides, ∃ f : Field, f.Named e.1 ∧
    (e.2 ≠ .null → ∃ c, ofFields catalogue [e] = .ok c)
  once : overrides.Pairwise fun a b =>
    a.2 ≠ .null → b.2 ≠ .null → ∀ f : Field, f.Named a.1 → ¬ f.Named b.1

/-- The override of the field by the key `k`, its long name, stands back behind the short name in
the section. -/
def Hidden (s : Settings) (f : Field) (k : Document) : Prop :=
  ∃ m n, f.names = [m, n] ∧ k = .ofString n ∧ s.Has m

section

variable {s : Settings} {catalogue : Catalogue} {es overrides : List (Document × Document)}
  {e : Document × Document} {base c : Config} {f : Field} {n : String}

/-! ### Entries after overrides -/

lemma isText_iff {k : Document} {t : Text} : k.isText t = true ↔ k = .text t := by
  cases k with
  | text u =>
    rw [Document.isText, beq_iff_eq, Document.text.injEq]
    exact eq_comm
  | _ => simp [Document.isText]

lemma entry?_cons (e : Document × Document) (es : List (Document × Document)) (t : Text) :
    Document.entry? (e :: es) t = if e.1.isText t then some e.2 else Document.entry? es t := by
  cases h : e.1.isText t <;> simp [Document.entry?, h]

lemma isSome_entry? (es : List (Document × Document)) (k : Text) :
    (Document.entry? es k).isSome = es.any fun e => e.1.isText k := by
  rw [Document.entry?, Option.isSome_map, List.isSome_find?]

/-- A key stands once, so an entry is found by it or by another key. -/
lemma entry?_map (es : List (Document × Document)) (k t : Text) (d : Document) :
    Document.entry? (es.map fun e => if e.1.isText k then (e.1, d) else e) t =
      if t = k then (Document.entry? es k).map fun _ => d else Document.entry? es t := by
  induction es with
  | nil => simp [Document.entry?]
  | cons e es ih =>
    rw [List.map_cons, entry?_cons, ih, entry?_cons e es k, entry?_cons e es t]
    by_cases htk : t = k
    · subst htk
      cases hk : e.1.isText t <;> simp [hk]
    · cases hk : e.1.isText k with
      | false => simp [htk]
      | true =>
        have ht : ¬ e.1.isText t = true := by
          rw [isText_iff.mp hk, isText_iff, Document.text.injEq]
          exact fun h => htk h.symm
        simp [htk, ht]

lemma entry?_put (es : List (Document × Document)) (k t : Text) (d : Document) :
    Document.entry? (Document.put es k d) t = if t = k then some d else Document.entry? es t := by
  have hsome := isSome_entry? es k
  rw [Document.put]
  split
  · rename_i hany
    obtain ⟨v, hv⟩ := Option.isSome_iff_exists.mp (hsome.trans hany)
    rw [entry?_map, hv]
    rfl
  · rename_i hany
    have hnone : Document.entry? es k = none := by simpa [hany] using hsome
    have hlast : Document.entry? [(.text k, d)] t = if t = k then some d else none := by
      by_cases htk : t = k <;> simp [Document.entry?, Document.isText, htk]
    rw [Document.entry?, List.find?_append, Option.map_or, ← Document.entry?, ← Document.entry?,
      hlast]
    by_cases htk : t = k
    · rw [htk, hnone, if_pos rfl]
      rfl
    · rw [if_neg htk, if_neg htk, Option.or_none]

lemma override_cons (es : List (Document × Document)) (e : Document × Document)
    (overrides : List (Document × Document)) (he : e.2 ≠ .null) :
    override es (e :: overrides) = override (Document.put es e.1.keyName e.2) overrides := by
  obtain ⟨k, v⟩ := e
  cases v with
  | null => exact absurd rfl he
  | _ => rfl

lemma override_cons_null (es : List (Document × Document)) {e : Document × Document}
    (overrides : List (Document × Document)) (he : e.2 = .null) :
    override es (e :: overrides) = override es overrides := by
  obtain ⟨k, v⟩ := e
  obtain rfl : v = .null := he
  rfl

lemma entry?_override_of_free {t : Text}
    (h : ∀ e ∈ overrides, e.2 ≠ .null → e.1.keyName ≠ t) :
    Document.entry? (override es overrides) t = Document.entry? es t := by
  induction overrides generalizing es with
  | nil => rfl
  | cons e overrides ih =>
    obtain ⟨he, hrest⟩ := List.forall_mem_cons.mp h
    by_cases hnull : e.2 = .null
    · rw [override_cons_null es overrides hnull, ih hrest]
    · rw [override_cons es e overrides hnull, ih hrest, entry?_put, if_neg (he hnull).symm]

lemma entry?_override_of_mem {t : Text} (he : e ∈ overrides) (hnull : e.2 ≠ .null)
    (ht : e.1.keyName = t)
    (honce : overrides.Pairwise fun a b => a.2 ≠ .null → b.2 ≠ .null → a.1.keyName ≠ b.1.keyName) :
    Document.entry? (override es overrides) t = some e.2 := by
  induction overrides generalizing es with
  | nil => cases he
  | cons a overrides ih =>
    obtain ⟨ha, hrest⟩ := List.pairwise_cons.mp honce
    rcases List.mem_cons.mp he with rfl | he
    · have hfree : ∀ b ∈ overrides, b.2 ≠ .null → b.1.keyName ≠ t :=
        fun b hb hbn hbt => ha b hb hnull hbn (ht.trans hbt.symm)
      rw [override_cons es e overrides hnull, entry?_override_of_free hfree, entry?_put,
        if_pos ht.symm]
    · by_cases han : a.2 = .null
      · rw [override_cons_null es overrides han]
        exact ih he hrest
      · rw [override_cons es a overrides han]
        exact ih he hrest

/-! ### Fields after overrides -/

lemma eq_ofString_of_keyName (hf : f.Named e.1) (h : e.1.keyName = n.toList) :
    e.1 = .ofString n := by
  obtain ⟨m, -, hm⟩ := hf
  rw [hm] at h ⊢
  rw [String.toList_inj.mp (show m.toList = n.toList from h)]

namespace Overriding

variable (h : Overriding catalogue overrides)

include h

lemma unique {a b : Document × Document} (ha : a ∈ overrides) (hb : b ∈ overrides)
    (han : a.2 ≠ .null) (hbn : b.2 ≠ .null) (haf : f.Named a.1) (hbf : f.Named b.1) : a = b := by
  have hsymm : Std.Symm fun a b : Document × Document =>
      a.2 ≠ .null → b.2 ≠ .null → ∀ f : Field, f.Named a.1 → ¬ f.Named b.1 :=
    ⟨fun a b hab hb ha f hbf haf => hab ha hb f haf hbf⟩
  by_contra hne
  exact h.once.forall ha hb hne han hbn f haf hbf

lemma keyName_ne (hn : n ∈ f.names)
    (hfree : ∀ e ∈ overrides, e.2 ≠ .null → f.Named e.1 → e.1 ≠ .ofString n) :
    ∀ e ∈ overrides, e.2 ≠ .null → e.1.keyName ≠ n.toList := by
  intro e he hnull hkey
  obtain ⟨g, hg, -⟩ := h.valid e he
  have hen := eq_ofString_of_keyName hg hkey
  exact hfree e he hnull ⟨n, hn, hen⟩ hen

lemma entry?_other (hn : n ∈ f.names) (he : e ∈ overrides) (hnull : e.2 ≠ .null)
    (hf : f.Named e.1) (hne : e.1 ≠ .ofString n) :
    Document.entry? (override es overrides) n.toList = Document.entry? es n.toList :=
  entry?_override_of_free <| h.keyName_ne hn fun _ ha han haf =>
    h.unique ha he han hnull haf hf ▸ hne

lemma entry?_self (he : e ∈ overrides) (hnull : e.2 ≠ .null) (hn : e.1 = .ofString n) :
    Document.entry? (override es overrides) n.toList = some e.2 := by
  refine entry?_override_of_mem he hnull (by rw [hn]; rfl) ?_
  refine h.once.imp_of_mem fun ha hb hab han hbn hkey => ?_
  obtain ⟨f, hf, -⟩ := h.valid _ ha
  obtain ⟨g, hg, -⟩ := h.valid _ hb
  obtain ⟨m, hm, ham⟩ := hf
  have hbm := eq_ofString_of_keyName hg (hkey.symm.trans (by rw [ham]; rfl))
  exact hab han hbn f ⟨m, hm, ham⟩ ⟨m, hm, hbm⟩

/-- The first name of a field that is overridden, with the value of the override. -/
lemma valueOf?_self (he : e ∈ overrides) (hnull : e.2 ≠ .null) (hn : e.1 = .ofString n)
    (ns : List String) : valueOf? (override es overrides) (n :: ns) = some (n, e.2) := by
  rw [Config.valueOf?_cons, h.entry?_self he hnull hn]
  rfl

/-- A field with an override that nothing hides is what the override alone makes it. -/
lemma valueOf?_of_mem (hsec : s.purgeSection = .map es) (he : e ∈ overrides)
    (hnull : e.2 ≠ .null) (hf : f.Named e.1) (hhid : ¬ s.Hidden f e.1) :
    valueOf? (override es overrides) f.names = valueOf? [e] f.names := by
  obtain ⟨n, hn, hen⟩ := id hf
  have halone (ns : List String) : valueOf? [e] (n :: ns) = some (n, e.2) := by
    rw [Config.valueOf?_cons, entry?_cons, if_pos (isText_iff.mpr hen)]
    rfl
  rcases f.names_cases with ⟨m, hnames⟩ | ⟨m, k, hnames⟩
  · obtain rfl : n = m := by simpa [hnames] using hn
    rw [hnames, h.valueOf?_self he hnull hen, halone]
  · have hcases : n = m ∨ n = k := by simpa [hnames] using hn
    rcases hcases with rfl | rfl
    · rw [hnames, h.valueOf?_self he hnull hen, halone]
    · -- The override is by the long name, and the section has nothing by the short one.
      have hem : e.1 ≠ .ofString m := hen ▸ Field.ofString_ne hnames
      have hshort : Document.entry? (override es overrides) m.toList = none := by
        rw [h.entry?_other (by simp [hnames]) he hnull hf hem]
        refine Option.eq_none_iff_forall_ne_some.mpr fun d hd => hhid ?_
        exact ⟨m, n, hnames, hen, es, d, hsec, hd⟩
      have hbare : Document.entry? [e] m.toList = none := by
        rw [entry?_cons, if_neg (isText_iff.not.mpr hem)]
        rfl
      rw [hnames, Config.valueOf?_cons, hshort, h.valueOf?_self he hnull hen,
        Config.valueOf?_cons [e], hbare, halone]

/-- A field whose override is hidden, if it has one, is what it was. -/
lemma valueOf?_of_hidden (hsec : s.purgeSection = .map es)
    (hhid : ∀ e ∈ overrides, e.2 ≠ .null → f.Named e.1 → s.Hidden f e.1) :
    valueOf? (override es overrides) f.names = valueOf? es f.names := by
  by_cases hfree : ∀ e ∈ overrides, e.2 ≠ .null → ¬ f.Named e.1
  · exact Config.valueOf?_congr fun _ hn => entry?_override_of_free <| h.keyName_ne hn
      fun e he hnull hf => absurd hf (hfree e he hnull)
  · push Not at hfree
    obtain ⟨e, he, hnull, hf⟩ := hfree
    obtain ⟨m, n, hnames, hen, es', d, hsec', hm⟩ := hhid e he hnull hf
    obtain rfl : es = es' := Document.map.inj (hsec.symm.trans hsec')
    have hem : e.1 ≠ .ofString m := hen ▸ Field.ofString_ne hnames
    have hshort : Document.entry? (override es overrides) m.toList =
        Document.entry? es m.toList :=
      h.entry?_other (by simp [hnames]) he hnull hf hem
    rw [hnames, Config.valueOf?_cons, hshort, Config.valueOf?_cons es, hm]
    rfl

end Overriding

/-! ### The configuration -/

lemma config_eq_ok_iff : (s.config catalogue overrides).value = .ok c ↔
    ∃ es ks, s.purgeSection = .map es ∧ s.unknownKeys = .ok ks ∧
      ofFields catalogue (override es overrides) = .ok c := by
  rw [config]
  split
  · rename_i es hsec
    simp only [hsec, Document.map.injEq]
    cases hks : s.unknownKeys with
    | error k => simp
    | ok ks =>
      dsimp only
      split <;> simp_all
  · rename_i hnomap
    refine ⟨fun h => by simp at h, ?_⟩
    rintro ⟨es, -, hsec, -⟩
    exact absurd hsec (hnomap es)

end

/-- **An override is the value of its field.** Over settings that are valid, overrides that are
valid make a configuration. In a field that is overridden it has the value that the override alone
gives, unless the section hides the override; there, and in all other fields, it is what it is
without overrides. -/
theorem overrides_win {s : Settings} {catalogue : Catalogue}
    {overrides : List (Document × Document)} {base : Config}
    (hbase : (s.config catalogue []).value = .ok base) (h : Overriding catalogue overrides) :
    ∃ c, (s.config catalogue overrides).value = .ok c ∧ ∀ f : Field,
      (∀ e ∈ overrides, e.2 ≠ .null → f.Named e.1 → ¬ s.Hidden f e.1 →
        ∃ only, ofFields catalogue [e] = .ok only ∧ f.Same c only) ∧
      ((∀ e ∈ overrides, e.2 ≠ .null → f.Named e.1 → s.Hidden f e.1) → f.Same c base) := by
  obtain ⟨es, ks, hsec, hks, hes⟩ := config_eq_ok_iff.mp hbase
  have hold (f : Field) : f.Gives catalogue es base := Config.ofFields_eq_ok_iff.mp hes f
  have hnew {e : Document × Document} (he : e ∈ overrides) (hnull : e.2 ≠ .null) :
      ∃ only, ofFields catalogue [e] = .ok only ∧ ∀ f : Field, f.Gives catalogue [e] only := by
    obtain ⟨-, -, hvalid⟩ := h.valid e he
    obtain ⟨only, honly⟩ := hvalid hnull
    exact ⟨only, honly, Config.ofFields_eq_ok_iff.mp honly⟩
  -- A field is given either by the section or by its override.
  have hstays {f : Field} {d : Config}
      (hf : ∀ e ∈ overrides, e.2 ≠ .null → f.Named e.1 → s.Hidden f e.1) :
      f.Gives catalogue (override es overrides) d ↔ f.Gives catalogue es d :=
    Field.gives_congr (h.valueOf?_of_hidden hsec hf)
  have hwins {f : Field} {d : Config} {e : Document × Document} (he : e ∈ overrides)
      (hnull : e.2 ≠ .null) (hf : f.Named e.1) (hh : ¬ s.Hidden f e.1) :
      f.Gives catalogue (override es overrides) d ↔ f.Gives catalogue [e] d :=
    Field.gives_congr (h.valueOf?_of_mem hsec he hnull hf hh)
  have hall (f : Field) : ∃ d, f.Gives catalogue (override es overrides) d := by
    by_cases hf : ∀ e ∈ overrides, e.2 ≠ .null → f.Named e.1 → s.Hidden f e.1
    · exact ⟨base, (hstays hf).mpr (hold f)⟩
    · push Not at hf
      obtain ⟨e, he, hnull, hfe, hh⟩ := hf
      obtain ⟨only, -, honly⟩ := hnew he hnull
      exact ⟨only, (hwins he hnull hfe hh).mpr (honly f)⟩
  obtain ⟨c, hc⟩ := Config.exists_ofFields_eq_ok hall
  have hgives (f : Field) := Config.ofFields_eq_ok_iff.mp hc f
  refine ⟨c, config_eq_ok_iff.mpr ⟨es, ks, hsec, hks, hc⟩, fun f => ⟨fun e he hnull hf hh => ?_,
    fun hf => ?_⟩⟩
  · obtain ⟨only, heq, honly⟩ := hnew he hnull
    exact ⟨only, heq, ((hwins he hnull hf hh).mp (hgives f)).same (honly f)⟩
  · exact ((hstays hf).mp (hgives f)).same (hold f)

/-- The section of a settings file with these entries. -/
def ofSection (es : List (String × Document)) : Settings :=
  ⟨Files.Path.ofText ['s'], [(.text sectionName, .map (es.map fun e => (.ofString e.1, e.2)))]⟩

/-- Of three overrides one is nothing, one is by a short name, and one is hidden. -/
theorem overrides_win_three :
    let s := ofSection [("content", .text ['a']), ("keep_keyframes", .bool true),
      ("variables", .bool true)]
    let overrides : List (Document × Document) := [(.ofString "content", .null),
      (.ofString "keyframes", .bool false), (.ofString "keep_custom_properties", .bool false)]
    Overriding .empty overrides ∧ ∃ c, (s.config .empty overrides).value = .ok c ∧
      c.content = [['a']] ∧ c.keepKeyframes = false ∧ c.keepCustomProperties = true := by
  intro s overrides
  have hbase : (s.config .empty []).value = .ok { Config.default with content := [['a']] } := rfl
  have hover : Overriding .empty overrides := by
    refine ⟨fun e he => ?_, ?_⟩
    · simp only [overrides, List.mem_cons, List.not_mem_nil, or_false] at he
      rcases he with rfl | rfl | rfl
      · exact ⟨.content, ⟨_, by decide, rfl⟩, fun h => absurd rfl h⟩
      · exact ⟨.keepKeyframes, ⟨_, by decide, rfl⟩, fun _ => ⟨_, rfl⟩⟩
      · exact ⟨.keepCustomProperties, ⟨_, by decide, rfl⟩, fun _ => ⟨_, rfl⟩⟩
    · refine .cons (fun _ _ h => absurd rfl h) (.cons ?_ (List.pairwise_singleton ..))
      intro e he _ _ f hf
      obtain rfl := List.mem_singleton.mp he
      rw [Field.named_ofString] at hf ⊢
      cases f <;> simp_all [Field.names]
  obtain ⟨c, hc, hfields⟩ := overrides_win hbase hover
  refine ⟨hover, c, hc, (hfields .content).2 ?_, ?_, (hfields .keepCustomProperties).2 ?_⟩
  · intro e he hnull hf
    simp only [overrides, List.mem_cons, List.not_mem_nil, or_false] at he
    rcases he with rfl | rfl | rfl
    · exact absurd rfl hnull
    · exact absurd (Field.named_ofString.mp hf) (by decide)
    · exact absurd (Field.named_ofString.mp hf) (by decide)
  · have hshort : ¬ s.Hidden .keepKeyframes (.ofString "keyframes") := by
      rintro ⟨m, n, hnames, hn, -⟩
      obtain ⟨rfl, rfl⟩ : "keyframes" = m ∧ "keep_keyframes" = n := by
        simpa [Field.names] using hnames
      exact Field.ofString_ne hnames hn.symm
    obtain ⟨only, honly, hsame⟩ := (hfields .keepKeyframes).1
      (.ofString "keyframes", .bool false) (by simp [overrides]) (by simp)
      (Field.named_ofString.mpr (by decide)) hshort
    obtain rfl : { Config.default with keepKeyframes := false } = only := by injection honly
    exact hsame
  · intro e he hnull hf
    refine ⟨"variables", "keep_custom_properties", rfl, ?_, _, _, rfl, rfl⟩
    simp only [overrides, List.mem_cons, List.not_mem_nil, or_false] at he
    rcases he with rfl | rfl | rfl
    · exact absurd rfl hnull
    · exact absurd (Field.named_ofString.mp hf) (by decide)
    · rfl

/-- An override by the long name does nothing against the short name. -/
theorem override_hidden :
    let s := ofSection [("keyframes", .bool true)]
    let overrides : List (Document × Document) := [(.ofString "keep_keyframes", .bool false)]
    ∃ base c only, (s.config .empty []).value = .ok base ∧ Overriding .empty overrides ∧
      (s.config .empty overrides).value = .ok c ∧ ofFields .empty overrides = .ok only ∧
      ¬ Field.keepKeyframes.Same c only := by
  refine ⟨_, _, _, rfl, ⟨fun e he => ?_, List.pairwise_singleton ..⟩, rfl, rfl, ?_⟩
  · obtain rfl := List.mem_singleton.mp he
    exact ⟨.keepKeyframes, ⟨_, by decide, rfl⟩, fun _ => ⟨_, rfl⟩⟩
  · exact Bool.noConfusion

end Settings

end ClassPurge
