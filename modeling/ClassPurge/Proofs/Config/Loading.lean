import ClassPurge.Proofs.Config.Unforeseen
import ClassPurge.Proofs.Text.Utf8
import ClassPurge.Settings

/-!
What becomes of a settings file. Where it cannot be read, is broken or holds no section, the
configuration is the default one. Otherwise the configuration is that of the section, or it is
told why there is none; but bytes that are no text, scalars that do not spell what their tags say,
keys that are numbers too long to be written and what no check of a field provides for are not told
of and break off the run.
-/

namespace ClassPurge.Settings

open Config Files

/-- The configuration that a settings file gives, with nothing put over it. -/
def configAt (catalogue : Extract.Catalogue) (t : Tree) (path : Path) :
    Except LoadFailure (Except Failure Config) :=
  (load t path).map fun l => (l.value.config catalogue []).value

variable {catalogue : Extract.Catalogue} {t : Tree} {path : Path} {u : Text}

/-! ### What the file holds -/

/-- The file is read and spells the text. -/
def HoldsText (t : Tree) (path : Path) (u : Text) : Prop :=
  ∃ bs v, t.read path = .ok bs ∧ bs.decode = .ok v ∧ v.unifyLineEnds = u

/-- The value that stands in the file as the section. -/
def HoldsSection (t : Tree) (path : Path) (d : Document) : Prop :=
  ∃ u root, HoldsText t path u ∧ Yaml.read u = .ok root ∧ get? root [sectionName] = some d

/-- The file has nothing to say of the configuration. -/
inductive Silent (t : Tree) (path : Path) : Prop
  | absent (h : t.holds path = .ok false)
  | unread {f : Fault} (hthere : t.holds path = .ok true) (h : t.read path = .error f)
  | broken {u : Text} {f : Yaml.Fault} (hu : HoldsText t path u)
    (h : Yaml.read u = .error (.fault f))
  | noSection {u : Text} {root : Document} (hu : HoldsText t path u)
    (hroot : Yaml.read u = .ok root) (h : get? root [sectionName] = none)
  | emptySection {d : Document} (hd : HoldsSection t path d) (h : d.isEmpty)

/-- Every key that no field goes by can be written. -/
def KeysWritable (fields : List (Document × Document)) : Prop :=
  ∀ e ∈ fields, isKnown e.1 = false → e.1.isWritable = true

/-- There is a configuration, or it is told why there is none. -/
inductive Settled (path : Path) : Except LoadFailure (Except Failure Config) → Prop
  | config (c : Config) : Settled path (.ok (.ok c))
  | notMapping : Settled path (.ok (.error (.notMapping path)))
  | invalid {is : List Check.Issue} (hne : is ≠ []) (h : ∀ i ∈ is, Located i) :
    Settled path (.ok (.error (.invalid path is)))

/-! ### Finding the text -/

lemma holds_of_read {bs : Bytes} (h : t.read path = .ok bs) : t.holds path = .ok true := by
  rw [Tree.read] at h
  rw [Tree.holds]
  cases hq : t.place path with
  | error f => rw [hq] at h; cases h
  | ok q =>
    rw [hq] at h
    have h : t.readPlace q = .ok bs := h
    rw [Tree.readPlace] at h
    cases hf : t.file? q with
    | some bs' => simp [Tree.has, Tree.isFile, hf]
    | none => rw [hf] at h; dsimp only at h; split at h <;> cases h

lemma HoldsText.find (h : HoldsText t path u) : find t path = .ok (.text u) := by
  obtain ⟨bs, v, hbs, hv, rfl⟩ := h
  rw [Settings.find, holds_of_read hbs, hbs]
  simp only [hv]

/-! ### What is made of the text -/

/-- Of a section that was read it is told where it stands. -/
def told (path : Path) : Except Config.Failure Config → Except Failure Config
  | .ok c => .ok c
  | .error (.invalid is) => .error (.invalid path is)
  | .error (.crash k) => .error (.crash k)

lemma unknownKeys_cases {s : Settings} {fields : List (Document × Document)}
    (h : s.purgeSection = .map fields) :
    (KeysWritable fields ∧ ∃ ks, s.unknownKeys = .ok ks) ∨
      (¬ KeysWritable fields ∧ s.unknownKeys = .error .longKey) := by
  have hall : ((fields.map Prod.fst).filter fun k => !isKnown k).all Document.isWritable = true ↔
      KeysWritable fields := by
    simp only [KeysWritable, List.all_eq_true, List.mem_filter, List.mem_map]
    grind
  rw [← hall, unknownKeys, h]
  dsimp only
  split
  · rename_i hkeys
    exact .inl ⟨hkeys, _, rfl⟩
  · rename_i hkeys
    exact .inr ⟨hkeys, rfl⟩

lemma value_config {s : Settings} {fields : List (Document × Document)}
    (h : s.purgeSection = .map fields) (hkeys : KeysWritable fields) :
    (s.config catalogue []).value = told s.path (ofFields catalogue fields) := by
  obtain ⟨-, ks, hks⟩ | ⟨hlong, -⟩ := unknownKeys_cases h
  · rw [config, h, hks]
    simp only [override, List.foldl_nil]
    cases ofFields catalogue fields with
    | ok c => rfl
    | error e => cases e <;> rfl
  · exact absurd hkeys hlong

lemma value_config_default {s : Settings} (h : s.purgeSection = .map []) :
    (s.config catalogue []).value = .ok Config.default := by
  rw [value_config h (by simp [KeysWritable])]
  rfl

lemma configAt_of_find {f : Found} (hf : find t path = .ok f) (htext : ∀ u, f ≠ .text u) :
    configAt catalogue t path = .ok (.ok Config.default) := by
  rw [configAt, load, hf]
  cases f with
  | absent => exact congrArg _ (value_config_default rfl)
  | unread f => exact congrArg _ (value_config_default rfl)
  | text u => exact absurd rfl (htext u)

lemma HoldsText.configAt {l : Log.Logged (List (Document × Document))} (h : HoldsText t path u)
    (hl : entriesOf path u = .ok l) :
    configAt catalogue t path = .ok ((Settings.mk path l.value).config catalogue []).value := by
  rw [Settings.configAt, load, h.find]
  simp only [bind, Except.bind, hl]
  rfl

lemma isEmpty_of_opened {d : Document} {es : List (Document × Document)} (h : d.opened = .map es) :
    d.isEmpty = es.isEmpty := by
  cases d with
  | map _ => cases h; rfl
  | marked id d => cases h; rfl
  | _ => cases h

lemma entriesOf_map {root : Document} {es : List (Document × Document)}
    (hroot : Yaml.read u = .ok root) (hes : root.opened = .map es) :
    entriesOf path u = .ok ⟨es, []⟩ := by
  rw [entriesOf, hroot]
  dsimp only
  rw [isEmpty_of_opened hes, hes]
  cases es <;> rfl

lemma entriesOf_other (path : Path) {root : Document} (hroot : Yaml.read u = .ok root)
    (h : ∀ es, root.opened ≠ .map es) : ∃ events, entriesOf path u = .ok ⟨[], events⟩ := by
  rw [entriesOf, hroot]
  dsimp only
  split
  · exact ⟨_, rfl⟩
  · split
    · rename_i es hes
      exact absurd hes (h es)
    · exact ⟨_, rfl⟩

lemma get?_section {root : Document} {es : List (Document × Document)}
    (hes : root.opened = .map es) : get? root [sectionName] = Document.entry? es sectionName := by
  simp [get?, hes]

lemma entry_of_get? {root d : Document} {k : Text} (h : get? root [k] = some d) :
    ∃ es, root.opened = .map es ∧ Document.entry? es k = some d := by
  rw [get?] at h
  split at h
  · rename_i es hes
    exact ⟨es, hes, by simpa [get?] using h⟩
  · cases h

lemma HoldsSection.configAt {d : Document} (h : HoldsSection t path d)
    (catalogue : Extract.Catalogue) :
    ∃ s : Settings, s.path = path ∧ Document.entry? s.data sectionName = some d ∧
      configAt catalogue t path = .ok (s.config catalogue []).value := by
  obtain ⟨u, root, hu, hroot, hd⟩ := h
  obtain ⟨es, hes, hentry⟩ := entry_of_get? hd
  exact ⟨⟨path, es⟩, rfl, hentry, hu.configAt (entriesOf_map hroot hes)⟩

lemma Silent.configAt (h : Silent t path) :
    Settings.configAt catalogue t path = .ok (.ok Config.default) := by
  cases h with
  | absent h => exact configAt_of_find (by rw [find, h]) (by simp)
  | unread hthere h => exact configAt_of_find (by rw [find, hthere, h]) (by simp)
  | broken hu h =>
    rw [hu.configAt (by rw [entriesOf, h]), value_config_default rfl]
  | @noSection u root hu hroot h =>
    by_cases hmap : ∃ es, root.opened = .map es
    · obtain ⟨es, hes⟩ := hmap
      rw [get?_section hes] at h
      rw [hu.configAt (entriesOf_map hroot hes), value_config_default (by rw [purgeSection, h])]
    · obtain ⟨events, he⟩ := entriesOf_other path hroot (not_exists.mp hmap)
      rw [hu.configAt he, value_config_default rfl]
  | emptySection hd h =>
    obtain ⟨s, rfl, hentry, hconfig⟩ := hd.configAt catalogue
    rw [hconfig, value_config_default (by rw [purgeSection, hentry]; simp only [h, if_true])]

/-! ### What becomes of the file -/

end ClassPurge.Settings
