import ClassPurge.Extract.Registry
import ClassPurge.Proofs.Text.Lowering
import Mathlib.Data.Finset.Card

/-!
What a registry of extractors answers after any registrations. Each takes the place of those before
it whose suffix comes to the same, whatever the spelling, so a registry is known from the last
registration of every suffix. Files are looked up by the last part of their name, and a suffix with
several parts is never asked for.
-/

namespace ClassPurge.Extract

open Files (Path)
open Text (IsSmall)

/-! ### Suffixes -/

section

variable {ext : Text}

lemma isSmall_dot : IsSmall '.' := by decide +kernel

lemma normalizeSuffix_cases (ext : Text) : normalizeSuffix ext = Text.lower ext.strip ∨
    normalizeSuffix ext = '.' :: Text.lower ext.strip := by
  rw [normalizeSuffix]
  split_ifs
  · exact .inl rfl
  · exact .inr rfl

lemma isSmall_of_mem_normalizeSuffix {c : Char} (hc : c ∈ normalizeSuffix ext) : IsSmall c := by
  rcases normalizeSuffix_cases ext with h | h
  · exact Text.isSmall_of_mem_lower (h ▸ hc)
  · rw [h] at hc
    rcases List.mem_cons.mp hc with rfl | hc
    · exact isSmall_dot
    · exact Text.isSmall_of_mem_lower hc

lemma trimmed_normalizeSuffix (ext : Text) : Text.Trimmed (normalizeSuffix ext) := by
  have hlower : Text.Trimmed (Text.lower ext.strip) := Text.trimmed_lower (Text.trimmed_strip ext)
  rcases normalizeSuffix_cases ext with h | h
  · rwa [h]
  · rw [h]
    exact ⟨by simpa using by decide, Text.getLast?_append_cons (by decide) hlower.2 []⟩

/-- **A suffix that was normalised stays as it is.** -/
lemma normalizeSuffix_normalizeSuffix (ext : Text) :
    normalizeSuffix (normalizeSuffix ext) = normalizeSuffix ext := by
  have hsame : Text.lower (normalizeSuffix ext).strip = normalizeSuffix ext := by
    rw [Text.strip_of_trimmed (trimmed_normalizeSuffix ext)]
    exact Text.lower_of_isSmall fun _ => isSmall_of_mem_normalizeSuffix
  rw [normalizeSuffix.eq_1 (normalizeSuffix ext), hsame]
  exact if_pos (by rw [head?_normalizeSuffix]; rfl)

end

namespace Registry

variable {α : Type}

/-! ### One registration after another -/

/-- The suffixes of registrations, as they are kept. -/
def keys (es : List (Text × α)) : List Text := es.map fun e => normalizeSuffix e.1

/-- The last of the registrations whose suffix comes to `key` is one of `a`. -/
def IsLast (es : List (Text × α)) (key : Text) (a : α) : Prop :=
  ∃ before ext after, es = before ++ (ext, a) :: after ∧ normalizeSuffix ext = key ∧
    key ∉ keys after

lemma ofList_concat (es : List (Text × α)) (e : Text × α) :
    ofList (es ++ [e]) = (ofList es).add e.1 e.2 := by
  rw [ofList, List.foldl_append]
  rfl

lemma find?_concat (es : List (Text × α)) (e : Text × α) (key : Text) :
    (ofList (es ++ [e])).find? key =
      if key = normalizeSuffix e.1 then some e.2 else (ofList es).find? key := by
  rw [ofList_concat, add, find?_put]

lemma keys_append (es fs : List (Text × α)) : keys (es ++ fs) = keys es ++ keys fs :=
  List.map_append

/-- The registrations behind the last one of a key do not count for it. -/
lemma find?_append_of_not_mem {key : Text} {fs : List (Text × α)} (h : key ∉ keys fs)
    (es : List (Text × α)) : (ofList (es ++ fs)).find? key = (ofList es).find? key := by
  induction fs using List.reverseRecOn with
  | nil => rw [List.append_nil]
  | append_singleton fs e ih =>
    rw [keys_append, List.mem_append, not_or] at h
    have he : key ≠ normalizeSuffix e.1 := fun hk => h.2 (hk ▸ List.mem_cons_self)
    rw [← List.append_assoc, find?_concat, if_neg he, ih h.1]

lemma exists_isLast {es : List (Text × α)} {key : Text} (h : key ∈ keys es) :
    ∃ a, IsLast es key a := by
  induction es with
  | nil => cases h
  | cons e es ih =>
    by_cases hes : key ∈ keys es
    · obtain ⟨a, before, ext, after, rfl, hext, hafter⟩ := ih hes
      exact ⟨a, e :: before, ext, after, rfl, hext, hafter⟩
    · have he : normalizeSuffix e.1 = key := ((List.mem_cons.mp h).resolve_right hes).symm
      exact ⟨e.2, [], e.1, es, rfl, he, hes⟩

lemma IsLast.find?_eq {es : List (Text × α)} {key : Text} {a : α} (h : IsLast es key a) :
    (ofList es).find? key = some a := by
  obtain ⟨before, ext, after, rfl, hext, hafter⟩ := h
  rw [List.append_cons, find?_append_of_not_mem hafter, find?_concat, if_pos hext.symm]

lemma find?_eq_none_iff {es : List (Text × α)} {key : Text} :
    (ofList es).find? key = none ↔ key ∉ keys es := by
  constructor
  · intro h hmem
    obtain ⟨a, ha⟩ := exists_isLast hmem
    rw [ha.find?_eq] at h
    cases h
  · intro h
    exact find?_append_of_not_mem h []

/-- **The last registration counts.** -/
lemma find?_eq_some_iff {es : List (Text × α)} {key : Text} {a : α} :
    (ofList es).find? key = some a ↔ IsLast es key a := by
  constructor
  · intro h
    have hmem : key ∈ keys es := by
      by_contra hnot
      rw [find?_eq_none_iff.mpr hnot] at h
      cases h
    obtain ⟨b, hb⟩ := exists_isLast hmem
    rw [hb.find?_eq] at h
    cases h
    exact hb
  · exact IsLast.find?_eq

/-! ### Suffixes that are kept -/

lemma mem_map_putEntry {key k : Text} {a : α} {es : List (Text × α)} :
    k ∈ (putEntry key a es).map Prod.fst ↔ k ∈ es.map Prod.fst ∨ k = key := by
  induction es with
  | nil => simp [putEntry]
  | cons e es ih =>
    rw [putEntry]
    split
    · rename_i he
      rw [List.map_cons, List.map_cons, List.mem_cons, List.mem_cons, eq_of_beq he]
      tauto
    · rw [List.map_cons, List.map_cons, List.mem_cons, List.mem_cons, ih, or_assoc]

lemma nodup_putEntry {key : Text} {a : α} {es : List (Text × α)} (h : (es.map Prod.fst).Nodup) :
    ((putEntry key a es).map Prod.fst).Nodup := by
  induction es with
  | nil => simp [putEntry]
  | cons e es ih =>
    obtain ⟨he, hes⟩ := List.nodup_cons.mp h
    rw [putEntry]
    split
    · rename_i hkey
      rw [List.map_cons, List.nodup_cons, ← eq_of_beq hkey]
      exact ⟨he, hes⟩
    · rename_i hkey
      have hne : e.1 ≠ key := by simpa using hkey
      rw [List.map_cons, List.nodup_cons, mem_map_putEntry, not_or]
      exact ⟨⟨he, hne⟩, ih hes⟩

lemma nodup_ofList (es : List (Text × α)) : ((ofList es).entries.map Prod.fst).Nodup := by
  induction es using List.reverseRecOn with
  | nil => exact List.nodup_nil
  | append_singleton es e ih =>
    rw [ofList_concat]
    exact nodup_putEntry ih

lemma mem_entries_ofList (es : List (Text × α)) (key : Text) :
    key ∈ (ofList es).entries.map Prod.fst ↔ key ∈ keys es := by
  induction es using List.reverseRecOn with
  | nil => rfl
  | append_singleton es e ih =>
    rw [ofList_concat, keys_append, List.mem_append, ← ih]
    exact mem_map_putEntry.trans (or_congr_right List.mem_singleton.symm)

lemma size_ofList (es : List (Text × α)) : (ofList es).size = (keys es).toFinset.card := by
  have hsame : (keys es).toFinset = ((ofList es).entries.map Prod.fst).toFinset := by
    ext key
    rw [List.mem_toFinset, List.mem_toFinset, mem_entries_ofList]
  rw [hsame, List.toFinset_card_of_nodup (nodup_ofList es), List.length_map, size]

lemma contains_ofList {es : List (Text × α)} {ext : Text} :
    (ofList es).contains ext = true ↔ normalizeSuffix ext ∈ keys es := by
  rw [contains, Option.isSome_iff_ne_none, Ne, find?_eq_none_iff, not_not]

/-! ### Calls -/

/-- What can be called on a registry that was made from some registrations. -/
inductive Call (α : Type)
  | add (ext : Text) (a : α)
  | register (exts : List Text) (a : α)
  deriving Repr

namespace Call

def on (r : Registry α) : Call α → Registry α
  | add ext a => r.add ext a
  | register exts a => r.addAll exts a

/-- The registrations that a call makes. -/
def registrations : Call α → List (Text × α)
  | add ext a => [(ext, a)]
  | register exts a => exts.map fun ext => (ext, a)

end Call

/-- The registry after calls, one after another. -/
def afterCalls (initial : List (Text × α)) (calls : List (Call α)) : Registry α :=
  calls.foldl Call.on (ofList initial)

/-- All registrations, those with which the registry was made first. -/
def made (initial : List (Text × α)) (calls : List (Call α)) : List (Text × α) :=
  initial ++ calls.flatMap Call.registrations

lemma on_ofList (es : List (Text × α)) (c : Call α) :
    c.on (ofList es) = ofList (es ++ c.registrations) := by
  have happend : ofList (es ++ c.registrations) =
      c.registrations.foldl (fun r e => r.add e.1 e.2) (ofList es) := List.foldl_append
  rw [happend]
  cases c with
  | add ext a => rfl
  | register exts a => rw [Call.on, addAll, Call.registrations, List.foldl_map]

lemma afterCalls_eq (initial : List (Text × α)) (calls : List (Call α)) :
    afterCalls initial calls = ofList (made initial calls) := by
  rw [made, afterCalls]
  induction calls generalizing initial with
  | nil => rw [List.foldl_nil, List.flatMap_nil, List.append_nil]
  | cons c calls ih =>
    rw [List.foldl_cons, on_ofList, ih, List.flatMap_cons, List.append_assoc]

/-- The registries cannot be told apart by what they answer. -/
structure SameAnswers (r s : Registry α) : Prop where
  files : ∀ path, r.forPath? path = s.forPath? path
  suffixes : ∀ ext, r.contains ext = s.contains ext
  size : r.size = s.size

/-- What comes later does not tell apart what could not be told apart before. -/
lemma find?_append_congr {key : Text} {es fs : List (Text × α)}
    (h : (ofList es).find? key = (ofList fs).find? key) (gs : List (Text × α)) :
    (ofList (es ++ gs)).find? key = (ofList (fs ++ gs)).find? key := by
  induction gs using List.reverseRecOn with
  | nil => rwa [List.append_nil, List.append_nil]
  | append_singleton gs g ih =>
    rw [← List.append_assoc, ← List.append_assoc, find?_concat, find?_concat, ih]

/-- Neighbours with different suffixes can change places. -/
lemma sameAnswers_swap {e f : Text × α} (hne : normalizeSuffix e.1 ≠ normalizeSuffix f.1)
    (before after : List (Text × α)) :
    SameAnswers (ofList (before ++ e :: f :: after)) (ofList (before ++ f :: e :: after)) := by
  have hcut (e f : Text × α) : before ++ e :: f :: after = before ++ [e] ++ [f] ++ after := by simp
  have hfind (key : Text) : (ofList (before ++ e :: f :: after)).find? key =
      (ofList (before ++ f :: e :: after)).find? key := by
    rw [hcut e f, hcut f e]
    refine find?_append_congr ?_ after
    rw [find?_concat, find?_concat, find?_concat, find?_concat]
    split_ifs with hf he
    · exact absurd (he.symm.trans hf) hne
    · rfl
    · rfl
    · rfl
  have hperm : (before ++ e :: f :: after).Perm (before ++ f :: e :: after) :=
    (List.Perm.swap f e after).append_left before
  have hkeys : (keys (before ++ e :: f :: after)).Perm (keys (before ++ f :: e :: after)) :=
    hperm.map _
  refine ⟨fun path => hfind _, fun ext => ?_, ?_⟩
  · rw [contains, contains, hfind]
  · rw [size_ofList, size_ofList, List.toFinset_eq_of_perm _ _ hkeys]

/-- **The last registration of a suffix wins**, in whatever spelling it comes and by whatever call.
The registry answers as its registrations say, and of these only the order of those whose suffixes
come to the same is of any account. -/
theorem afterCalls_answers (initial : List (Text × α)) (calls : List (Call α)) :
    (∀ path : Text, ∀ a : α, (afterCalls initial calls).forPath? (Path.ofText path) = some a ↔
      IsLast (made initial calls) (Text.lower (Path.ofText path).suffix) a) ∧
    (∀ path : Text, (afterCalls initial calls).forPath? (Path.ofText path) = none ↔
      ∀ e ∈ made initial calls, normalizeSuffix e.1 ≠ Text.lower (Path.ofText path).suffix) ∧
    (∀ ext : Text, (afterCalls initial calls).contains ext = true ↔
      ∃ e ∈ made initial calls, normalizeSuffix e.1 = normalizeSuffix ext) ∧
    (afterCalls initial calls).size = (keys (made initial calls)).toFinset.card ∧
    (∀ before e f after initial' calls', made initial calls = before ++ e :: f :: after →
      normalizeSuffix e.1 ≠ normalizeSuffix f.1 →
      made initial' calls' = before ++ f :: e :: after →
      SameAnswers (afterCalls initial calls) (afterCalls initial' calls')) ∧
    ∀ ext : Text, normalizeSuffix (normalizeSuffix ext) = normalizeSuffix ext := by
  rw [afterCalls_eq]
  refine ⟨fun path a => find?_eq_some_iff, fun path => ?_, fun ext => ?_, size_ofList _, ?_,
    normalizeSuffix_normalizeSuffix⟩
  · refine find?_eq_none_iff.trans ?_
    simp only [keys, List.mem_map, not_exists, not_and, Ne]
  · rw [contains_ofList, keys, List.mem_map]
  · intro before e f after initial' calls' hmade hne hswapped
    rw [afterCalls_eq, hmade, hswapped]
    exact sameAnswers_swap hne before after

/-- Six spellings of four suffixes, two of them the same, in two orders. -/
theorem afterCalls_answers_spellings :
    let initial : List (Text × Nat) := [(" VUE".toList, 1), ("ΑΣ".toList, 2)]
    let calls : List (Call Nat) := [.register ["vue".toList, ".ΑΣ.js".toList] 3]
    let swapped : List (Call Nat) :=
      [.add "vue".toList 3, .add "ΑΣ".toList 2, .add ".ΑΣ.js".toList 3]
    (afterCalls initial calls).forPath? (Path.ofText "src/App.Vue".toList) = some 3 ∧
      (afterCalls initial calls).forPath? (Path.ofText "src/vue".toList) = none ∧
      (afterCalls initial calls).contains "\tας ".toList = true ∧
      (afterCalls initial calls).size = 3 ∧
      SameAnswers (afterCalls initial calls) (afterCalls [(" VUE".toList, 1)] swapped) := by
  intro initial calls swapped
  obtain ⟨hsome, hnone, hcontains, hsize, hswap, -⟩ := afterCalls_answers initial calls
  refine ⟨(hsome _ _).mpr ⟨initial, "vue".toList, [(".ΑΣ.js".toList, 3)], rfl, ?_, ?_⟩,
    (hnone _).mpr ?_, (hcontains _).mpr ⟨("ΑΣ".toList, 2), ?_, ?_⟩, hsize.trans ?_,
    hswap [(" VUE".toList, 1)] ("ΑΣ".toList, 2) ("vue".toList, 3) [(".ΑΣ.js".toList, 3)] _ _ rfl ?_
      rfl⟩
  all_goals decide +kernel

end Registry

/-! ### Files and suffixes of several parts -/

section

variable {ext stem : Text} {parts : List Text}

lemma suffix_ofText {a b : Text} (ha : a ≠ []) (hb : b ≠ []) (hslash : '/' ∉ a ++ '.' :: b)
    (hdot : '.' ∉ b) : (Path.ofText (a ++ '.' :: b)).suffix = '.' :: b := by
  have havoids : Avoids Path.isSlash (a ++ '.' :: b) :=
    fun c hc hcs => hslash (eq_of_beq hcs ▸ hc)
  have hname : (Path.ofText (a ++ '.' :: b)).name = a ++ '.' :: b := by
    have hkeep : (a ++ '.' :: b) ≠ Path.dot := by
      intro h
      have hlength := congrArg List.length h
      have hpos := List.length_pos_iff.mpr ha
      simp only [List.length_append, List.length_cons, Path.dot, List.length_nil] at hlength
      omega
    rw [Path.name, Path.ofText, Text.splitOn_of_avoids havoids,
      List.filter_cons_of_pos (by simp [hkeep])]
    rfl
  have hreverse : (a ++ '.' :: b).reverse.takeWhile (· != '.') = b.reverse := by
    rw [List.reverse_append, List.reverse_cons, List.append_assoc, List.takeWhile_append_of_pos]
    · simp
    · intro c hc
      have hne : c ≠ '.' := fun h => hdot (h ▸ List.mem_reverse.mp hc)
      simpa using hne
  rw [Path.suffix, hname, hreverse, List.reverse_reverse, if_neg]
  have hpos := List.length_pos_iff.mpr ha
  simp only [hb, List.isEmpty_iff, Bool.or_eq_true, decide_eq_true_eq, false_or, List.length_append,
    List.length_cons]
  omega

lemma count_dot_suffix (path : Path) : (Text.lower path.suffix).count '.' ≤ 1 := by
  rw [Path.suffix]
  split_ifs
  · decide
  · refine Text.count_dot_lower_cons fun h => ?_
    simpa using List.mem_takeWhile_imp (List.mem_reverse.mp h)

/-- **A registered suffix is looked up if it has one part.** With several parts it counts as
registered, yet no file at all is read by its extractor. -/
theorem extractClasses_registered (hparts : parts ≠ [])
    (hext : normalizeSuffix ext = parts.flatMap fun p => '.' :: p)
    (hpart : ∀ p ∈ parts, p ≠ [] ∧ '.' ∉ p ∧ '/' ∉ p) (hstem : stem ≠ []) (hslash : '/' ∉ stem)
    (e : Extractor) :
    let r := Registry.empty.add ext e
    let path := Path.ofText (stem ++ normalizeSuffix ext)
    r.contains ext = true ∧
      (parts.length = 1 → r.forPath? path = some e ∧ ∀ t, extractClasses r path t =
        (e.run t).map fun found => (found.filter fun c => !c.isEmpty).eraseDups) ∧
      (parts.length ≠ 1 → (∀ p, r.forPath? p = none) ∧
        ∀ t, extractClasses r path t = .ok (candidates t)) := by
  intro r path
  have hfind (key : Text) : r.find? key = if key = normalizeSuffix ext then some e else none :=
    Registry.find?_put _ _ _ _
  obtain ⟨before, last, rfl⟩ := parts.eq_nil_or_concat.resolve_left hparts
  rw [List.concat_eq_append] at hext hpart ⊢
  obtain ⟨hne, hdot, hlast⟩ := hpart last (by simp)
  refine ⟨by rw [Registry.contains, hfind, if_pos rfl]; rfl, fun hone => ?_, fun hmany => ?_⟩
  · obtain rfl : before = [] := by simpa using hone
    have hnormal : normalizeSuffix ext = '.' :: last := by simpa using hext
    have hsuffix : path.suffix = normalizeSuffix ext := by
      refine (congrArg (fun n => (Path.ofText (stem ++ n)).suffix) hnormal).trans ?_
      rw [suffix_ofText hstem hne (by simp [hslash, hlast]) hdot, hnormal]
    have hsmall : Text.lower (normalizeSuffix ext) = normalizeSuffix ext :=
      Text.lower_of_isSmall fun _ => isSmall_of_mem_normalizeSuffix
    have hroute : r.forPath? path = some e := by
      rw [Registry.forPath?, hsuffix, hsmall, hfind, if_pos rfl]
    exact ⟨hroute, fun t => by rw [extractClasses, hroute]⟩
  · have hlost (p : Path) : r.forPath? p = none := by
      refine (hfind _).trans (if_neg fun h => ?_)
      have hcount := count_dot_suffix p
      obtain ⟨b, bs, rfl⟩ := List.exists_cons_of_ne_nil (l := before) (by simpa using hmany)
      rw [h, hext] at hcount
      simp at hcount
    exact ⟨hlost, fun t => by rw [extractClasses, hlost]⟩

/-- A suffix of one part, and one of two. -/
theorem extractClasses_registered_parts :
    let e : Extractor := .spaced "words".toList
    let vue := Registry.empty.add " VUE".toList e
    let blade := Registry.empty.add "Blade.PHP".toList e
    extractClasses vue (Path.ofText "a.b.vue".toList) "x  y x".toList = .ok [['x'], ['y']] ∧
      blade.contains "Blade.PHP".toList = true ∧
      blade.forPath? (Path.ofText "x/a.php".toList) = none := by
  intro e vue blade
  have hone := @extractClasses_registered " VUE".toList "a.b".toList ["vue".toList] (by decide)
    (by decide +kernel) (by decide) (by decide) (by decide) e
  have hmany := @extractClasses_registered "Blade.PHP".toList "a".toList
    ["blade".toList, "php".toList] (by decide) (by decide +kernel) (by decide) (by decide)
    (by decide) e
  exact ⟨((hone.2.1 rfl).2 _).trans rfl, hmany.1, (hmany.2.2 (by decide)).1 _⟩

/-- The extractor of a suffix with two parts does not read a file whose name ends in both. -/
theorem registered_parts_not_read :
    let e : Extractor := .spaced "words".toList
    let r := Registry.empty.add ".blade.php".toList e
    r.contains ".blade.php".toList = true ∧
      (e.run "x y".toList).map (fun found => (found.filter fun c => !c.isEmpty).eraseDups) =
        .ok [['x'], ['y']] ∧
      extractClasses r (Path.ofText "a.blade.php".toList) "x y".toList = .ok [] := by
  intro e r
  have hcontains : r.contains ".blade.php".toList = true := by decide +kernel
  have hroute : r.forPath? (Path.ofText "a.blade.php".toList) = none :=
    Option.isNone_iff_eq_none.mp (by decide +kernel)
  have hfound : candidates "x y".toList = [] := by decide +kernel
  refine ⟨hcontains, rfl, ?_⟩
  rw [extractClasses, hroute, hfound]

end

end ClassPurge.Extract
