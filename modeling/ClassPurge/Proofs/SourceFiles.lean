import ClassPurge.Proofs.Text.Sets
import ClassPurge.Run

/-!
The analysis of the source files, one by one. What comes of a file depends on that file alone: one
that cannot be read, is no text, or whose extractor fails is passed over, and the others are told as
they would be without it. So the files that fail can as well be left out, and the order of the files
is only the order of what is told.
-/

namespace ClassPurge

/-- The files that an analysis tells of. -/
def Sources.told (c : Config) (s : Sources) : List SourceFile :=
  if c.enabled then
    match s.paths.value with
    | .error _ => []
    | .ok paths => Run.readAll c s.read paths
  else []

/-- The same files under another list of paths. -/
def Sources.listing (s : Sources) (paths : List Text) : Sources := ⟨⟨.ok paths, []⟩, s.read⟩

namespace Run

/-- What comes of the file at a path: it is passed over, or its classes are told. -/
inductive Outcome (c : Config) (read : Text → Except String Bytes) (p : Text) :
    Option SourceFile → Prop
  | unread {cause : String} (hread : read p = .error cause) : Outcome c read p none
  | noText {bs : Bytes} {e : Bytes.DecodeError} (hread : read p = .ok bs)
      (hdecode : bs.decode = .error e) : Outcome c read p none
  | notExtracted {bs : Bytes} {t : Text} {fault : Extract.Fault} (hread : read p = .ok bs)
      (hdecode : bs.decode = .ok t)
      (hclasses : Extract.extractClasses c.extractors (Files.Path.ofText p) t = .error fault) :
      Outcome c read p none
  | told {bs : Bytes} {t : Text} {classes : List Text} (hread : read p = .ok bs)
      (hdecode : bs.decode = .ok t)
      (hclasses : Extract.extractClasses c.extractors (Files.Path.ofText p) t = .ok classes) :
      Outcome c read p (some ⟨p, classes, bs.length⟩)

/-- What is told of a file that is the only one. -/
def alone (c : Config) (read : Text → Except String Bytes) (p : Text) : List SourceFile :=
  (start.analyze c ⟨⟨.ok [p], []⟩, read⟩ .zero).value.2

section

variable {c : Config} {read : Text → Except String Bytes} {p : Text} {paths : List Text}
  {run : Run}

/-! ### What an analysis does -/

lemma analyze_value (c : Config) (s : Sources) (now : Reading) (run : Run) :
    (run.analyze c s now).value =
      (⟨run.used.insertAll ((s.told c).flatMap SourceFile.classes), run.all, some now⟩,
        s.told c) := by
  rw [analyze, Sources.told]
  cases c.enabled with
  | false => rfl
  | true =>
    cases s.paths.value with
    | error cause => rfl
    | ok paths => rfl

lemma told_of_paths (hon : c.enabled = true) {s : Sources} (hpaths : s.paths.value = .ok paths) :
    s.told c = readAll c s.read paths := by
  rw [Sources.told, if_pos hon, hpaths]

/-! ### One file -/

lemma outcome_readSource (c : Config) (read : Text → Except String Bytes) (p : Text) :
    Outcome c read p (readSource c read p).toOption := by
  rw [readSource]
  cases hread : read p with
  | error cause => exact .unread hread
  | ok bs =>
    dsimp only
    cases hdecode : bs.decode with
    | error e => exact .noText hread hdecode
    | ok t =>
      dsimp only
      cases hclasses : Extract.extractClasses c.extractors (Files.Path.ofText p) t with
      | error fault => exact .notExtracted hread hdecode hclasses
      | ok classes => exact .told hread hdecode hclasses

lemma Outcome.eq {o : Option SourceFile} (h : Outcome c read p o) :
    (readSource c read p).toOption = o := by
  rw [readSource]
  cases h with
  | unread hread => rw [hread]; rfl
  | noText hread hdecode => rw [hread]; dsimp only; rw [hdecode]; rfl
  | notExtracted hread hdecode hclasses =>
    rw [hread]; dsimp only; rw [hdecode]; dsimp only; rw [hclasses]; rfl
  | told hread hdecode hclasses =>
    rw [hread]; dsimp only; rw [hdecode]; dsimp only; rw [hclasses]; rfl

lemma alone_eq (hon : c.enabled = true) (read : Text → Except String Bytes) (p : Text) :
    alone c read p = (readSource c read p).toOption.toList := by
  rw [alone, analyze_value, told_of_paths hon rfl, readAll, List.filterMap_eq_flatMap_toList,
    List.flatMap_singleton]

/-! ### All files -/

lemma readAll_eq_flatMap (hon : c.enabled = true) (read : Text → Except String Bytes)
    (paths : List Text) : readAll c read paths = paths.flatMap (alone c read) := by
  rw [readAll, List.filterMap_eq_flatMap_toList]
  exact List.flatMap_congr fun p _ => (alone_eq hon read p).symm

lemma readAll_filter (hon : c.enabled = true) (read : Text → Except String Bytes)
    (paths : List Text) :
    readAll c read (paths.filter fun p => !(alone c read p).isEmpty) = readAll c read paths := by
  rw [readAll, readAll, List.filterMap_filter]
  refine List.filterMap_congr fun p _ => ?_
  rw [alone_eq hon]
  cases (readSource c read p).toOption <;> rfl

end

/-- **The files are told one by one.** Of each file just what would be told if it were the only one,
whatever comes of the others; so it makes no difference whether those that fail are in the list, and
another order of the list changes only the order of what is told. -/
theorem analyze_one_by_one {c : Config} {s : Sources} {paths : List Text} (hon : c.enabled = true)
    (hpaths : s.paths.value = .ok paths) (run : Run) (now : Reading) :
    (∀ p, (∃ o, Outcome c s.read p o) ∧
        ∀ o, Outcome c s.read p o → alone c s.read p = o.toList) ∧
      (run.analyze c s now).value.2 = paths.flatMap (alone c s.read) ∧
      (∀ w, w ∈ (run.analyze c s now).value.1.used ↔
        w ∈ run.used ∨ ∃ f ∈ (run.analyze c s now).value.2, w ∈ f.classes) ∧
      (∀ listed : List Text,
        (listed.filter fun p => !(alone c s.read p).isEmpty) =
          paths.filter (fun p => !(alone c s.read p).isEmpty) →
        (run.analyze c (s.listing listed) now).value = (run.analyze c s now).value) ∧
      ∀ listed : List Text, listed.Perm paths →
        (run.analyze c (s.listing listed) now).value.2.Perm (run.analyze c s now).value.2 ∧
          (run.analyze c (s.listing listed) now).value.1 = (run.analyze c s now).value.1 := by
  have htold := told_of_paths hon hpaths
  have hlisted (listed : List Text) : (s.listing listed).told c = readAll c s.read listed :=
    told_of_paths hon rfl
  refine ⟨fun p => ⟨⟨_, outcome_readSource c s.read p⟩, fun o ho => by rw [alone_eq hon, ho.eq]⟩,
    ?_, fun w => ?_, fun listed h => ?_, fun listed h => ?_⟩
  · rw [analyze_value, htold, readAll_eq_flatMap hon]
  · rw [analyze_value, TextSet.mem_insertAll, List.mem_flatMap, or_comm]
  · -- Without the files that fail, both lists are the same.
    rw [analyze_value, analyze_value, htold, hlisted, ← readAll_filter hon s.read listed, h,
      readAll_filter hon]
  · have hperm : (readAll c s.read listed).Perm (readAll c s.read paths) := h.filterMap _
    rw [analyze_value, analyze_value, htold, hlisted]
    refine ⟨hperm, ?_⟩
    rw [TextSet.insertAll_congr fun t => (hperm.flatMap_right _).mem_iff]

/-- Of five files one is not there, one is no text, and the extractors of two fail. -/
theorem analyze_one_by_one_five :
    let c : Config := { Config.default with extractors := ⟨[
      (".txt".toList, .spaced "words".toList),
      (".vue".toList, .failing "boom".toList (.raised "broken extractor")),
      (".js".toList, .failing "bad".toList (.noList "NoneType"))]⟩ }
    let paths : List Text := ["b.vue", "gone.txt", "a.txt", "c.js", "d.txt"].map String.toList
    let read (p : Text) : Except String Bytes :=
      if p = "gone.txt".toList then .error "missing"
      else if p = "d.txt".toList then .ok [0xff] else .ok [0x61, 0x20, 0x62]
    let s : Sources := ⟨⟨.ok paths, []⟩, read⟩
    let found : List SourceFile := [⟨"a.txt".toList, [['a'], ['b']], 3⟩]
    c.enabled = true ∧ s.paths.value = .ok paths ∧
      (start.analyze c s .zero).value.2 = found ∧
      (start.analyze c (s.listing ["a.txt".toList]) .zero).value.2 = found ∧
      (start.analyze c (s.listing paths.reverse) .zero).value.1.used.toList = [['a'], ['b']] := by
  intro c paths read s found
  obtain ⟨-, htold, -, hdrop, hperm⟩ :=
    @analyze_one_by_one c s paths rfl rfl start .zero
  have hfound : (start.analyze c s .zero).value.2 = found := by
    rw [htold]
    decide +kernel
  refine ⟨rfl, rfl, hfound, ?_, ?_⟩
  · rw [hdrop _ (by decide +kernel), hfound]
  · rw [(hperm _ paths.reverse_perm).2]
    decide +kernel

end Run

end ClassPurge
