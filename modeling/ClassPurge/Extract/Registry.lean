import ClassPurge.Extract.Extractor
import ClassPurge.Extract.Heuristic
import ClassPurge.Extract.Suffix
import ClassPurge.Files.Path
import ClassPurge.Log.Event

/-!
Extractors by file suffix. The last registration of a suffix wins, in whatever spelling it came.
-/

namespace ClassPurge.Extract

open Files (Path)

/-- Values by normalised suffix, each suffix once, in order of first registration. -/
structure Registry (α : Type) where
  entries : List (Text × α)

namespace Registry

variable {α : Type}

def empty : Registry α := ⟨[]⟩

def lookup (key : Text) (es : List (Text × α)) : Option α :=
  (es.find? fun e => e.1 == key).map Prod.snd

def find? (r : Registry α) (key : Text) : Option α := lookup key r.entries

/-- Puts `a` under a key, in the place of what stood there. -/
def putEntry (key : Text) (a : α) : List (Text × α) → List (Text × α)
  | [] => [(key, a)]
  | e :: es => if e.1 == key then (key, a) :: es else e :: putEntry key a es

def put (r : Registry α) (key : Text) (a : α) : Registry α := ⟨putEntry key a r.entries⟩

def add (r : Registry α) (ext : Text) (a : α) : Registry α := r.put (normalizeSuffix ext) a

def addAll (r : Registry α) (exts : List Text) (a : α) : Registry α :=
  exts.foldl (fun r ext => r.add ext a) r

def ofList (entries : List (Text × α)) : Registry α :=
  entries.foldl (fun r e => r.add e.1 e.2) empty

def size (r : Registry α) : Nat := r.entries.length

def contains (r : Registry α) (ext : Text) : Bool := (r.find? (normalizeSuffix ext)).isSome

/-- The value for a file, by the suffix of its path in small letters. -/
def forPath? (r : Registry α) (path : Path) : Option α := r.find? (Text.lower path.suffix)

theorem lookup_putEntry (key k : Text) (a : α) (es : List (Text × α)) :
    lookup k (putEntry key a es) = if k = key then some a else lookup k es := by
  induction es with
  | nil =>
    by_cases h : key = k
    · simp [lookup, putEntry, h]
    · have h' : ¬ k = key := fun hk => h hk.symm
      simp [lookup, putEntry, h, h']
  | cons e es ih =>
    unfold putEntry
    split
    · rename_i h
      simp only [beq_iff_eq] at h
      by_cases hk : key = k
      · simp [lookup, hk]
      · have hk' : ¬ k = key := fun h => hk h.symm
        simp [lookup, hk, hk', h]
    · rename_i h
      simp only [beq_iff_eq] at h
      by_cases he : e.1 = k
      · have hk : ¬ k = key := fun hk => h (he.trans hk)
        simp [lookup, he, hk]
      · simp only [lookup] at ih
        simp [lookup, he, ih]

/-- What stands under a key is what was put there last. -/
theorem find?_put (r : Registry α) (key k : Text) (a : α) :
    (r.put key a).find? k = if k = key then some a else r.find? k :=
  lookup_putEntry key k a r.entries

end Registry

/-- The candidates in a source file: what the extractor for its suffix answers, or else what the
heuristics find; each once, in order of first mention. -/
def extractClasses (extractors : Registry Extractor) (path : Path) (t : Text) :
    Except Fault (List Text) :=
  match extractors.forPath? path with
  | some e => (e.run t).map fun found => (found.filter fun c => !c.isEmpty).eraseDups
  | none => .ok (candidates t)

/-- What is reported about an extraction that went well. -/
def extractEvents (path : String) : Except Fault (List Text) → List Log.Event
  | .ok classes => [.extracted classes.length path]
  | .error _ => []

end ClassPurge.Extract
