import ClassPurge.Check
import ClassPurge.Config.Matcher
import ClassPurge.Extract.Registry

/-!
The settings of a run, and how they are read from a section of a settings file. A field that is
absent has a default; three fields go by two names, of which the short one wins. A single text
stands for a list of one.
-/

namespace ClassPurge

open Check Extract

structure Config where
  enabled : Bool
  content : List Text
  safelist : List Matcher
  blocklist : List Matcher
  keepKeyframes : Bool
  keepFontFace : Bool
  keepCustomProperties : Bool
  extractors : Registry Extractor
  ignore : List Text

namespace Config

def defaultIgnore : List Text :=
  ["**/node_modules/**", "**/dist/**", "**/.git/**"].map String.toList

def default : Config := ⟨true, [], [], [], true, true, true, Registry.empty, defaultIgnore⟩

/-- What a section can hold that no check of a field provides for. -/
inductive Crash
  /-- A list of entries is wanted, and a value of this kind is none. -/
  | noList (kind : String)
  /-- A suffix is of this kind, and no text. -/
  | noSuffix (kind : String)
  /-- A suffix is in bytes. -/
  | suffixBytes
  /-- A reference to an extractor cannot be followed, and it is not told why. -/
  | reference (e : ResolveError)
  /-- A pattern asks for more repetitions than can be counted. -/
  | tooManyRepetitions
  /-- A key that no field goes by is a number too long to be written. -/
  | longKey
  deriving DecidableEq, Repr

def Crash.message : Crash → String
  | noList kind => s!"'{kind}' object is not iterable"
  | noSuffix kind => s!"'{kind}' object has no attribute 'strip'"
  | suffixBytes => "startswith first arg must be bytes or a tuple of bytes, not str"
  | reference e => e.message
  | tooManyRepetitions => Pattern.Fault.message .tooManyRepetitions
  | longKey => Spelled.sizeMessage none

inductive Failure
  | invalid (issues : List Issue)
  | crash (c : Crash)

/-- The name of a field in messages and in the section, and the short name if it has one. -/
structure FieldName where
  name : String
  otherName : Option String

/-- The fields, in the order in which they are checked. -/
def fieldNames : List FieldName :=
  [⟨"enabled", none⟩, ⟨"content", none⟩, ⟨"safelist", none⟩, ⟨"blocklist", none⟩,
    ⟨"keep_keyframes", some "keyframes"⟩, ⟨"keep_font_face", some "fontFace"⟩,
    ⟨"keep_custom_properties", some "variables"⟩, ⟨"extractors", none⟩, ⟨"ignore", none⟩]

def knownNames : List String := fieldNames.flatMap fun f => f.name :: f.otherName.toList

/-- The value of the first of `names` that is there. -/
def valueOf? (fields : List (Document × Document)) (names : List String) :
    Option (String × Document) :=
  names.findSome? fun n => (Document.entry? fields n.toList).map fun d => (n, d)

def flag (fields : List (Document × Document)) (names : List String) : Checked Bool :=
  match valueOf? fields names with
  | some (n, d) => Check.bool [n] d
  | none => .ok true

/-- Nothing is the empty list, and a text a list of itself. -/
def listed (d : Document) : Document :=
  match d with
  | .null => .list []
  | .text t => .list [.text t]
  | d => d

def texts (fields : List (Document × Document)) (name : String) (default : List Text) :
    Checked (List Text) :=
  match valueOf? fields [name] with
  | some (n, d) => Check.list Check.text [n] (listed d)
  | none => .ok default

/-! ### Entries -/

/-- What can be gone through entry by entry: lists, texts as one entry, maps by their keys, and
bytes as numbers. -/
def entries (d : Document) : Except Crash (List Document) :=
  match (listed d).opened with
  | .list ds | .tuple ds | .set ds => .ok ds
  | .map es => .ok (es.map Prod.fst)
  | .bytes bs => .ok (bs.map fun b => .int b.toNat)
  | d => .error (.noList d.longKind)

/-- The way to an item that is neither a name nor a pattern. -/
def patternStep : String := "function-plain[pattern_str_validator()]"

/-- An entry for which `d` stands. Bytes that are a text are the class name itself. -/
def checkEntry (loc : List String) (e : Document × Option Matcher) : Checked Matcher :=
  match e with
  | (_, some m) => .ok m
  | (d, none) =>
    match Check.text (loc ++ ["str"]) d with
    | .ok t => .ok (.exact t)
    | .error is =>
      let problem := match d with
        | .bytes _ => Problem.patternBytes
        | _ => .notPattern
      .error (is ++ [⟨loc ++ [patternStep], problem, d⟩])

/-- Each entry, with the matcher that it spells if it is a text. The first that spells none ends
the reading. -/
def spelled (ds : List Document) : Except Matcher.Error (List (Document × Option Matcher)) :=
  ds.mapM fun d =>
    match d with
    | .text t => (Matcher.ofText t).map fun m => (d, some m)
    | d => .ok (d, none)

def matchers (fields : List (Document × Document)) (name : String) :
    Except Crash (Checked (List Matcher)) :=
  match valueOf? fields [name] with
  | none => .ok (.ok [])
  | some (n, d) => do
    match spelled (← entries d) with
    | .error (.badPattern _ _ ⟨.tooManyRepetitions, _⟩) => .error .tooManyRepetitions
    | .error e => return refuse [n] (.rule e.message) d
    | .ok es => return all (es.zipIdx.map fun (e, i) => checkEntry [n, toString i] e)

/-! ### Extractors -/

inductive Reference
  | found (e : Extractor)
  | other (d : Document)

/-- The references by suffix. A reference that cannot be followed ends the reading. -/
def references (catalogue : Catalogue) :
    List (Document × Document) → Except Crash (Except ResolveError (Registry Reference)) :=
  let rec go (acc : Registry Reference) :
      List (Document × Document) → Except Crash (Except ResolveError (Registry Reference))
    | [] => .ok (.ok acc)
    | (.text k, .text ref) :: es =>
      match catalogue.resolve ref with
      | .ok e => go (acc.add k (.found e)) es
      | .error e => if e.isTold then .ok (.error e) else .error (.reference e)
    | (.text k, d) :: es => go (acc.add k (.other d)) es
    | (.bytes _, _) :: _ => .error .suffixBytes
    | (k, _) :: _ => .error (.noSuffix k.longKind)
  go Registry.empty

/-- What is wrong with extractors one of which refers to nothing. -/
def problemOf : ResolveError → Problem
  | .raised .assertion message => .assertion message
  | e => .rule e.message

def checkReference (name : String) (r : Text × Reference) : Checked (Text × Extractor) :=
  match r with
  | (key, .found e) => .ok (key, e)
  | (key, .other d) => refuse [name, key.string] .notFunction d

def extractorsOf (catalogue : Catalogue) (fields : List (Document × Document)) :
    Except Crash (Checked (Registry Extractor)) :=
  match valueOf? fields ["extractors"] with
  | none => .ok (.ok Registry.empty)
  | some (n, d) =>
    match d.opened with
    | .null => .ok (.ok Registry.empty)
    | .map es => do
      match ← references catalogue es with
      | .error e => return refuse [n] (problemOf e) d
      | .ok r => return (all (r.entries.map (checkReference n))).map Registry.mk
    | _ => .ok (refuse [n] .notMap d)

/-! ### The section -/

def ofFields (catalogue : Catalogue) (fields : List (Document × Document)) :
    Except Failure Config :=
  let enabled := flag fields ["enabled"]
  let content := texts fields "content" []
  let read : Except Crash _ := do
    let safelist ← matchers fields "safelist"
    let blocklist ← matchers fields "blocklist"
    let extractors ← extractorsOf catalogue fields
    return (safelist, blocklist, extractors)
  let keyframes := flag fields ["keyframes", "keep_keyframes"]
  let fontFace := flag fields ["fontFace", "keep_font_face"]
  let properties := flag fields ["variables", "keep_custom_properties"]
  let ignore := texts fields "ignore" defaultIgnore
  match read with
  | .error c => .error (.crash c)
  | .ok (safelist, blocklist, extractors) =>
    match enabled, content, safelist, blocklist, keyframes, fontFace, properties, extractors, ignore with
    | .ok enabled, .ok content, .ok safelist, .ok blocklist, .ok keyframes, .ok fontFace,
        .ok properties, .ok extractors, .ok ignore =>
      .ok ⟨enabled, content, safelist, blocklist, keyframes, fontFace, properties, extractors, ignore⟩
    | _, _, _, _, _, _, _, _, _ =>
      .error (.invalid (issues enabled ++ issues content ++ issues safelist ++ issues blocklist ++
        issues keyframes ++ issues fontFace ++ issues properties ++ issues extractors ++
        issues ignore))

def recordName : String := "PurgeConfig"

def ofDocument (catalogue : Catalogue) (d : Document) : Except Failure Config :=
  match d.opened with
  | .map fields => ofFields catalogue fields
  | _ => .error (.invalid [⟨[], .notRecord recordName, d⟩])

end Config

end ClassPurge
