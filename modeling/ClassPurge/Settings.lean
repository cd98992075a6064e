import ClassPurge.Config.Basic
import ClassPurge.Environment
import ClassPurge.Files.Tree
import ClassPurge.Text.Order
import ClassPurge.Yaml.Document

/-!
The settings file of a project. A file that is absent, cannot be read or holds no map gives empty
settings. Its section `purge`, with overrides put over it, is checked as the configuration of a
run.
-/

namespace ClassPurge

open Files Log

structure Settings where
  path : Path
  data : List (Document × Document)

namespace Settings

inductive Found
  | absent
  | unread (f : Fault)
  | text (t : Text)

/-- What no settings can be made of. -/
inductive LoadFailure
  | undecodable (e : Bytes.DecodeError)
  | file (f : Fault) (path : Path)
  | crash (c : Yaml.Crash)

def LoadFailure.message : LoadFailure → String
  | undecodable e => e.message
  | file f path => f.message path.text
  | crash c => c.message

def find (t : Tree) (p : Path) : Except LoadFailure Found :=
  match t.holds p with
  | .error f => .error (.file f p)
  | .ok false => .ok .absent
  | .ok true =>
    match t.read p with
    | .error f => .ok (.unread f)
    | .ok bs =>
      match bs.decode with
      | .error e => .error (.undecodable e)
      | .ok t => .ok (.text t.unifyLineEnds)

/-- The entries that a text spells. A text that spells nothing has none. -/
def entriesOf (path : Path) (t : Text) : Except Yaml.Crash (Logged (List (Document × Document))) :=
  match Yaml.read t with
  | .error (.crash c) => .error c
  | .error (.fault f) => .ok ⟨[], [.configUnread path.string f.message]⟩
  | .ok d =>
    if d.isEmpty then .ok ⟨[], []⟩
    else
      match d.opened with
      | .map es => .ok ⟨es, []⟩
      | _ => .ok ⟨[], [.configNotMapping path.string]⟩

def load (t : Tree) (path : Path) : Except LoadFailure (Logged Settings) := do
  match ← find t path with
  | .absent => return ⟨⟨path, []⟩, [.noConfig path.string]⟩
  | .unread f => return ⟨⟨path, []⟩, [.configUnread path.string (f.message path.text)]⟩
  | .text t =>
    match entriesOf path t with
    | .error c => throw (.crash c)
    | .ok l => return ⟨⟨path, l.value⟩, l.events⟩

def get? (d : Document) : List Text → Option Document
  | [] => some d
  | k :: ks =>
    match d.opened with
    | .map es => (Document.entry? es k).bind fun d => get? d ks
    | _ => none

def sectionName : Text := "purge".toList

/-- The section of the configuration; nothing of any kind is an empty one. -/
def purgeSection (s : Settings) : Document :=
  match Document.entry? s.data sectionName with
  | some d => if d.isEmpty then .map [] else d.opened
  | none => .map []

def isKnown (k : Document) : Bool := Config.knownNames.any fun n => k.isText n.toList

/-- The keys of the section that no field goes by, in order. -/
def unknownKeys (s : Settings) : Except Config.Crash (List Text) :=
  match s.purgeSection with
  | .map es =>
    let unknown := (es.map Prod.fst).filter fun k => !isKnown k
    if unknown.all Document.isWritable then
      .ok ((unknown.map Document.keyName).mergeSort fun a b => !Text.before b a)
    else .error .longKey
  | _ => .ok []

inductive Failure
  /-- The section is no map. -/
  | notMapping (path : Path)
  | invalid (path : Path) (issues : List Check.Issue)
  | crash (c : Config.Crash)

def Failure.message : Failure → String
  | notMapping path => s!"{path.string}: 'purge' must be a mapping"
  | invalid path issues =>
    s!"{path.string}: invalid purge config\n{Check.summary Config.recordName issues}"
  | crash c => c.message

/-- The entries with the overrides that are not nothing put over them. -/
def override (es overrides : List (Document × Document)) : List (Document × Document) :=
  overrides.foldl (fun es (k, v) =>
    match v with
    | .null => es
    | v => Document.put es k.keyName v) es

/-- The configuration of a run. Keys that nobody knows are reported and otherwise ignored. -/
def config (s : Settings) (catalogue : Extract.Catalogue)
    (overrides : List (Document × Document)) : Logged (Except Failure Config) :=
  match s.purgeSection with
  | .map es =>
    match s.unknownKeys with
    | .error c => ⟨.error (.crash c), []⟩
    | .ok unknown =>
      let events := unknown.map fun k => Event.unknownKey s.path.string k
      match Config.ofFields catalogue (override es overrides) with
      | .ok c => ⟨.ok c, events⟩
      | .error (.invalid is) => ⟨.error (.invalid s.path is), events⟩
      | .error (.crash c) => ⟨.error (.crash c), events⟩
  | _ => ⟨.error (.notMapping s.path), []⟩

/-! ### The first settings of a project -/

def defaultText : String :=
  "\n".intercalate ["# shakecss configuration", "purge:", "  enabled: true", "",
    "  # source files scanned for class names", "  content:", "    - \"index.html\"",
    "    - \"src/**/*.\x7bhtml,js,ts,jsx,tsx,vue,svelte\x7d\"", "",
    "  # always kept; wrap a value in slashes for a regex, e.g. \"/^hover:/\"", "  safelist: []",
    "", "  # always removed, even when used or safelisted", "  blocklist: []", "",
    "  keyframes: true   # keep @keyframes", "  fontFace: true    # keep @font-face",
    "  variables: true   # keep rules declaring --custom-properties", "",
    "  # per-extension replacement extractors, \"package.module:function\"",
    "  extractors: \x7b\x7d", ""]

inductive WriteFailure
  | alreadyThere (path : Path)
  | fault (f : Fault) (path : Path)

def WriteFailure.message : WriteFailure → String
  | alreadyThere path => s!"{path.string} already exists"
  | fault f path => f.message path.text

def writeFile (t : Tree) (path : Path) (bs : Bytes) : Except WriteFailure Tree :=
  match t.makeFolder path.parent with
  | .error (f, p) => .error (.fault f p)
  | .ok t =>
    match t.write path bs with
    | .error f => .error (.fault f path)
    | .ok t => .ok t

/-- Why the first settings are not to be written. Without `force` a file that is there is left
alone. -/
def refusal? (t : Tree) (path : Path) (force : Bool) : Option WriteFailure :=
  match t.holds path with
  | .error f => some (.fault f path)
  | .ok there => if there && !force then some (.alreadyThere path) else none

def writeDefault (t : Tree) (path : Path) (force : Bool) : Except WriteFailure (Logged Tree) :=
  match refusal? t path force with
  | some e => .error e
  | none => do
    let t ← writeFile t path (Bytes.ofText defaultText.toList)
    return ⟨t, [.configWritten path.string]⟩

/-- The tree when the first settings could not be written: the folders that were made on the way
stay. -/
def leftAfter (t : Tree) (path : Path) (force : Bool) : Tree :=
  if (refusal? t path force).isSome then t else (t.make path.parent).1

end Settings

end ClassPurge
