import ClassPurge.Extract.Registry
import ClassPurge.Purge
import ClassPurge.Report.Basic
import ClassPurge.Text.Utf8
import ClassPurge.Timer

/-!
One run over a project: the source files are read for the classes in use, a stylesheet for the
classes there are. Both sets only grow. A file that cannot be read, or whose extractor fails, is
passed over.
-/

namespace ClassPurge

/-- Where a run finds its sources. -/
structure Sources where
  /-- The paths of the files, or why they cannot be told. -/
  paths : Log.Logged (Except String (List Text))
  /-- What the file at a path holds, or why it cannot be read. -/
  read : Text → Except String Bytes

structure Run where
  used : TextSet
  all : TextSet
  /-- When the last analysis began. -/
  startedAt : Option Reading

namespace Run

def start : Run := ⟨.empty, .empty, none⟩

inductive Skip
  | unread (cause : String)
  | notExtracted (cause : String)
  deriving DecidableEq, Repr

def Skip.event (path : Text) : Skip → Log.Event
  | unread cause => .unread path.string cause
  | notExtracted cause => .notExtracted path.string cause

def readSource (c : Config) (read : Text → Except String Bytes) (path : Text) :
    Except Skip SourceFile :=
  match read path with
  | .error cause => .error (.unread cause)
  | .ok bs =>
    match bs.decode with
    | .error e => .error (.unread e.message)
    | .ok t =>
      match Extract.extractClasses c.extractors (Files.Path.ofText path) t with
      | .error f => .error (.notExtracted f.message)
      | .ok classes => .ok ⟨path, classes, bs.length⟩

def readEvents (path : Text) : Except Skip SourceFile → List Log.Event
  | .ok f => [.extracted f.classes.length path.string]
  | .error s => [s.event path]

def readAll (c : Config) (read : Text → Except String Bytes) (paths : List Text) :
    List SourceFile :=
  paths.filterMap fun p => (readSource c read p).toOption

/-- Reads all source files at the time `now`. -/
def analyze (c : Config) (s : Sources) (now : Reading) (r : Run) :
    Log.Logged (Run × List SourceFile) :=
  let r := { r with startedAt := some now }
  if c.enabled then
    match s.paths.value with
    | .error cause => ⟨(r, []), s.paths.events ++ [.notExpanded cause]⟩
    | .ok paths =>
      let files := readAll c s.read paths
      let r := { r with used := r.used.insertAll (files.flatMap SourceFile.classes) }
      ⟨(r, files),
        s.paths.events ++ (paths.flatMap fun p => readEvents p (readSource c s.read p)) ++
          [.analysed files.length paths.length r.used.size]⟩
  else ⟨(r, []), []⟩

def collect (css : Text) (r : Run) : Log.Logged Run :=
  ⟨{ r with all := r.all.insertAll (Css.classNames css) }, collectEvents css⟩

def purge (c : Config) (css : Text) (r : Run) : Log.Logged (Run × Text) :=
  let after := if c.enabled then (r.collect css).value else r
  ⟨(after, c.purge r.used css), c.purgeEvents r.used css⟩

/-- The report at the time `now`. -/
def report (c : Config) (files : List SourceFile) (now : Reading) (r : Run) :
    Except Reading.Fault Report :=
  let time := match r.startedAt with
    | some started => started.elapsed now
    | none => .ok 0
  time.map (Report.ofClasses r.all r.used c.safelist files)

end Run

end ClassPurge
