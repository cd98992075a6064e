import ClassPurge.Console.Ansi
import ClassPurge.Console.Markup
import ClassPurge.Project
import ClassPurge.Report.Json
import ClassPurge.Report.Printed
import ClassPurge.Settings

/-!
The commands of the program. A command works on a tree of files and says what it does on two
channels: stylesheets and lists go to the output, everything said about the work to the messages.
A command that is refused ends with exit code 1.
-/

namespace ClassPurge

open Files Log Console

inductive Command
  | init (config : Option Path) (force : Bool)
  | purge (stylesheet : Path) (output config : Option Path) (json quiet : Bool)
  | report (stylesheet : Path) (config : Option Path) (json : Bool)
  | extract (files : List Path) (config : Option Path)
  | validate (config : Option Path)
  deriving DecidableEq, Repr

namespace Command

structure Context where
  environment : Environment
  catalogue : Extract.Catalogue
  /-- Whether the output goes to a terminal. -/
  terminal : Bool
  /-- The timer when the sources begin to be read, and when the report is made. -/
  started : Reading
  finished : Reading

/-- A text as the output shows it. What tells a terminal how to show it is left out elsewhere. -/
def Context.shown (x : Context) (t : Text) : Text := if x.terminal then t else dropSequences t

/-- Failures that no command answers for. -/
inductive Raised
  | noHome (e : Environment.NoHome)
  | settings (e : Settings.LoadFailure)
  | crash (c : Config.Crash)
  | file (f : Fault) (path : Path)
  | extractor (f : Extract.Fault)
  | markup (e : MarkupError)
  | timer (f : Reading.Fault)

def Raised.message : Raised → String
  | noHome e => e.message
  | settings e => e.message
  | crash c => c.message
  | file f path => f.message path.text
  | extractor f => f.message
  | markup e => e.message
  | timer f => f.message

/-- How a command ends before its end. -/
inductive Stop
  | refused
  | raised (r : Raised)

structure World where
  tree : Tree
  output : Text
  messages : Text
  events : List Event

/-- Something that a command does: it changes the world and may stop. -/
abbrev Job := ExceptT Stop (StateM World)

namespace Job

def raise {α : Type} (r : Raised) : Job α := throw (.raised r)

def orRaise {α ε : Type} (f : ε → Raised) : Except ε α → Job α
  | .ok a => pure a
  | .error e => raise (f e)

def log (es : List Event) : Job Unit := modify fun w => { w with events := w.events ++ es }

def logged {α : Type} (l : Logged α) : Job α := do
  log l.events
  return l.value

def echo (x : Context) (t : Text) : Job Unit :=
  modify fun w => { w with output := w.output ++ x.shown t }

def tell (t : Text) : Job Unit := modify fun w => { w with messages := w.messages ++ t }

/-- A message whose tags count. -/
def say (tone : Tone) (message : String) : Job Unit := do
  tell (← orRaise .markup (tone.say message.toList))

/-- A message whose tags are plain text. -/
def sayPlain (tone : Tone) (message : String) : Job Unit := do
  tell (← orRaise .markup (tone.say (escape message.toList)))

def refuse {α : Type} (tone : Tone) (message : String) : Job α := do
  sayPlain tone message
  throw .refused

end Job

open Job

/-! ### Steps -/

variable (x : Context)

def configPath (config : Option Path) : Job Path :=
  orRaise .noHome (x.environment.configPath ((config.map Path.text).getD []))

def loadConfig (config : Option Path) : Job Config := do
  let path ← configPath x config
  let s ← logged (← orRaise .settings (Settings.load (← get).tree path))
  if (← get).tree.holds path matches .ok false then
    say .warning s!"No config found at {path.string}; using defaults."
  for key in ← orRaise .crash s.unknownKeys do
    sayPlain .warning s!"Unknown key purge.{key.string} in {path.string} is ignored."
  match ← logged (s.config x.catalogue []) with
  | .ok c => return c
  | .error (.crash c) => raise (.crash c)
  | .error e =>
    log [.configRejected e.message]
    refuse .error e.message

/-- A path as the program sees it from where it was started. -/
def seen (p : Path) : Path := x.environment.here.join p

/-- The text of a file with its line ends unified, or why it cannot be read. -/
def readText (p : Path) : Job (Except String Text) := do
  match (← get).tree.read (seen x p) with
  | .error .endMark => raise (.file .endMark p)
  | .error f => return .error (f.message p.text)
  | .ok bs =>
    match bs.decode with
    | .error e => return .error e.message
    | .ok t => return .ok t.unifyLineEnds

def readStylesheet (p : Path) : Job Text := do
  match ← readText x p with
  | .ok t => return t
  | .error cause => refuse .error s!"Failed to read {p.string}: {cause}"

/-- The run after the sources have been read, and what they held. -/
def analyzed (c : Config) : Job (Run × List SourceFile) := do
  let root := x.environment.root
  let sources ← orRaise (fun f => .file f root) (Sources.ofTree (← get).tree root c)
  logged (Run.start.analyze c sources x.started)

/-! ### Commands -/

def runInit (config : Option Path) (force : Bool) : Job Unit := do
  let path ← configPath x config
  match Settings.writeDefault (← get).tree path force with
  | .ok l =>
    let tree ← logged l
    modify fun w => { w with tree := tree }
    say .success s!"Created {path.string}"
  | .error e =>
    modify fun w => { w with tree := Settings.leftAfter w.tree path force }
    match e with
    | .alreadyThere _ | .fault .alreadyThere _ =>
      say .warning s!"{e.message} (use --force to overwrite)"
      throw .refused
    | .fault f p => raise (.file f p)

def tellReport (r : Report) (json : Bool) : Job Unit := do
  tell (← if json then pure (r.jsonText ++ ['\n']) else orRaise .markup r.printed)

/-- The path under which the program named `q`, which it sees on the way to `p`. -/
def named (p q : Path) : Path :=
  if p.isAbsolute then q else ⟨[], q.parts.drop x.environment.here.parts.length⟩

def writeStylesheet (p : Path) (before : Nat) (t : Text) : Job Unit := do
  match Settings.writeFile (← get).tree (seen x p) (Bytes.ofText t) with
  | .ok tree => modify fun w => { w with tree := tree }
  | .error e =>
    modify fun w => { w with tree := (w.tree.make (seen x p).parent).1 }
    match e with
    | .fault f q => raise (.file f (named x p q))
    | .alreadyThere q => raise (.file .alreadyThere (named x p q))
  say .success s!"Wrote {p.string} ({before} → {t.length} chars)"

def runPurge (stylesheet : Path) (output config : Option Path) (json quiet : Bool) :
    Job Unit := do
  let c ← loadConfig x config
  let css ← readStylesheet x stylesheet
  let (run, files) ← analyzed x c
  let (run, purged) ← logged (run.purge c css)
  log [.stylesheetPurged stylesheet.string css.length purged.length]
  match output with
  | none => echo x purged
  | some p => writeStylesheet x p css.length purged
  if !quiet then tellReport (← orRaise .timer (run.report c files x.finished)) json

def runReport (stylesheet : Path) (config : Option Path) (json : Bool) : Job Unit := do
  let c ← loadConfig x config
  let css ← readStylesheet x stylesheet
  let (run, files) ← analyzed x c
  let run ← if c.enabled then logged (run.collect css) else pure run
  let r ← orRaise .timer (run.report c files x.finished)
  if json then echo x (r.jsonText ++ ['\n']) else tellReport r false

def extractOne (c : Config) (p : Path) : Job Unit := do
  match ← readText x p with
  | .error cause => say .warning s!"Skipping {p.string}: {cause}"
  | .ok t =>
    let found := Extract.extractClasses c.extractors p t
    log (Extract.extractEvents p.string found)
    let classes ← orRaise .extractor found
    echo x (p.text ++ ':' :: ' ' :: Text.join [' '] classes ++ ['\n'])

def runExtract (files : List Path) (config : Option Path) : Job Unit := do
  let c ← loadConfig x config
  for p in files do extractOne x c p

def yesNo (b : Bool) : String := Text.string (Document.boolName b)

def runValidate (config : Option Path) : Job Unit := do
  let c ← loadConfig x config
  let listed (ts : List Text) : String := Text.string (Text.join [',', ' '] ts)
  let content := if (listed c.content).isEmpty then "(none)" else listed c.content
  say .info s!"enabled: {yesNo c.enabled}"
  say .info s!"content: {content}"
  say .info s!"safelist: {c.safelist.length} entries, blocklist: {c.blocklist.length} entries"
  let kept := s!"keyframes={yesNo c.keepKeyframes} fontFace={yesNo c.keepFontFace}"
  say .info s!"{kept} variables={yesNo c.keepCustomProperties}"
  let suffixes := (TextSet.ofList (c.extractors.entries.map Prod.fst)).toList
  if !suffixes.isEmpty then say .info s!"custom extractors: {listed suffixes}"
  let file ← orRaise .noHome x.environment.logFile
  say .info s!"log file: {file.string}"
  say .success "Config OK."

def act : Command → Job Unit
  | init config force => runInit x config force
  | purge stylesheet output config json quiet => runPurge x stylesheet output config json quiet
  | report stylesheet config json => runReport x stylesheet config json
  | extract files config => runExtract x files config
  | validate config => runValidate x config

structure Ended where
  world : World
  exitCode : Nat
  raised : Option Raised

def paths : Command → List Path
  | init config _ | validate config => config.toList
  | purge stylesheet output config _ _ => stylesheet :: output.toList ++ config.toList
  | report stylesheet config _ => stylesheet :: config.toList
  | extract files config => files ++ config.toList

/-- Paths that no system can follow are not taken. -/
def checkPaths (c : Command) : Job Unit := do
  for p in c.paths do
    if p.text.contains '\x00' then raise (.file .endMark p)

def run (c : Command) (tree : Tree) : Ended :=
  match (do c.checkPaths; c.act x : Job Unit).run ⟨tree, [], [], []⟩ with
  | (.ok _, w) => ⟨w, 0, none⟩
  | (.error .refused, w) => ⟨w, 1, none⟩
  | (.error (.raised r), w) => ⟨w, 1, some r⟩

end Command

end ClassPurge
