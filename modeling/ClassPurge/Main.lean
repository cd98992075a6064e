import ClassPurge.Command.Arguments

/-!
The command line. Everything below the folder in which the program is started is read before a
command is carried out; what the command has written is stored after it.
-/

namespace ClassPurge.Main

open Files

/-- Reads what lies in a folder, given by its entries, and in the folders inside it. -/
partial def readFolder (t : Tree) (place : Place) (entries : Array IO.FS.DirEntry) : IO Tree := do
  let mut t := t
  for e in entries do
    let p := place ++ [e.fileName.toList]
    match ← e.path.readDir.toBaseIO with
    | .ok inner => t ← readFolder { t with made := p :: t.made } p inner
    | .error _ =>
      if let .ok bs ← (IO.FS.readBinFile e.path).toBaseIO then
        t := { t with files := (p, bs.toList) :: t.files }
  return t

/-- Stores the folders and files in which one tree differs from another. -/
def store (before after : Tree) : IO Unit := do
  for p in after.made do
    if !before.isFolder p then IO.FS.createDirAll (Path.string ⟨['/'], p⟩)
  for f in after.files do
    if before.file? f.1 != some f.2 then
      IO.FS.writeBinFile (Path.string ⟨['/'], f.1⟩) ⟨f.2.toArray⟩

/-- The home folders of the users that the system lists, a line for each of them. -/
def readUsers : IO (List (Text × Text)) := do
  match ← (IO.FS.readFile "/etc/passwd").toBaseIO with
  | .error _ => return []
  | .ok s =>
    return (Text.splitOn (· == '\n') s.toList).filterMap fun l =>
      match Text.splitOn (· == ':') l with
      | user :: _ :: _ :: _ :: _ :: home :: _ => some (user, home)
      | _ => none

def variableOr (name default : String) : IO Text := do
  return ((← IO.getEnv name).getD default).toList

def readEnvironment (here : Path) : IO Environment :=
  return ⟨here, here, ← variableOr "HOME" "/root", ← readUsers, ← variableOr "SHAKECSS_CONFIG" "",
    ← variableOr "SHAKECSS_LOG_DIR" "", ← variableOr "SHAKECSS_LOG_LEVEL" "DEBUG"⟩

def readTimer : IO Reading :=
  return .part (Binary64.ofQuotient false (← IO.monoNanosNow) 1000000000)

/-- Adds to the log what is severe enough for it. -/
def writeLog (e : Environment) (events : List Log.Event) : IO Unit := do
  let told := events.filter fun v => e.severity ≤ Log.severity v.level.name.toList
  match e.logsFolder, e.logFile with
  | .ok folder, .ok file =>
    if !told.isEmpty then
      IO.FS.createDirAll (e.here.join folder).resolve.string
      let h ← IO.FS.Handle.mk file.string .append
      for v in told do h.putStrLn s!"{v.level.name} | {v.channel.name} | {v.message}"
  | _, _ => return

def carryOut (c : Command) : IO UInt32 := do
  let started ← readTimer
  let folder ← IO.currentDir
  let here := Path.ofString folder.toString
  let tree ← readFolder ⟨[], [here.parts]⟩ here.parts (← folder.readDir)
  let e ← readEnvironment here
  let terminal ← (← IO.getStdout).isTty
  let ended := c.run ⟨e, .empty, terminal, started, ← readTimer⟩ tree
  store tree ended.world.tree
  IO.print ended.world.output.string
  IO.eprint ended.world.messages.string
  if let some r := ended.raised then IO.eprintln r.message
  writeLog e ended.world.events
  return UInt32.ofNat ended.exitCode

end ClassPurge.Main

open ClassPurge in
/-- Carries out the command that the words of the command line spell. -/
def main (words : List String) : IO UInt32 := do
  match Command.ofWords words with
  | .ok c => Main.carryOut c
  | .error e =>
    IO.eprintln e.message
    return 2
