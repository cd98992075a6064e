import ClassPurge.Files.Path
import ClassPurge.Log.Destination

/-!
What the surroundings of a run say: where the project lies, and where its settings and its log
are to be found. Everything is taken against the root of the project.
-/

namespace ClassPurge

open Files (Path)

structure Environment where
  /-- The folder in which the program was started. -/
  here : Path
  /-- The root of the project. -/
  root : Path
  home : Text
  /-- The home folders of the users that are known. -/
  users : List (Text × Text)
  /-- Where the settings are; nothing counts as unset. -/
  config : Text
  /-- Where the log goes; nothing counts as unset. -/
  logFolder : Text
  /-- The least level that is logged. -/
  logLevel : Text

namespace Environment

/-- A tilde that no home folder stands for. -/
inductive NoHome
  | noHome
  deriving DecidableEq, Repr

def NoHome.message : NoHome → String
  | noHome => "Could not determine home directory."

/-- The home folder of a user, or of the one who runs the program, without slashes at its end. -/
def homeOf? (e : Environment) (user : Text) : Option Text :=
  let home := if user.isEmpty then some e.home else (e.users.find? fun u => u.1 == user).map Prod.snd
  home.map fun h =>
    let kept := (h.reverse.dropWhile Path.isSlash).reverse
    if kept.isEmpty then ['/'] else kept

/-- The path with the tilde that begins it, and the name of a user behind it, replaced by the home
folder. -/
def expandHome (e : Environment) (p : Path) : Except NoHome Path :=
  match p.root, p.parts with
  | [], ('~' :: user) :: rest =>
    match e.homeOf? user with
    | some ('~' :: _) | none => .error .noHome
    | some h =>
      let home := Path.ofText h
      .ok { home with parts := home.parts ++ rest }
  | _, _ => .ok p

def withRoot (e : Environment) (root : Text) : Environment :=
  { e with root := (e.here.join (Path.ofText root)).resolve }

def stateFolderName : Text := ".shakecss".toList

def configName : Text := "shakecss.yml".toList

def logName : Text := "shakecss.log".toList

def stateFolder (e : Environment) : Path := e.root.child stateFolderName

/-- Where the log goes. -/
def logsFolder (e : Environment) : Except NoHome Path :=
  if e.logFolder.isEmpty then .ok (e.stateFolder.child "logs".toList)
  else e.expandHome (Path.ofText e.logFolder)

def logFile (e : Environment) : Except NoHome Path :=
  e.logsFolder.map fun p => (e.here.join p).resolve.child logName

/-- Where the settings are: at the path asked for, else where the surroundings say, else in the
root of the project. -/
def configPath (e : Environment) (explicit : Text) : Except NoHome Path :=
  let raw := if explicit.isEmpty then e.config else explicit
  if raw.isEmpty then .ok (e.root.child configName)
  else (e.expandHome (Path.ofText raw)).map e.root.join

def severity (e : Environment) : Nat := Log.severity e.logLevel

end Environment

end ClassPurge
