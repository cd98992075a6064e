import ClassPurge.Log.Event

/-!
Levels and channels by name, as the surroundings ask for them.
-/

namespace ClassPurge.Log

/-- Letters made capital, with two that have no small form of their own. -/
def capital (c : Char) : Char :=
  if c == 'ı' then 'I' else if c == 'ſ' then 'S' else c.toUpper

/-- How severe the level of a name is. Everything is reported if there is no such level. -/
def severity (name : Text) : Nat :=
  match Text.string (name.map capital) with
  | "NOTSET" => 0
  | "DEBUG" => 10
  | "INFO" => 20
  | "WARN" | "WARNING" => 30
  | "ERROR" => 40
  | "CRITICAL" | "FATAL" => 50
  | _ => 10

/-- The channel under which all others lie. -/
def rootChannel : Text := "shakecss".toList

def qualified (name : Text) : Text :=
  if name == rootChannel || (rootChannel ++ ['.']).isPrefixOf name then name
  else rootChannel ++ '.' :: name

end ClassPurge.Log
