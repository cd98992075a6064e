import ClassPurge.Command

/-!
Commands as they are typed. Options may stand anywhere behind the name of the command, in a long
spelling or with one letter; letters can be joined, and a value can follow its option directly.
Behind two hyphens everything is an argument. Of an option given twice the last value counts.
-/

namespace ClassPurge.Command

open Files (Path)

inductive UsageError
  | noCommand
  | unknownCommand (name : String)
  | unknownOption (name : String)
  | noValue (name : String)
  | unwantedValue (name : String)
  | noArgument
  | tooManyArguments
  deriving DecidableEq, Repr

def UsageError.message : UsageError → String
  | noCommand => "Missing command."
  | unknownCommand name => s!"No such command '{name}'."
  | unknownOption name => s!"No such option: {name}"
  | noValue name => s!"Option '{name}' requires an argument."
  | unwantedValue name => s!"Option '{name}' does not take a value."
  | noArgument => "Missing argument."
  | tooManyArguments => "Got unexpected extra argument."

inductive Switch
  | config
  | output
  | force
  | json
  | quiet
  deriving DecidableEq, Repr

namespace Switch

def all : List Switch := [config, output, force, json, quiet]

def long : Switch → String
  | config => "--config"
  | output => "--output"
  | force => "--force"
  | json => "--json"
  | quiet => "--quiet"

def letter? : Switch → Option Char
  | config => some 'c'
  | output => some 'o'
  | force => some 'f'
  | json => none
  | quiet => some 'q'

def takesValue : Switch → Bool
  | config | output => true
  | force | json | quiet => false

end Switch

/-- The arguments and options of one command. -/
structure Given where
  arguments : List String
  options : List (Switch × String)
  deriving DecidableEq, Repr

def Given.put (g : Given) (s : Switch) (v : String) : Given :=
  { g with options := (s, v) :: g.options }

def Given.argue (g : Given) (a : String) : Given := { g with arguments := a :: g.arguments }

/-- A word that begins with one hyphen: its letters, and what is left of them as a value. -/
def readLetters (allowed : List Switch) (g : Given) : Text → Except UsageError (Given × Option Switch)
  | [] => .ok (g, none)
  | c :: r =>
    match allowed.find? fun s => s.letter? == some c with
    | none => .error (.unknownOption s!"-{c}")
    | some s =>
      if !s.takesValue then readLetters allowed (g.put s "") r
      else if r.isEmpty then .ok (g, some s)
      else .ok (g.put s (String.ofList r), none)

/-- A word that begins with two hyphens. -/
def readLong (allowed : List Switch) (g : Given) (w : String) :
    Except UsageError (Given × Option Switch) :=
  let name := Text.string (w.toList.takeWhile (· != '='))
  let value := w.toList.drop (name.length + 1)
  let bound := name.length < w.length
  match allowed.find? fun s => s.long == name with
  | none => .error (.unknownOption name)
  | some s =>
    if s.takesValue then
      .ok (if bound then (g.put s (String.ofList value), none) else (g, some s))
    else if bound then .error (.unwantedValue name)
    else .ok (g.put s "", none)

/-- Reads the words behind the name of a command. An option may be waiting for its value. -/
def readWords (allowed : List Switch) (g : Given) (waiting : Option Switch) :
    List String → Except UsageError Given
  | [] =>
    match waiting with
    | some s => .error (.noValue s.long)
    | none => .ok { g with arguments := g.arguments.reverse }
  | w :: ws =>
    match waiting with
    | some s => readWords allowed (g.put s w) none ws
    | none =>
      match w.toList with
      | ['-', '-'] => .ok { g with arguments := g.arguments.reverse ++ ws }
      | '-' :: '-' :: _ => do
        let (g, waiting) ← readLong allowed g w
        readWords allowed g waiting ws
      | '-' :: c :: r => do
        let (g, waiting) ← readLetters allowed g (c :: r)
        readWords allowed g waiting ws
      | _ => readWords allowed (g.argue w) none ws

def Given.path? (g : Given) (s : Switch) : Option Path :=
  (g.options.find? fun o => o.1 == s).map fun o => Path.ofString o.2

def Given.has (g : Given) (s : Switch) : Bool := g.options.any fun o => o.1 == s

def Given.none (g : Given) : Except UsageError Unit :=
  if g.arguments.isEmpty then .ok () else .error .tooManyArguments

def Given.one (g : Given) : Except UsageError Path :=
  match g.arguments with
  | [a] => .ok (Path.ofString a)
  | [] => .error .noArgument
  | _ => .error .tooManyArguments

/-- The command that is typed as these words. -/
def ofWords : List String → Except UsageError Command
  | [] => .error .noCommand
  | name :: ws => do
    let given (allowed : List Switch) := readWords allowed ⟨[], []⟩ Option.none ws
    match name with
    | "init" =>
      let g ← given [.config, .force]
      g.none
      return .init (g.path? .config) (g.has .force)
    | "purge" =>
      let g ← given [.output, .config, .json, .quiet]
      return .purge (← g.one) (g.path? .output) (g.path? .config) (g.has .json) (g.has .quiet)
    | "report" =>
      let g ← given [.config, .json]
      return .report (← g.one) (g.path? .config) (g.has .json)
    | "extract" =>
      let g ← given [.config]
      if g.arguments.isEmpty then throw .noArgument
      return .extract (g.arguments.map Path.ofString) (g.path? .config)
    | "validate" =>
      let g ← given [.config]
      g.none
      return .validate (g.path? .config)
    | name => throw (.unknownCommand name)

end ClassPurge.Command
