import ClassPurge.Text.Quoted

/-!
Extractors that a project brings along, and how a setting refers to one: by the name of a module
and, behind a colon, the name of a function in it.
-/

namespace ClassPurge.Extract

inductive Fault
  /-- It gave up, with a message of its own. -/
  | raised (message : String)
  /-- Its answer, of some kind, is no list. -/
  | noList (kind : String)
  /-- It takes no text. -/
  | noText (message : String)
  /-- It looks for an attribute that is not there. -/
  | noAttribute (message : String)
  deriving DecidableEq, Repr

def Fault.message : Fault → String
  | raised m | noText m | noAttribute m => m
  | noList kind => s!"'{kind}' object is not iterable"

structure Extractor where
  name : Text
  run : Text → Except Fault (List Text)

/-- The kinds of error with which the code of a module can give up. The first two are taken for
problems of the value that names the module. -/
inductive ErrorKind
  | value
  | assertion
  | other
  deriving DecidableEq, Repr

inductive Imported
  /-- The module is there, and these are its own functions. -/
  | functions (fs : List Extractor)
  /-- The module cannot be imported, and this is said to be the cause. -/
  | missing (cause : Text)
  /-- The code of the module gives up. -/
  | raised (kind : ErrorKind) (message : String)

/-- What comes of importing any module, by its dotted name. -/
structure Catalogue where
  load : Text → Imported

inductive ResolveError
  | noColon (ref : Text)
  | noModule (module cause : Text)
  | noFunction (ref : Text)
  /-- The module name begins with a dot, and there is nothing it could be relative to. -/
  | relative (module : Text)
  | raised (kind : ErrorKind) (message : String)
  deriving DecidableEq, Repr

def ResolveError.message : ResolveError → String
  | noColon ref => s!"extractor {ref.quoted.string} must look like 'package.module:function'"
  | noModule module cause => s!"cannot import extractor module {module.quoted.string}: {cause.string}"
  | noFunction ref => s!"extractor {ref.quoted.string} is not a callable"
  | relative module =>
    s!"the 'package' argument is required to perform a relative import for {module.quoted.string}"
  | raised _ message => message

/-- Whether the error is told of as a problem of the reference. Any other ends the run. -/
def ResolveError.isTold : ResolveError → Bool
  | relative _ | raised .other _ => false
  | _ => true

/-- The dotted names that end at a dot of `module` or at its end, shortest first. -/
def dottedPrefixes (module : Text) : List Text :=
  (List.range (module.length + 1)).filterMap fun i =>
    if i == module.length || module[i]? == some '.' then some (module.take i) else none

/-- The dotted names of the packages around `module`, outermost first. -/
def packagesAround (module : Text) : List Text := (dottedPrefixes module).dropLast

/-- These modules and no others, by their dotted names. A module is a package if there are modules
inside, and the packages around a module are imported before it. -/
def Catalogue.ofModules (modules : List (Text × List Extractor)) : Catalogue where
  load module :=
    let names := modules.map Prod.fst
    match (dottedPrefixes module).find? fun m => !names.contains m with
    | none => .functions ((modules.lookup module).getD [])
    | some m =>
      let cause := "No module named ".toList ++ m.quoted
      match (packagesAround m).getLast? with
      | none => .missing cause
      | some p =>
        if names.any fun n => (packagesAround n).contains p then .missing cause
        else .missing (cause ++ "; ".toList ++ p.quoted ++ " is not a package".toList)

def Catalogue.empty : Catalogue := .ofModules []

/-! ### Simple extractors -/

namespace Extractor

/-- The pieces between single spaces, empty ones among them. -/
def spaced (name : Text) : Extractor := ⟨name, fun t => .ok (t.splitOn (· == ' '))⟩

def lined (name : Text) : Extractor := ⟨name, fun t => .ok (t.splitOn (· == '\n'))⟩

def silent (name : Text) : Extractor := ⟨name, fun _ => .ok []⟩

def failing (name : Text) (f : Fault) : Extractor := ⟨name, fun _ => .error f⟩

end Extractor

/-- What every module has besides its functions, by its name in the module. Most of it takes no
text, and none of it answers with a list. -/
def inherent (module : Text) : List (Text × Extractor) :=
  let failing (fault : String → Fault) (names : List String) : List (Text × Extractor) :=
    names.map fun n => (n.toList, .failing n.toList (fault n))
  let missing (frame : Text → String) (name : String) : Text × Extractor :=
    (name.toList, ⟨name.toList, fun t => .error (.noAttribute (frame t.quoted))⟩)
  failing (fun _ => .noList "NoneType") ["__init__"] ++
  failing (fun _ => .noList "NotImplementedType")
    ["__eq__", "__ge__", "__gt__", "__le__", "__lt__", "__ne__", "__subclasshook__"] ++
  failing (fun _ => .noText "expected 0 arguments, got 1") ["__hash__", "__repr__", "__str__"] ++
  failing (fun n => .noText s!"{n}() takes no arguments (1 given)")
    ["__dir__", "__getstate__", "__reduce__", "__sizeof__"] ++
  failing (fun n => .noText s!"module.{n}() takes no arguments (1 given)") ["__init_subclass__"] ++
  failing (fun n => .noText s!"module.{n}(X): X is not a type object (str)") ["__new__"] ++
  failing (fun _ => .noText "'str' object cannot be interpreted as an integer") ["__reduce_ex__"] ++
  failing (fun _ => .noText " expected 2 arguments, got 1") ["__setattr__"] ++
  failing (fun n => .noText s!"unsupported format string passed to module.{n}") ["__format__"] ++
  [missing (fun a => s!"'module' object has no attribute {a.string}") "__delattr__",
    missing (fun a => s!"module {module.quoted.string} has no attribute {a.string}")
      "__getattribute__",
    ("__class__".toList, .failing "module".toList (.noList "module"))]

def Catalogue.resolve (c : Catalogue) (ref : Text) : Except ResolveError Extractor :=
  match Text.cut? (· == ':') ref with
  | none => .error (.noColon ref)
  | some (module, _, function) =>
    if module.isEmpty || function.isEmpty then .error (.noColon ref)
    else if module.head? == some '.' then .error (.relative module)
    else
      match c.load module with
      | .missing cause => .error (.noModule module cause)
      | .raised kind message => .error (.raised kind message)
      | .functions functions =>
        match (functions.find? fun f => f.name == function).or
            ((inherent module).lookup function) with
        | some f => .ok f
        | none => .error (.noFunction ref)

end ClassPurge.Extract
