import ClassPurge.Document
import ClassPurge.Number.Spelled

/-!
Checking values against the types that fields ask for. A check answers the value or everything
that is wrong with it, each with the way to it from the outermost value. Some spellings are
taken for what they obviously mean: `yes` for true, `"3"` for three.
-/

namespace ClassPurge.Check

inductive Problem
  | boolText
  | notBool
  | notList
  | notText
  /-- Bytes that are no text. -/
  | textBytes
  | intText
  | intSize
  | fraction
  | endless
  | notInt
  | belowZero
  | missing
  /-- No map where the fields of a record of some name are wanted. -/
  | notRecord (name : String)
  | notMap
  | notFunction
  | notPattern
  /-- Bytes where a pattern is wanted. -/
  | patternBytes
  /-- A rule of the field's own is broken. -/
  | rule (message : String)
  | assertion (message : String)
  deriving DecidableEq, Repr

namespace Problem

def code : Problem → String
  | boolText => "bool_parsing"
  | notBool => "bool_type"
  | notList => "list_type"
  | notText => "string_type"
  | textBytes => "string_unicode"
  | intText => "int_parsing"
  | intSize => "int_parsing_size"
  | fraction => "int_from_float"
  | endless => "finite_number"
  | notInt => "int_type"
  | belowZero => "greater_than_equal"
  | missing => "missing"
  | notRecord _ => "model_type"
  | notMap => "dict_type"
  | notFunction => "callable_type"
  | notPattern => "pattern_type"
  | patternBytes => "pattern_str_type"
  | rule _ => "value_error"
  | assertion _ => "assertion_error"

def message : Problem → String
  | boolText => "Input should be a valid boolean, unable to interpret input"
  | notBool => "Input should be a valid boolean"
  | notList => "Input should be a valid list"
  | notText => "Input should be a valid string"
  | textBytes => "Input should be a valid string, unable to parse raw data as a unicode string"
  | intText => "Input should be a valid integer, unable to parse string as an integer"
  | intSize => "Unable to parse input string as an integer, exceeded maximum size"
  | fraction => "Input should be a valid integer, got a number with a fractional part"
  | endless => "Input should be a finite number"
  | notInt => "Input should be a valid integer"
  | belowZero => "Input should be greater than or equal to 0"
  | missing => "Field required"
  | notRecord name => s!"Input should be a valid dictionary or instance of {name}"
  | notMap => "Input should be a valid dictionary"
  | notFunction => "Input should be callable"
  | notPattern => "Input should be a valid pattern"
  | patternBytes => "Input should be a string pattern"
  | rule m => s!"Value error, {m}"
  | assertion m => s!"Assertion failed, {m}"

/-- Whether the manual has a page on the problem. -/
def isExplained : Problem → Bool
  | notPattern | patternBytes => false
  | _ => true

end Problem

/-- A problem, the way to the value that has it, and that value. -/
structure Issue where
  loc : List String
  problem : Problem
  input : Document

/-- A value, or everything that is wrong with it. -/
abbrev Checked (α : Type) := Except (List Issue) α

def issues {α : Type} : Checked α → List Issue
  | .ok _ => []
  | .error is => is

def refuse {α : Type} (loc : List String) (p : Problem) (d : Document) : Checked α :=
  .error [⟨loc, p, d⟩]

/-- The value of a function, or everything that is wrong with the function and its argument. -/
def apply {α β : Type} (f : Checked (α → β)) (a : Checked α) : Checked β :=
  match f, a with
  | .ok f, .ok a => .ok (f a)
  | f, a => .error (issues f ++ issues a)

def all {α : Type} : List (Checked α) → Checked (List α)
  | [] => .ok []
  | c :: cs => apply (c.map List.cons) (all cs)

def smallLetters (t : Text) : String := Text.string (t.map Char.toLower)

def boolOfText? (t : Text) : Option Bool :=
  let s := smallLetters t
  if ["0", "off", "f", "false", "n", "no"].contains s then some false
  else if ["1", "on", "t", "true", "y", "yes"].contains s then some true
  else none

def isShort (i : Int) : Bool := -(Nat.pow 2 63 : Int) ≤ i && i < (Nat.pow 2 63 : Int)

/-- The whole number that equals `x`, if it has 64 bits; the least of them is left out. -/
def shortInt? (x : Binary64) : Option Int :=
  if x.isWhole && isShort x.toInt && x.toInt != -(Nat.pow 2 63 : Int) then some x.toInt else none

def boolOfInt (loc : List String) (i : Int) (d : Document) : Checked Bool :=
  if i = 0 then .ok false else if i = 1 then .ok true else refuse loc .boolText d

def boolOfText (loc : List String) (t : Text) (d : Document) : Checked Bool :=
  match boolOfText? t with
  | some b => .ok b
  | none => refuse loc .boolText d

def bool (loc : List String) (d : Document) : Checked Bool :=
  match d with
  | .bool b => .ok b
  | .text t => boolOfText loc t d
  | .bytes bs =>
    match bs.decode with
    | .ok t => boolOfText loc t d
    | .error _ => refuse loc .boolText d
  | .int i => if isShort i then boolOfInt loc i d else refuse loc .notBool d
  | .float x =>
    match shortInt? x with
    | some i => boolOfInt loc i d
    | none => refuse loc .notBool d
  | _ => refuse loc .notBool d

def int (loc : List String) (d : Document) : Checked Int :=
  match d with
  | .bool b => .ok (if b then 1 else 0)
  | .int i => .ok i
  | .float x =>
    if x.isInfinite then refuse loc .endless d
    else if !x.isWhole then refuse loc .fraction d
    else
      match shortInt? x with
      | some i => .ok i
      | none => refuse loc .intSize d
  | .notANumber => refuse loc .endless d
  | .text t =>
    match Spelled.field t with
    | .ok i => .ok i
    | .error (.tooLong _) => refuse loc .intSize d
    | .error .unreadable => refuse loc .intText d
  | _ => refuse loc .notInt d

def natural (loc : List String) (d : Document) : Checked Nat :=
  match int loc d with
  | .ok i => if i < 0 then refuse loc .belowZero d else .ok i.toNat
  | .error is => .error is

def text (loc : List String) (d : Document) : Checked Text :=
  match d with
  | .text t => .ok t
  | .bytes bs =>
    match bs.decode with
    | .ok t => .ok t
    | .error _ => refuse loc .textBytes d
  | _ => refuse loc .notText d

def list {α : Type} (f : List String → Document → Checked α) (loc : List String) (d : Document) :
    Checked (List α) :=
  match d.opened with
  | .list ds | .tuple ds | .set ds => all (ds.zipIdx.map fun (d, i) => f (loc ++ [toString i]) d)
  | _ => refuse loc .notList d

/-- The value of a field by `f`, or `default` if the field is not there. -/
def optional {α : Type} (f : List String → Document → Checked α) (default : α)
    (loc : List String) (name : String) (fields : List (Document × Document)) : Checked α :=
  match Document.entry? fields name.toList with
  | some d => f (loc ++ [name]) d
  | none => .ok default

def required {α : Type} (f : List String → Document → Checked α) (loc : List String)
    (name : String) (fields : List (Document × Document)) : Checked α :=
  match Document.entry? fields name.toList with
  | some d => f (loc ++ [name]) d
  | none => refuse (loc ++ [name]) .missing (.map fields)

def fields {α : Type} (name : String)
    (f : List String → List (Document × Document) → Checked α) (loc : List String) (d : Document) :
    Checked α :=
  match d.opened with
  | .map es => f loc es
  | _ => refuse loc (.notRecord name) d

def texts (loc : List String) (d : Document) : Checked (List Text) := list text loc d

/-! ### Telling it -/

def shownLimit : Nat := 50

def takeBytes : Nat → Text → Text
  | _, [] => []
  | n, c :: r => if c.utf8Size ≤ n then c :: takeBytes (n - c.utf8Size) r else []

/-- The beginning and the end of a long value stand for the whole. -/
def shorten (t : Text) : Text :=
  if takeBytes shownLimit t == t then t
  else takeBytes 25 t ++ ['.', '.', '.'] ++ (takeBytes 24 t.reverse).reverse

/-- A value as it is shown with what is wrong with it. -/
def shownInput (d : Document) : Text :=
  if d.isWritable then shorten d.display else s!"<unprintable {d.kind} object>".toList

/-- A step of a way, set off if it has points of its own. -/
def stepText (s : String) : String := if s.contains '.' then "`" ++ s ++ "`" else s

def Issue.lines (i : Issue) : List String :=
  let input := (shownInput i.input).string
  (if i.loc.isEmpty then [] else [".".intercalate (i.loc.map stepText)]) ++
    s!"  {i.problem.message} [type={i.problem.code}, input_value={input}, input_type={i.input.kind}]" ::
      if i.problem.isExplained then
        [s!"    For further information visit https://errors.pydantic.dev/2.14/v/{i.problem.code}"]
      else []

def summary (name : String) (is : List Issue) : String :=
  let noun := if is.length == 1 then "error" else "errors"
  "\n".intercalate (s!"{is.length} validation {noun} for {name}" :: is.flatMap Issue.lines)

end ClassPurge.Check
