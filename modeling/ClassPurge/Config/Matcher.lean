import ClassPurge.Pattern.Compiled

/-!
Entries of the safelist and the blocklist. An entry between slashes is a pattern, with letters
for its modes behind the second slash; any other entry is the class name itself.
-/

namespace ClassPurge

inductive Matcher
  | exact (name : Text)
  | pattern (p : Pattern)

namespace Matcher

/-- What stands between the first slash and the last, and what follows the last. -/
def slashed? (t : Text) : Option (Text × Text) :=
  match t with
  | '/' :: r =>
    let flags := (r.reverse.takeWhile (· != '/')).reverse
    if flags.length < r.length then some (r.take (r.length - flags.length - 1), flags) else none
  | _ => none

/-- The modes that the letters ask for; none if one of them is no mode. -/
def modes? (flags : Text) : Option Pattern.Modes :=
  flags.foldlM (fun (m : Pattern.Modes) c =>
    match c with
    | 'i' => some { m with ignoreCase := true }
    | 'm' => some { m with multiLine := true }
    | 's' => some { m with dotAll := true }
    | 'x' => some { m with verbose := true }
    | _ => none) Pattern.Modes.plain

inductive Error
  | badPattern (item : Text) (body : Text) (e : Pattern.Error)

def Error.message : Error → String
  | badPattern item body e =>
    if e.fault.isBare then e.message body
    else s!"invalid pattern {item.quoted.string}: {e.message body}"

def ofText (t : Text) : Except Error Matcher :=
  match slashed? t with
  | none => .ok (exact t)
  | some (body, flags) =>
    match modes? flags with
    | none => .ok (exact t)
    | some m =>
      match Pattern.ofText body m with
      | .ok p => .ok (pattern p)
      | .error e => .error (.badPattern t body e)

/-- Whether the entry stands for the class `name`. A pattern may match anywhere in it. -/
def accepts (m : Matcher) (name : Text) : Bool :=
  match m with
  | exact n => name == n
  | pattern p => p.occursIn name

end Matcher

def matchesAny (name : Text) (entries : List Matcher) : Bool := entries.any fun m => m.accepts name

@[simp] theorem matchesAny_nil (name : Text) : matchesAny name [] = false := rfl

@[simp] theorem matchesAny_cons (name : Text) (m : Matcher) (ms : List Matcher) :
    matchesAny name (m :: ms) = (m.accepts name || matchesAny name ms) := rfl

end ClassPurge
