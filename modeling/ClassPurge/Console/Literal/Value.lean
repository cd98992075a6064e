import ClassPurge.Console.Literal.Token
import ClassPurge.Text.Named

/-!
What is known of an expression: its family, as messages name it, and the kind of value that it
spells, if it spells one.
-/

namespace ClassPurge.Console.Literal

/-- The kinds of values, as far as it matters where they may stand. -/
inductive Kind
  /-- A number, and whether it has no sign of its own. -/
  | number (imaginary bare : Bool)
  | fixed
  /-- What cannot be a key. -/
  | unhashable (kind : String)
  deriving DecidableEq, Repr

structure Term where
  family : String
  value : Except Fault Kind
  /-- The name that the expression is, if it is one. -/
  name : Option Text
  /-- Whether it binds less than the signs between bits do. -/
  loose : Bool

namespace Term

def other (family : String) : Term := ⟨family, .error .malformed, none, false⟩

def loosely (family : String) : Term := { other family with loose := true }

def constant (family : String) : Term := ⟨family, .ok .fixed, none, false⟩

def ofName (t : Text) : Term := { other "name" with name := some t }

/-- The kind of a list of values: all of them have to be values, and one that cannot be a key
makes a tuple that cannot. -/
def tupled (ts : List Term) : Except Fault Kind := do
  let kinds ← ts.mapM fun t => t.value
  return (kinds.find? fun s =>
    match s with
    | .unhashable _ => true
    | _ => false).getD .fixed

def tuple (ts : List Term) : Term := ⟨"tuple", tupled ts, none, false⟩

def asKey (t : Term) : Except Fault Unit := do
  match ← t.value with
  | .unhashable kind => throw (.unhashable kind)
  | _ => return ()

def set (ts : List Term) : Term :=
  let value : Except Fault Kind := do
    ts.forM asKey
    return .unhashable "set"
  ⟨"set display", value, none, false⟩

/-- A map; an entry without a key is another map taken apart. -/
def map (es : List (Option Term × Term)) : Term :=
  let value : Except Fault Kind := do
    es.forM fun (k, v) => do
      match k with
      | none => throw .unpacked
      | some k =>
        let _ ← k.value
        let _ ← v.value
        k.asKey
    return .unhashable "dict"
  ⟨"dict literal", value, none, false⟩

def signed (sign : String) (t : Term) : Term :=
  match t.value with
  | .ok (.number imaginary true) =>
    if sign == "~" then other "expression"
    else ⟨"expression", .ok (.number imaginary false), none, false⟩
  | _ => other "expression"

def combined (sign : String) (a b : Term) : Term :=
  match a.value, b.value with
  | .ok (.number false _), .ok (.number true true) =>
    if sign == "+" || sign == "-" then constant "expression" else other "expression"
  | _, _ => other "expression"

/-- A call; that of the empty set is a value. -/
def call (f : Term) (noArguments : Bool) : Term :=
  if noArguments && f.name == some "set".toList then
    ⟨"function call", .ok (.unhashable "set"), none, false⟩
  else other "function call"

end Term

/-! ### Texts -/

/-- How many bytes a character takes where escapes are counted. -/
def escapeWidth (c : Char) : Nat := if c.toNat < 128 then 1 else 10

def checkEscapes (i : Nat) : Nat → Text → Except Fault Unit
  | 0, _ | _, [] => .ok ()
  | n + 1, '\\' :: c :: r =>
    let digits (count : Nat) (name : String) : Except Fault Unit :=
      let ds := (r.take count).takeWhile isHexDigit
      if ds.length < count then
        .error (.badEscape i (i + 2 + ds.length) s!"truncated \\{name} escape")
      else if 0x10ffff < Spelled.ofDigits 16 (ds.filterMap Spelled.digit?) then
        .error (.badEscape i (i + 10) "illegal Unicode character")
      else checkEscapes (i + 2 + count) n (r.drop count)
    if 127 < c.toNat then checkEscapes (i + 6) n (c :: r)
    else if c == 'x' then digits 2 "xXX"
    else if c == 'u' then digits 4 "uXXXX"
    else if c == 'U' then digits 8 "UXXXXXXXX"
    else if c == 'N' then
      match r with
      | '\x7b' :: s =>
        let name := s.takeWhile (· != '\x7d')
        let width := name.foldl (fun k c => k + escapeWidth c) 0
        match s.drop name.length with
        | [] => .error (.badEscape i (i + 3 + width) "malformed \\N character escape")
        | _ :: rest =>
          if name.isEmpty then .error (.badEscape i (i + 3) "malformed \\N character escape")
          else
            match Text.named? name with
            | some _ => checkEscapes (i + 4 + width) n rest
            | none => .error (.badEscape i (i + 4 + width) "unknown Unicode character name")
      | _ => .error (.badEscape i (i + 2) "malformed \\N character escape")
    else checkEscapes (i + 2) n r
  | n + 1, c :: r => checkEscapes (i + escapeWidth c) n r

def checkByteEscapes (i : Nat) : Nat → Text → Except Fault Unit
  | 0, _ | _, [] => .ok ()
  | n + 1, '\\' :: 'x' :: r =>
    if ((r.take 2).takeWhile isHexDigit).length < 2 then .error (.badByteEscape i)
    else checkByteEscapes (i + 4) n (r.drop 2)
  | n + 1, '\\' :: _ :: r => checkByteEscapes (i + 2) n r
  | n + 1, _ :: r => checkByteEscapes (i + 1) n r

/-- Texts side by side, each the letters before its quotes and what stands between them. -/
def Term.ofTexts (ts : List (Text × Text)) : Except Fault Term := do
  let has (t : Text × Text) (c : Char) : Bool := t.1.any fun d => d.toLower == c
  let isBytes := (ts.head?.any fun t => has t 'b')
  ts.forM fun t => do
    if has t 'b' then
      if t.2.any fun c => 127 < c.toNat then throw .noByte
      if !has t 'r' then checkByteEscapes 0 t.2.length t.2
    else if !has t 'r' && !has t 'f' then checkEscapes 0 t.2.length t.2
    if has t 'b' != isBytes then throw .mixedTexts
  if ts.any fun t => has t 'f' then return .other "f-string expression"
  return .constant "literal"

def Term.ofNumber (imaginary : Bool) (t : Text) : Except Fault Term :=
  let count := (t.filter Char.isDigit).length
  if t.all (fun c => c.isDigit || c == '_') && Spelled.sizeLimit < count then
    .error (.hugeNumber count)
  else .ok ⟨"literal", .ok (.number imaginary true), none, false⟩

end ClassPurge.Console.Literal
