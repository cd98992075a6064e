import ClassPurge.Yaml.Tag

/-!
The tokens of a text. Indentation opens and closes blocks. A word can turn out to be the key of an
entry by the colon behind it; the place before it is remembered until then, and no token from
there on is settled.
-/

namespace ClassPurge.Yaml

inductive Token
  | directive (d : Directive)
  | documentStart
  | documentEnd
  | listStart
  | mapStart
  | blockEnd
  | entry
  | key
  | value
  | openList
  | closeList
  | openMap
  | closeMap
  | comma
  | anchor (name : Text)
  | tag (handle : Option Text) (name : Text)
  | reference (name : Text)
  /-- A scalar, and whether it stands without quotes. -/
  | scalar (plain : Bool) (t : Text)
  | textEnd
  deriving DecidableEq, Repr

/-- A place at which a key may have begun, with the number of tokens before it. -/
structure KeyPlace where
  tokens : Nat
  /-- Whether nothing but a key can stand here. -/
  required : Bool
  cursor : Cursor

structure Scanner where
  cursor : Cursor
  tokens : List Token
  /-- How many brackets are open. -/
  flow : Nat
  /-- The indentations of the open blocks, the innermost first. -/
  indents : List Nat
  /-- Whether a key may begin here. -/
  allowed : Bool
  /-- The places of possible keys, by the number of open brackets. -/
  places : List (Nat × KeyPlace)

namespace Scanner

def start (t : Text) : Scanner := ⟨.ofText t, [], 0, [], true, []⟩

def column (s : Scanner) : Nat := s.cursor.column

/-- The indentation of the innermost block; below nought outside all of them. -/
def indent (s : Scanner) : Int :=
  match s.indents with
  | i :: _ => i
  | [] => -1

def emit (s : Scanner) (t : Token) : Scanner := { s with tokens := s.tokens ++ [t] }

def skip (s : Scanner) (n : Nat) : Scanner := { s with cursor := s.cursor.forward n }

/-- Passes over blanks, comments and breaks. Outside brackets a key may begin on a new line. -/
def toNextToken : Nat → Scanner → Scanner
  | 0, s => s
  | n + 1, s =>
    let c := s.cursor.skipBlanks
    let c := if c.peek == some '#' then c.skipWhile fun d => !isBreak d else c
    if c.atBreak then
      toNextToken n { s with cursor := c.step, allowed := s.allowed || s.flow == 0 }
    else { s with cursor := c }

/-- Places on other lines, or too far back, are no keys. -/
def dropStale (s : Scanner) : Except Fault Scanner :=
  let isStale (p : KeyPlace) : Bool :=
    p.cursor.line != s.cursor.line || s.cursor.index - p.cursor.index > 1024
  if s.places.any fun p => isStale p.2 && p.2.required then .error .noColon
  else .ok { s with places := s.places.filter fun p => !isStale p.2 }

def unwind (s : Scanner) (column : Int) : Scanner :=
  if s.flow == 0 then
    let closed := s.indents.takeWhile fun (i : Nat) => decide (column < i)
    { s with
      indents := s.indents.drop closed.length
      tokens := s.tokens ++ closed.map fun _ => .blockEnd }
  else s

def forget (s : Scanner) : Except Fault Scanner :=
  if s.places.any fun p => p.1 == s.flow && p.2.required then .error .noColon
  else .ok { s with places := s.places.filter fun p => p.1 != s.flow }

def remember (s : Scanner) : Except Fault Scanner :=
  if s.allowed then do
    let required := s.flow == 0 && s.indent == s.column
    let s ← s.forget
    return { s with places := (s.flow, ⟨s.tokens.length, required, s.cursor⟩) :: s.places }
  else .ok s

def openBlock (s : Scanner) (column : Nat) (t : Token) : Scanner :=
  if s.flow == 0 && s.indent < column then { s.emit t with indents := column :: s.indents } else s

/-! ### Tokens -/

def openBracket (s : Scanner) (t : Token) : Except Fault Scanner := do
  let s ← s.remember
  return { (s.emit t).skip 1 with flow := s.flow + 1, allowed := true }

def closeBracket (s : Scanner) (t : Token) : Except Fault Scanner := do
  let s ← s.forget
  return { (s.emit t).skip 1 with flow := s.flow - 1, allowed := false }

def readComma (s : Scanner) : Except Fault Scanner := do
  let s ← s.forget
  return { (s.emit .comma).skip 1 with allowed := true }

def readEntry (s : Scanner) : Except Fault Scanner := do
  if s.flow == 0 && !s.allowed then throw .entryHere
  let s ← (s.openBlock s.column .listStart).forget
  return { (s.emit .entry).skip 1 with allowed := true }

def readKey (s : Scanner) : Except Fault Scanner := do
  if s.flow == 0 && !s.allowed then throw .keyHere
  let s ← (s.openBlock s.column .mapStart).forget
  return { (s.emit .key).skip 1 with allowed := s.flow == 0 }

def insertAt (n : Nat) (new ts : List Token) : List Token := ts.take n ++ new ++ ts.drop n

/-- A colon. Behind a possible key it makes it one, and the map that it is the first key of. -/
def readValue (s : Scanner) : Except Fault Scanner := do
  match s.places.find? fun p => p.1 == s.flow with
  | some (_, p) =>
    let column := p.cursor.column
    let opens := s.flow == 0 && s.indent < column
    let new : List Token := if opens then [.mapStart, .key] else [.key]
    let s := { s with
      places := s.places.filter fun p => p.1 != s.flow
      tokens := insertAt p.tokens new s.tokens
      indents := if opens then column :: s.indents else s.indents
      allowed := false }
    return (s.emit .value).skip 1
  | none =>
    if s.flow == 0 && !s.allowed then throw .valueHere
    let s ← (s.openBlock s.column .mapStart).forget
    return { (s.emit .value).skip 1 with allowed := s.flow == 0 }

/-- What may stand right behind the name of an anchor. -/
def endsName (d : Option Char) : Bool :=
  endsWord d || d.any fun c => ['?', ':', ',', ']', '}', '%', '@', '\x60'].contains c

def readName (s : Scanner) (t : Text → Token) : Except Fault Scanner := do
  let s ← s.remember
  let name := s.cursor.step.rest.takeWhile Cursor.isNameChar
  let c := s.cursor.forward (name.length + 1)
  if name.isEmpty || !endsName c.peek then throw .badAnchor
  return { s.emit (t name) with cursor := c, allowed := false }

def readTag (s : Scanner) : Except Fault Scanner := do
  let s ← s.remember
  let (h, name, c) ← s.cursor.tag
  return { s.emit (.tag h name) with cursor := c, allowed := false }

def readQuoted (s : Scanner) (q : Char) : Except Stop Scanner := do
  let s ← s.remember.mapError .fault
  let (t, c) ← s.cursor.quoted q
  return { s.emit (.scalar false t) with cursor := c, allowed := false }

def readBlock (s : Scanner) (folding : Bool) : Except Fault Scanner := do
  let s ← s.forget
  let (t, c) ← s.cursor.block folding s.indent
  return { s.emit (.scalar false t) with cursor := c, allowed := true }

def readPlain (s : Scanner) : Except Fault Scanner := do
  let s ← s.remember
  let (t, c, broken) := s.cursor.plain (s.flow != 0) (s.indent + 1)
  return { s.emit (.scalar true t) with cursor := c, allowed := broken }

def readMarker (s : Scanner) (t : Token) : Except Fault Scanner := do
  let s ← (s.unwind (-1)).forget
  return { (s.emit t).skip 3 with allowed := false }

def readDirective (s : Scanner) : Except Stop Scanner := do
  let s ← (s.unwind (-1)).forget.mapError .fault
  let (d, c) ← s.cursor.directive
  return { s.emit (.directive d) with cursor := c, allowed := false }

/-- Characters that begin something other than a plain scalar, wherever they stand. -/
def isSign (c : Char) : Bool :=
  [',', '[', ']', '{', '}', '#', '&', '*', '!', '|', '>', '\'', '"', '%', '@', '\x60'].contains c

def startsPlain (s : Scanner) (c : Char) : Bool :=
  if c == '-' then !endsWord (s.cursor.ahead 1)
  else if c == '?' || c == ':' then s.flow == 0 && !endsWord (s.cursor.ahead 1)
  else !isSign c

/-- The next token, which begins with `c` and has neither quotes nor a percent sign. -/
def readOther (s : Scanner) (c : Char) : Except Fault Scanner :=
  let wordEnds := endsWord (s.cursor.ahead 1)
  if s.column == 0 && s.cursor.atMarker then
    s.readMarker (if c == '-' then .documentStart else .documentEnd)
  else
    match c with
    | '[' => s.openBracket .openList
    | '{' => s.openBracket .openMap
    | ']' => s.closeBracket .closeList
    | '}' => s.closeBracket .closeMap
    | ',' => s.readComma
    | '*' => s.readName .reference
    | '&' => s.readName .anchor
    | '!' => s.readTag
    | _ =>
      if c == '-' && wordEnds then s.readEntry
      else if c == '?' && (s.flow != 0 || wordEnds) then s.readKey
      else if c == ':' && (s.flow != 0 || wordEnds) then s.readValue
      else if (c == '|' || c == '>') && s.flow == 0 then s.readBlock (c == '>')
      else if s.startsPlain c && c != '\t' then s.readPlain
      else .error (.badStart c)

def readToken (s : Scanner) (c : Char) : Except Stop Scanner :=
  if c == '%' && s.column == 0 then s.readDirective
  else if c == '\'' || c == '"' then s.readQuoted c
  else (s.readOther c).mapError .fault

def readNext (s : Scanner) : Except Stop (Scanner × Bool) := do
  let s ← (s.toNextToken (s.cursor.rest.length + 1)).dropStale.mapError .fault
  match s.cursor.peek with
  | none =>
    let s ← (s.unwind (-1)).forget.mapError .fault
    return (s.emit .textEnd, true)
  | some c => return (← (s.unwind s.column).readToken c, false)

/-- The tokens before the first place at which a key may still have begun. -/
def settled (s : Scanner) : List Token :=
  let places := match s.dropStale with
    | .ok s => s.places
    | .error _ => s.places
  s.tokens.take (places.foldl (fun n p => min n p.2.tokens) s.tokens.length)

/-- Reads all tokens; those that are settled when the reading stops, and why it stops before the
end. -/
def readAll : Nat → Scanner → List Token × Option Stop
  | 0, s => (s.settled, some (.fault .exhausted))
  | n + 1, s =>
    match s.readNext with
    | .error e => (s.settled, some e)
    | .ok (s, true) => (s.tokens, none)
    | .ok (s, false) => readAll n s

end Scanner

def isPrintable (c : Char) : Bool :=
  [0x9, 0xa, 0xd, 0x85].contains c.toNat || (0x20 ≤ c.toNat && c.toNat ≤ 0x7e) ||
    (0xa0 ≤ c.toNat && c.toNat ≤ 0xfffd) || 0x10000 ≤ c.toNat

/-- The tokens of a text as far as it can be read; a byte order mark that begins it is passed
over. -/
def tokens (t : Text) : List Token × Option Stop :=
  match t.find? fun c => !isPrintable c with
  | some c => ([], some (.fault (.unprintable c)))
  | none =>
    let t := if t.head? == some '\ufeff' then t.drop 1 else t
    Scanner.readAll (t.length + 2) (.start t)

end ClassPurge.Yaml
