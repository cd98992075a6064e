import ClassPurge.Number.Spelled
import ClassPurge.Text.Identifier
import ClassPurge.Text.Printable
import ClassPurge.Text.Utf8

/-!
The tokens of the values that a tag is called with: names, numbers, texts in quotes, and signs.
Brackets have to be paired. One that stays open to the end is only found out where the end is
asked for, and so is a backslash that ends no line.
-/

namespace ClassPurge.Console.Literal

inductive Fault
  | invalid
  | missingComma
  | missingElse
  | missingParentheses (name : Text)
  | neverClosed (c : Char)
  | unmatched (c : Char)
  | mismatched (close opening : Char) (line : Option Nat)
  | tooNested
  | unterminated (tripled : Bool) (line : Nat)
  | badNumber (kind : String)
  | badDigit (c : Char) (kind : String)
  | leadingNoughts
  | hugeNumber (digits : Nat)
  | badCharacter (c : Char)
  | hiddenCharacter (c : Char)
  | afterBackslash
  | unexpectedEnd
  /-- An escape in a text that cannot be read, from and to. -/
  | badEscape (start stop : Nat) (reason : String)
  | badByteEscape (start : Nat)
  | noByte
  | mixedTexts
  | starredHere
  | doubleStarredHere
  | starredValue
  | starredComprehension
  | doubleStarredComprehension
  | notNamed (family : String)
  | maybeEqual
  | notAssignable (family : String)
  | constantAssigned (name : Text)
  | assignedArgument
  | noValue
  | noColon
  | afterKeyword
  | afterUnpacking
  | starAfterUnpacking
  | bareGenerator
  /-- An expression that is no value. -/
  | malformed
  /-- A map taken apart inside another. -/
  | unpacked
  | unhashable (kind : String)
  | endMark
  deriving DecidableEq, Repr

def Fault.isSyntax : Fault → Bool
  | malformed | unpacked | unhashable _ | endMark => false
  | _ => true

/-- The code point in hexadecimal, of four digits at least. -/
def codeText (c : Char) : String := Text.string ((Text.hex 4 c.toNat).map Char.toUpper)

def Fault.message : Fault → String
  | invalid => "invalid syntax"
  | missingComma => "invalid syntax. Perhaps you forgot a comma?"
  | missingElse => "expected 'else' after 'if' expression"
  | missingParentheses name =>
    s!"Missing parentheses in call to '{name.string}'. Did you mean {name.string}(...)?"
  | neverClosed c => s!"'{c}' was never closed"
  | unmatched c => s!"unmatched '{c}'"
  | mismatched close opening line =>
    let place := match line with
      | some l => s!" on line {l}"
      | none => ""
    s!"closing parenthesis '{close}' does not match opening parenthesis '{opening}'{place}"
  | tooNested => "too many nested parentheses"
  | unterminated tripled line =>
    let kind := if tripled then "triple-quoted string" else "string"
    s!"unterminated {kind} literal (detected at line {line})"
  | badNumber kind => s!"invalid {kind} literal"
  | badDigit c kind => s!"invalid digit '{c}' in {kind} literal"
  | leadingNoughts =>
    "leading zeros in decimal integer literals are not permitted; " ++
      "use an 0o prefix for octal integers"
  | hugeNumber digits =>
    Spelled.Unread.message ⟨10, [], .tooLong digits⟩ ++
      " - Consider hexadecimal for huge integer literals to avoid decimal conversion limits."
  | badCharacter c => s!"invalid character '{c}' (U+{codeText c})"
  | hiddenCharacter c => s!"invalid non-printable character U+{codeText c}"
  | afterBackslash => "unexpected character after line continuation character"
  | unexpectedEnd => "unexpected EOF while parsing"
  | badEscape start stop reason =>
    let place := if stop = start + 1 then s!"byte 0x5c in position {start}"
      else s!"bytes in position {start}-{stop - 1}"
    s!"(unicode error) 'unicodeescape' codec can't decode {place}: {reason}"
  | badByteEscape start => s!"(value error) invalid \\x escape at position {start}"
  | noByte => "bytes can only contain ASCII literal characters"
  | mixedTexts => "cannot mix bytes and nonbytes literals"
  | starredHere => "cannot use starred expression here"
  | doubleStarredHere => "cannot use double starred expression here"
  | starredValue => "cannot use a starred expression in a dictionary value"
  | starredComprehension => "iterable unpacking cannot be used in comprehension"
  | doubleStarredComprehension => "dict unpacking cannot be used in dict comprehension"
  | notNamed family => s!"cannot use assignment expressions with {family}"
  | maybeEqual => "invalid syntax. Maybe you meant '==' or ':=' instead of '='?"
  | notAssignable family =>
    s!"cannot assign to {family} here. Maybe you meant '==' instead of '='?"
  | constantAssigned name => s!"cannot assign to {name.string}"
  | assignedArgument => "expression cannot contain assignment, perhaps you meant \"==\"?"
  | noValue => "expression expected after dictionary key and ':'"
  | noColon => "':' expected after dictionary key"
  | afterKeyword => "positional argument follows keyword argument"
  | afterUnpacking => "positional argument follows keyword argument unpacking"
  | starAfterUnpacking => "iterable argument unpacking follows keyword argument unpacking"
  | bareGenerator => "Generator expression must be parenthesized"
  | malformed => "malformed node or string"
  | unpacked => "malformed node or string: None"
  | unhashable kind => s!"unhashable type: '{kind}'"
  | endMark => "source code string cannot contain null bytes"

inductive Token
  | name (t : Text)
  /-- A number with its spelling. -/
  | number (imaginary : Bool) (t : Text)
  /-- A text: the letters before its quotes, and what stands between them. -/
  | text (letters body : Text)
  /-- A word with a meaning of its own, or other characters. -/
  | sign (s : String)
  | lineEnd
  | ends
  /-- The end of what can be read, and what is wrong there. -/
  | stops (f : Fault)
  deriving DecidableEq, Repr

structure Item where
  token : Token
  line : Nat
  level : Nat
  deriving DecidableEq, Repr

def keywords : List String :=
  ["False", "None", "True", "and", "as", "assert", "async", "await", "break", "class", "continue",
    "def", "del", "elif", "else", "except", "finally", "for", "from", "global", "if", "import",
    "in", "is", "lambda", "nonlocal", "not", "or", "pass", "raise", "return", "try", "while",
    "with", "yield"]

/-- Signs of more than one character, the longest first. -/
def longSigns : List Text :=
  ["**=", "//=", "<<=", ">>=", "...", "==", "!=", "<>", "<=", "<<", ">=", ">>", "->", ":=", "+=",
    "-=", "*=", "**", "/=", "//", "%=", "@=", "&=", "|=", "^="].map String.toList

/-! ### Numbers -/

def isNamePiece (c : Char) : Bool := c.isAlphanum || c == '_' || 127 < c.toNat

/-- A word may stand right behind a number if it can follow a value. Of the shorter ones the
beginning will do. -/
def goesOn (r : Text) : Bool :=
  (["and", "else", "for", "not", "or"].any fun w =>
    (Text.after? w.toList r).any fun s => !s.head?.any isNamePiece) ||
    ["if", "in", "is"].any fun w => (Text.after? w.toList r).isSome

/-- What follows a number, if it may. -/
def afterNumber (kind : String) (r : Text) : Except Fault Text :=
  if r.head?.any (fun c => isNamePiece c && c.toNat < 128) && !goesOn r then
    .error (.badNumber kind)
  else .ok r

def digits (p : Char → Bool) (f : Fault) : Text → Except Fault Text
  | [] => .ok []
  | '_' :: c :: r => if p c then digits p f r else .error f
  | ['_'] => .error f
  | c :: r => if p c then digits p f r else .ok (c :: r)

/-- Past the digits of a number in another base, behind its mark. -/
def inBase (p : Char → Bool) (kind : String) (r : Text) : Except Fault Text := do
  let bad (r : Text) : Fault :=
    match r with
    | c :: _ => if c.isDigit then .badDigit c kind else .badNumber kind
    | [] => .badNumber kind
  let start (r : Text) : Except Fault Text :=
    let s := if r.head? == some '_' then r.drop 1 else r
    if s.head?.any p then .ok s else .error (bad s)
  let rec go : Nat → Text → Except Fault Text
    | 0, r => .ok r
    | n + 1, r => do
      let r := (← start r).dropWhile p
      if r.head? == some '_' then go n r else return r
  let r ← go (r.length + 1) r
  if r.head?.any Char.isDigit then throw (bad r)
  afterNumber kind r

def isHexDigit (c : Char) : Bool :=
  c.isDigit || ('a' ≤ c.toLower && c.toLower ≤ 'f')

def decimals (r : Text) : Except Fault Text := digits Char.isDigit (.badNumber "decimal") r

/-- Past the exponent that begins here, and the sign of an imaginary number. -/
def exponent (r : Text) : Except Fault (Bool × Text) := do
  let imaginary (r : Text) : Except Fault (Bool × Text) :=
    match r with
    | j :: s =>
      if j == 'j' || j == 'J' then (afterNumber "imaginary" s).map fun s => (true, s)
      else (afterNumber "decimal" r).map fun r => (false, r)
    | [] => .ok (false, [])
  match r with
  | e :: s =>
    if e == 'e' || e == 'E' then
      match s with
      | c :: t =>
        if c.isDigit then imaginary (← decimals s)
        else if c == '+' || c == '-' then
          if t.head?.any Char.isDigit then imaginary (← decimals t) else throw (.badNumber "decimal")
        else (afterNumber "decimal" r).map fun r => (false, r)
      | [] => throw (.badNumber "decimal")
    else imaginary r
  | [] => return (false, [])

def fraction (r : Text) : Except Fault (Bool × Text) := do
  exponent (← if r.head?.any Char.isDigit then decimals r else pure r)

def number (t : Text) : Except Fault (Bool × Text) := do
  let real (r : Except Fault Text) : Except Fault (Bool × Text) := r.map fun r => (false, r)
  match t with
  | '.' :: r => fraction r
  | '0' :: m :: r =>
    if m == 'x' || m == 'X' then real (inBase isHexDigit "hexadecimal" r)
    else if m == 'o' || m == 'O' then real (inBase (fun c => '0' ≤ c && c ≤ '7') "octal" r)
    else if m == 'b' || m == 'B' then real (inBase (fun c => c == '0' || c == '1') "binary" r)
    else
      let s ← decimals t
      match s with
      | '.' :: s => fraction s
      | e :: _ =>
        if ['e', 'E', 'j', 'J'].contains e then exponent s
        else if (Text.upTo t s).any fun c => '1' ≤ c && c ≤ '9' then throw .leadingNoughts
        else real (afterNumber "decimal" s)
      | [] => if t.any fun c => '1' ≤ c && c ≤ '9' then throw .leadingNoughts else return (false, [])
  | t =>
    match ← decimals t with
    | '.' :: s => fraction s
    | s => exponent s

/-! ### Texts -/

def quotedBody (q : Char) (tripled : Bool) (start line : Nat) (before : Text) :
    Text → Except Fault (Text × Text × Nat)
  | [] => .error (.unterminated tripled line)
  | '\\' :: c :: r =>
    quotedBody q tripled start (if c == '\n' then line + 1 else line) (c :: '\\' :: before) r
  | c :: r =>
    if c == q then
      if !tripled then .ok (before.reverse, r, line)
      else
        match r with
        | d :: e :: s =>
          if d == q && e == q then .ok (before.reverse, s, line)
          else quotedBody q tripled start line (c :: before) (d :: e :: s)
        | r => quotedBody q tripled start line (c :: before) r
    else if c == '\n' then
      if tripled then quotedBody q tripled start (line + 1) (c :: before) r
      else .error (.unterminated false line)
    else quotedBody q tripled start line (c :: before) r

/-- How many letters before a quote say what kind of text it is. -/
def isLetters (t : Text) : Bool :=
  ["", "r", "u", "b", "f", "rb", "br", "rf", "fr"].contains (Text.string (t.map Char.toLower))

/-! ### All tokens -/

structure Scanner where
  rest : Text
  line : Nat
  /-- The open brackets, the innermost first, with their lines. -/
  opened : List (Char × Nat)
  /-- Last token first. -/
  items : List Item

namespace Scanner

def emit (s : Scanner) (t : Token) (rest : Text) : Scanner :=
  { s with rest := rest, items := ⟨t, s.line, s.opened.length⟩ :: s.items }

def closing (c : Char) : Char := if c == '(' then ')' else if c == '[' then ']' else '}'

def bracket (s : Scanner) (c : Char) (r : Text) : Except Fault Scanner :=
  let sign := Token.sign (String.singleton c)
  if c == '(' || c == '[' || c == '{' then
    if 200 ≤ s.opened.length then .error .tooNested
    else .ok ({ s with opened := (c, s.line) :: s.opened }.emit sign r)
  else
    match s.opened with
    | [] => .error (.unmatched c)
    | (o, line) :: outer =>
      if closing o == c then .ok ({ s with opened := outer }.emit sign r)
      else .error (.mismatched c o (if line = s.line then none else some line))

def word (s : Scanner) : Except Fault Scanner :=
  let w : Text := s.rest.takeWhile isNamePiece
  let r := s.rest.drop w.length
  match w.zipIdx.find? fun (c, i) => !(if i = 0 then Text.isNameStart c else Text.isNamePart c) with
  | some (c, _) =>
    .error (if Text.isPrintable c then .badCharacter c else .hiddenCharacter c)
  | none => .ok (s.emit (if keywords.contains w.string then .sign w.string else .name w) r)

def quotation (s : Scanner) (letters : Text) : Except Fault Scanner := do
  let r := s.rest.drop letters.length
  let q := r.headD '"'
  let tripled := (Text.after? [q, q, q] r).isSome
  let (body, rest, line) ← quotedBody q tripled s.line s.line [] (r.drop (if tripled then 3 else 1))
  let next := s.emit (.text letters body) rest
  return { next with line := line }

def step (s : Scanner) (c : Char) (r : Text) : Except Fault Scanner :=
  if c == ' ' || c == '\t' || c == '\x0c' then .ok { s with rest := r }
  else if c == '#' then .ok { s with rest := r.dropWhile (· != '\n') }
  else if c == '\n' then
    let s := if s.opened.isEmpty && s.items.head?.any fun i => i.token != .lineEnd then
      s.emit .lineEnd r else s
    .ok { s with rest := r, line := s.line + 1 }
  else if c == '\\' then
    match r with
    | '\n' :: d :: r => .ok { s with rest := d :: r, line := s.line + 1 }
    | ['\n'] => .ok (s.emit (.stops .unexpectedEnd) [])
    | _ => .ok (s.emit (.stops .afterBackslash) [])
  else
    let letters := s.rest.takeWhile Char.isAlpha
    let quote := (s.rest.drop letters.length).head?
    if (quote == some '"' || quote == some '\'') && isLetters letters then s.quotation letters
    else if c.isDigit || (c == '.' && r.head?.any Char.isDigit) then do
      let (imaginary, rest) ← number s.rest
      return s.emit (.number imaginary (Text.upTo s.rest rest)) rest
    else if isNamePiece c then s.word
    else if ['(', ')', '[', ']', '{', '}'].contains c then s.bracket c r
    else if !Text.isPrintable c then .error (.hiddenCharacter c)
    else
      match longSigns.find? fun w => (Text.after? w s.rest).isSome with
      | some w => .ok (s.emit (.sign w.string) (s.rest.drop w.length))
      | none => .ok (s.emit (.sign (String.singleton c)) r)

def readAll : Nat → Scanner → Except Fault (List Item)
  | 0, s => .ok s.items.reverse
  | n + 1, s =>
    match s.rest with
    | [] =>
      let last : Token := match s.opened with
        | (c, _) :: _ => .stops (.neverClosed c)
        | [] => .ends
      .ok (s.emit last []).items.reverse
    | c :: r => do readAll n (← s.step c r)

end Scanner

def items (t : Text) : Except Fault (List Item) :=
  if t.contains '\x00' then .error .endMark
  else
    let t := Text.unifyLineEnds (t.dropWhile fun c => c == ' ' || c == '\t')
    Scanner.readAll (t.length + 1) ⟨t, 1, [], []⟩

end ClassPurge.Console.Literal
