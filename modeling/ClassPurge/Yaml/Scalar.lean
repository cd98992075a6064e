import ClassPurge.Document
import ClassPurge.Text.Case
import ClassPurge.Yaml.Tag

/-!
What scalars mean. The tag of a scalar without quotes is told by how it is spelled; with its tag
known, a scalar is read for what it says. The two rules are apart: a tag that is written down can
stand before a scalar that does not spell it.
-/

namespace ClassPurge.Yaml

def isWord (ws : List String) (t : Text) : Bool := ws.contains t.string

def isSignChar (c : Char) : Bool := c == '-' || c == '+'

def unsigned (t : Text) : Text :=
  match t with
  | c :: r => if isSignChar c then r else t
  | [] => []

def isDigitOr (p : Char → Bool) (c : Char) : Bool := p c || c == '_'

/-! ### How scalars are spelled -/

def boolWords : List String :=
  ["yes", "Yes", "YES", "no", "No", "NO", "true", "True", "TRUE", "false", "False", "FALSE",
    "on", "On", "ON", "off", "Off", "OFF"]

def nullWords : List String := ["", "~", "null", "Null", "NULL"]

def isCount (t : Text) : Bool :=
  match t with
  | c :: r => c.isDigit && r.all (isDigitOr Char.isDigit)
  | [] => false

def isSixtieth (t : Text) : Bool :=
  match t with
  | [a] => a.isDigit
  | [a, b] => '0' ≤ a && a ≤ '5' && b.isDigit
  | _ => false

/-- Nothing, or an exponent with a sign. -/
def isExponent (t : Text) : Bool :=
  match t with
  | [] => true
  | e :: s :: ds => (e == 'e' || e == 'E') && isSignChar s && !ds.isEmpty && ds.all Char.isDigit
  | _ => false

def spellsFloat (t : Text) : Bool :=
  let r := unsigned t
  let whole : Text := r.takeWhile (· != '.')
  match r.drop whole.length with
  | '.' :: s =>
    let part := s.takeWhile (isDigitOr Char.isDigit)
    let parts := whole.splitOn (· == ':')
    let parted := parts.length > 1 && isCount (parts.headD []) && (parts.drop 1).all isSixtieth
    (isCount whole && isExponent (s.drop part.length)) ||
      (whole.isEmpty && r == t && isCount part && isExponent (s.drop part.length)) ||
      (parted && part == s) ||
      (whole.isEmpty && isWord ["inf", "Inf", "INF"] s) ||
      (whole.isEmpty && r == t && isWord ["nan", "NaN", "NAN"] s)
  | _ => false

def isOctal (c : Char) : Bool := '0' ≤ c && c ≤ '7'

def spellsInt (t : Text) : Bool :=
  match unsigned t with
  | ['0'] => true
  | '0' :: 'b' :: ds => !ds.isEmpty && ds.all (isDigitOr fun c => c == '0' || c == '1')
  | '0' :: 'x' :: ds => !ds.isEmpty && ds.all (isDigitOr fun c => (Cursor.hexValue? c).isSome)
  | '0' :: ds => ds.all (isDigitOr isOctal)
  | r =>
    let parts := r.splitOn (· == ':')
    isCount (parts.headD []) && (parts.drop 1).all isSixtieth

/-- The number that up to `most` digits, and at least `least`, spell at the beginning of a text. -/
def field? (least most : Nat) (t : Text) : Option (Nat × Text) :=
  let ds := (t.take most).takeWhile Char.isDigit
  if least ≤ ds.length then
    some (Spelled.ofDigits 10 (ds.filterMap Spelled.asciiDigit?), t.drop ds.length)
  else none

def past? (c : Char) (t : Text) : Option Text := Text.after? [c] t

def micros (ds : Text) : Nat :=
  let ds := (ds.take 6).filterMap Spelled.asciiDigit?
  Spelled.ofDigits 10 (ds ++ List.replicate (6 - ds.length) 0)

def offset? (t : Text) : Option (Option Int) :=
  match t.dropWhile fun c => c == ' ' || c == '\t' with
  | [] => if t.isEmpty then some none else none
  | ['Z'] => some (some 0)
  | s :: r => do
    if !isSignChar s then none
    let (hours, r) ← field? 1 2 r
    let minutes ← match r with
      | [] => some 0
      | r => do
        let (m, r) ← field? 2 2 (← past? ':' r)
        if r.isEmpty then some m else none
    return some (Spelled.withSign (s == '-') (hours * 60 + minutes))

def clock? (t : Text) : Option TimeOfDay := do
  let gap := t.takeWhile fun c => c == ' ' || c == '\t'
  let r ← match t with
    | 'T' :: r | 't' :: r => some r
    | t => if gap.isEmpty then none else some (t.drop gap.length)
  let (hour, r) ← field? 1 2 r
  let (minute, r) ← field? 2 2 (← past? ':' r)
  let (second, r) ← field? 2 2 (← past? ':' r)
  let (part, r) := match r with
    | '.' :: s => (s.takeWhile Char.isDigit, s.dropWhile Char.isDigit)
    | r => ([], r)
  return ⟨hour, minute, second, micros part, ← offset? r⟩

/-- The moment that a text spells, whether or not there is such a moment. -/
def moment? (t : Text) : Option Moment := do
  let (year, r) ← field? 4 4 t
  let (month, r) ← field? 1 2 (← past? '-' r)
  let (day, r) ← field? 1 2 (← past? '-' r)
  let clock ← if r.isEmpty then some none else (clock? r).map some
  return ⟨⟨year, month, day⟩, clock⟩

/-- Whether a text is a moment; the month and the day of one without a time have two digits. -/
def spellsMoment (t : Text) : Bool := (moment? t).any fun m => m.clock.isSome || t.length == 10

def unended (t : Text) : Text := if t.getLast? == some '\n' then t.dropLast else t

/-- The tag of a scalar for which nothing but its spelling speaks. -/
def impliedTag (t : Text) : Tag :=
  let u := unended t
  if isWord boolWords u then .bool
  else if spellsFloat u then .float
  else if spellsInt u then .int
  else if u == ['<', '<'] then .merge
  else if isWord nullWords u && (t.isEmpty || !u.isEmpty) then .null
  else if spellsMoment u then .moment
  else if u == ['='] then .value
  else if [['!'], ['&'], ['*']].contains u then .other (Tag.common ++ "yaml".toList)
  else .text

/-! ### What scalars say -/

def halves (t : Text) : Except Crash (Bool × Text) :=
  match t.filter (· != '_') with
  | [] => .error .noDigits
  | '-' :: r => .ok (true, r)
  | '+' :: r => .ok (false, r)
  | r => .ok (false, r)

def literal (base : Nat) (t : Text) : Except Crash Int :=
  match Spelled.literal base t with
  | .ok i => .ok i
  | .error f => .error (.number ⟨base, t, f⟩)

/-- The whole number that the text spells: in base ten, after `0b` in two, after `0x` in sixteen,
after another nought in eight, and with colons in sixty. -/
def intOf (t : Text) : Except Crash Int := do
  let (negative, r) ← halves t
  let i ← match r with
    | [] => throw .noDigits
    | ['0'] => pure 0
    | '0' :: 'b' :: ds => literal 2 ds
    | '0' :: 'x' :: ds => literal 16 ds
    | '0' :: _ => literal 8 r
    | r =>
      let parts ← (r.splitOn (· == ':')).mapM (literal 10)
      pure (parts.foldl (fun n p => n * 60 + p) 0)
  return if negative then -i else i

/-- A number with a fraction, one that is infinite, or none that is a number at all. -/
def realOf (t : Text) : Except Crash Document :=
  let (negative, name) := Spelled.signed (Text.strip t)
  let name := name.map Char.toLower
  if name == "nan".toList then .ok .notANumber
  else if isWord ["inf", "infinity"] name then .ok (.float (.infinity negative))
  else
    match Spelled.real? t with
    | some x => .ok (.float x)
    | none => .error (.real t)

def addReals (a b : Document) : Document :=
  match a, b with
  | .float x, .float y =>
    if x.isInfinite && y.isInfinite && x.negative != y.negative then .notANumber
    else .float (x.add y)
  | _, _ => .notANumber

/-- The digits of a number in base sixty, the last first, added up from `sum` on. -/
def addSixties (base : Nat) (sum : Document) : List Document → Except Crash Document
  | [] => .ok sum
  | d :: ds =>
    let unit := Binary64.ofInt base
    if unit.isInfinite then .error .hugeBase
    else
      let part := match d with
        | .float x =>
          if x.isInfinite then d else .float (x.mul unit)
        | d => d
      addSixties (base * 60) (addReals sum part) ds

def negated (d : Document) : Document :=
  match d with
  | .float x => .float x.neg
  | d => d

def floatOf (t : Text) : Except Crash Document := do
  let (negative, r) ← halves (Text.lower t)
  let d ←
    if r == ".inf".toList then pure (.float (.infinity false))
    else if r == ".nan".toList then pure .notANumber
    else
      match r.splitOn (· == ':') with
      | [r] => realOf r
      | parts => do addSixties 1 (.float ⟨false, 0, 0⟩) (← parts.mapM realOf).reverse
  return if negative then negated d else d

def boolOf (t : Text) : Except Crash Bool :=
  let word := Text.lower t
  if isWord ["yes", "true", "on"] word then .ok true
  else if isWord ["no", "false", "off"] word then .ok false
  else .error (.word word)

def momentOf (t : Text) : Except Crash Moment :=
  match (moment? t).or (moment? (unended t)) with
  | none => .error .noMoment
  | some m =>
    match m.check with
    | .ok m => .ok m
    | .error f => .error (.moment f)

/-! ### Bytes -/

def sixtyFourth? (c : Char) : Option Nat :=
  if 'A' ≤ c && c ≤ 'Z' then some (c.toNat - 0x41)
  else if 'a' ≤ c && c ≤ 'z' then some (c.toNat - 0x61 + 26)
  else if c.isDigit then some (c.toNat - 0x30 + 52)
  else if c == '+' then some 62
  else if c == '/' then some 63
  else none

/-- The bytes that the characters spell, four of them for three; `held` are those of the four that
have been read. Signs at the end fill up the last four, and other characters are passed over. -/
def sixtyFourths (held : List Nat) (signs : Nat) : Text → Option Bytes
  | [] => if held.isEmpty then some [] else none
  | c :: r =>
    let bytes : Bytes := match held with
      | [a, b] => [UInt8.ofNat (a * 4 + b / 16)]
      | [a, b, d] => [UInt8.ofNat (a * 4 + b / 16), UInt8.ofNat (b % 16 * 16 + d / 4)]
      | _ => []
    if c == '=' then
      if 2 ≤ held.length ∧ 4 ≤ held.length + signs + 1 then some bytes
      else sixtyFourths held (if 2 ≤ held.length then signs + 1 else signs) r
    else
      match sixtyFourth? c with
      | none => sixtyFourths held signs r
      | some e =>
        match held with
        | [_, _, d] => (sixtyFourths [] 0 r).map fun rest =>
            bytes ++ UInt8.ofNat (d % 4 * 64 + e) :: rest
        | held => sixtyFourths (held ++ [e]) 0 r

def bytesOf (t : Text) : Except Fault Bytes :=
  if t.any fun c => 127 < c.toNat then .error .badBytes
  else
    match sixtyFourths [] 0 t with
    | some bs => .ok bs
    | none => .error .badBytes

/-- How scalars with the tag are read; tags that are not of scalars have no answer. -/
def Tag.reader? : Tag → Option (Text → Except Stop Document)
  | null => some fun _ => .ok .null
  | bool => some fun t => (boolOf t).map Document.bool |>.mapError .crash
  | int => some fun t => (intOf t).map Document.int |>.mapError .crash
  | float => some fun t => (floatOf t).mapError .crash
  | moment => some fun t => (momentOf t).map Document.moment |>.mapError .crash
  | bytes => some fun t => (bytesOf t).map Document.bytes |>.mapError .fault
  | text => some fun t => .ok (.text t)
  | _ => none

end ClassPurge.Yaml
