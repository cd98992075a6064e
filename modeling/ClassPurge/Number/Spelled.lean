import ClassPurge.Number.Binary64
import ClassPurge.Text.Blank
import ClassPurge.Text.Quoted
import ClassPurge.Text.Word

/-!
Numbers as they are spelled in texts. Whole numbers have two spellings: the lenient one of a field
that asks for a number, where noughts, underscores and an empty fraction may be left over, and the
literal of some base, with a sign, a mark of the base and single underscores. Numbers with a
fraction have one.
-/

namespace ClassPurge.Spelled

/-- The size of the longest number that is read or written. -/
def sizeLimit : Nat := 4300

/-- Why a number of so many digits is not read, and one that would have too many is not written. -/
def sizeMessage (digits : Option Nat) : String :=
  let found := (digits.map fun n => s!": value has {n} digits").getD ""
  s!"Exceeds the limit ({sizeLimit} digits) for integer string conversion{found}; " ++
    "use sys.set_int_max_str_digits() to increase the limit"

def isWritable (i : Int) : Bool := i.natAbs < Nat.pow 10 sizeLimit

inductive Fault
  | unreadable
  | tooLong (digits : Nat)
  deriving DecidableEq, Repr

def withSign (negative : Bool) (n : Nat) : Int := if negative then -n else n

def ofDigits (base : Nat) (ds : List Nat) : Nat := ds.foldl (fun n d => n * base + d) 0

def asciiDigit? (c : Char) : Option Nat := if c.isDigit then some (c.toNat - 0x30) else none

/-! ### Fields -/

/-- The blanks around a field, which the separators among the controls are none of. -/
def isMargin (c : Char) : Bool := Text.isBlank c && !(0x1c ≤ c.toNat && c.toNat ≤ 0x1f)

def trim (t : Text) : Text :=
  ((t.dropWhile isMargin).reverse.dropWhile isMargin).reverse

/-- Digits behind a minus or none, without a nought to begin with. -/
def plain (t : Text) : Except Fault Int :=
  let (negative, ds) := match t with
    | '-' :: r => (true, r)
    | t => (false, t)
  let run := ds.takeWhile Char.isDigit
  let size := run.length + (if negative then 1 else 0)
  match ds with
  | ['0'] => .ok 0
  | c :: _ =>
    if c == '0' || !c.isDigit then .error .unreadable
    else if sizeLimit < size then .error (.tooLong run.length)
    else if run.length < ds.length then .error .unreadable
    else .ok (withSign negative (ofDigits 10 (run.filterMap asciiDigit?)))
  | [] => .error .unreadable

/-- What the noughts and underscores at the beginning stand before; of nothing but them the last
one is left. -/
def skipNoughts (last : Char) : Text → Option Text
  | [] => some [last]
  | c :: r =>
    if c == '0' || c == '_' then skipNoughts c r
    else if c.isDigit || c == '-' then some (c :: r)
    else if c == '.' then some (last :: c :: r)
    else none

def dropNoughts : Text → Option Text
  | [] => none
  | c :: r => if c == '0' then skipNoughts c r else if c.isDigit then some (c :: r) else none

/-- A plus is left out and so are noughts before the first digit; a minus stays. -/
def dropSign (t : Text) : Option Text :=
  match t with
  | '+' :: '-' :: _ => none
  | '+' :: r => dropNoughts r
  | '-' :: r => (dropNoughts r).map ('-' :: ·)
  | t => dropNoughts t

def dropFraction (t : Text) : Text :=
  let whole := t.takeWhile (· != '.')
  let part := t.drop (whole.length + 1)
  if !part.isEmpty && part.all (· == '0') then whole else t

def dropUnderscores (t : Text) : Text :=
  if (t.splitOn (· == '_')).all fun p => !p.isEmpty then t.filter (· != '_') else t

def field (t : Text) : Except Fault Int :=
  let t := trim t
  match plain t with
  | .error .unreadable =>
    match (dropSign t).map fun r => plain (dropUnderscores (dropFraction r)) with
    | some (.ok i) => .ok i
    | _ => .error .unreadable
  | r => r

/-! ### Literals -/

/-- The value of a digit of any script. -/
def decimal? (c : Char) : Option Nat :=
  if c.isDigit then some (c.toNat - 0x30)
  else (Text.digitRanges.find? fun r => r.1 ≤ c.toNat && c.toNat ≤ r.2).map fun r =>
    (c.toNat - r.1) % 10

/-- The value of a digit or letter, below 36. -/
def digit? (c : Char) : Option Nat :=
  match decimal? c with
  | some d => some d
  | none =>
    let l := c.toLower
    if 'a' ≤ l && l ≤ 'z' then some (l.toNat - 0x61 + 10) else none

def baseMark (base : Nat) (c : Char) : Bool :=
  match base, c.toLower with
  | 2, 'b' => true
  | 8, 'o' => true
  | 16, 'x' => true
  | _, _ => false

/-- Past the mark of the base, and an underscore behind it. -/
def dropMark (base : Nat) (t : Text) : Text :=
  match t with
  | z :: m :: r =>
    if decimal? z == some 0 && baseMark base m then
      if r.head? == some '_' then r.drop 1 else r
    else t
  | t => t

def signed (t : Text) : Bool × Text :=
  match t with
  | '-' :: r => (true, r)
  | '+' :: r => (false, r)
  | t => (false, t)

/-- The whole number that a literal spells in base two, eight, ten or sixteen. -/
def literal (base : Nat) (t : Text) : Except Fault Int :=
  let (negative, r) := signed (Text.strip t)
  let r := dropMark base r
  let apart := (r.splitOn (· == '_')).all fun p => !p.isEmpty
  let cs := r.filter (· != '_')
  let ds := cs.filterMap digit?
  if !apart || ds.length < cs.length || ds.any fun d => base ≤ d then .error .unreadable
  else if base = 10 && sizeLimit < ds.length then .error (.tooLong ds.length)
  else .ok (withSign negative (ofDigits base ds))

structure Unread where
  base : Nat
  text : Text
  fault : Fault
  deriving DecidableEq, Repr

/-- How much of a text that is no number is shown, in characters with the quotes. -/
def shownLimit : Nat := 200

def Unread.message (u : Unread) : String :=
  match u.fault with
  | .unreadable =>
    let shown := Text.string (u.text.quoted.take shownLimit)
    s!"invalid literal for int() with base {u.base}: {shown}"
  | .tooLong n => sizeMessage (some n)

/-- The exponent at the end of a number; nothing stands for nought. -/
def exponent? (t : Text) : Option Int :=
  match t with
  | [] => some 0
  | e :: r =>
    let (negative, ds) := signed r
    if (e == 'e' || e == 'E') && !ds.isEmpty && ds.all Char.isDigit then
      some (withSign negative (ofDigits 10 (ds.filterMap asciiDigit?)))
    else none

def real? (t : Text) : Option Binary64 :=
  let (negative, r) := signed (Text.strip t)
  let r := r.map fun c => ((decimal? c).map fun d => Char.ofNat (0x30 + d)).getD c
  let whole := r.takeWhile Char.isDigit
  let r := r.drop whole.length
  let part := match r with
    | '.' :: s => s.takeWhile Char.isDigit
    | _ => []
  let r := if r.head? == some '.' then r.drop (part.length + 1) else r
  if whole.isEmpty && part.isEmpty then none
  else
    (exponent? r).map fun e =>
      .ofDecimal negative (ofDigits 10 ((whole ++ part).filterMap asciiDigit?)) (e - part.length)

end ClassPurge.Spelled
