import ClassPurge.Text.Basic

/-!
Numbers with 53 significant bits, kept exactly as a sign, a whole number and a power of two.
Every operation takes the exact result and rounds it once, to the nearest such number, a tie to
the even one; from two to the 1024 on it is infinite. They are written with the fewest digits that
read back.
-/

namespace ClassPurge

/-- The nearest whole number to `num / den`, of two equally near ones the even one. -/
def roundDiv (num den : Nat) : Nat :=
  let q := num / den
  let r := num % den
  if 2 * r < den then q
  else if den < 2 * r then q + 1
  else if q % 2 = 0 then q else q + 1

structure Binary64 where
  negative : Bool
  mantissa : Nat
  exponent : Int
  deriving DecidableEq, Repr

namespace Binary64

/-- `n` times `base` to the power `e`, as a quotient. -/
def scale (base n : Nat) (e : Int) : Nat × Nat :=
  if 0 ≤ e then (n * base.pow e.toNat, 1) else (n, base.pow (-e).toNat)

def leastFull : Nat := Nat.pow 2 52

/-- Two to the 1024, which stands for all that is too large. -/
def infinity (negative : Bool) : Binary64 := ⟨negative, leastFull, 972⟩

def isInfinite (x : Binary64) : Bool := 971 < x.exponent && x.mantissa != 0

def isZero (x : Binary64) : Bool := x.mantissa == 0

def ofQuotient (negative : Bool) (num den : Nat) : Binary64 :=
  if num = 0 then ⟨negative, 0, 0⟩
  else
    let guess : Int := (num.log2 : Int) - den.log2 - 52
    -- counted in units of two to the `guess - 1`, the quotient has 53 or 54 bits
    let fits (e : Int) : Bool :=
      let (a, b) := scale 2 den e
      leastFull * a ≤ num * b
    let e := max (if fits guess then guess else guess - 1) (-1074)
    let (a, b) := scale 2 den e
    let m := roundDiv (num * b) a
    let x : Binary64 :=
      if m = 2 * leastFull then ⟨negative, leastFull, e + 1⟩ else ⟨negative, m, e⟩
    if x.isInfinite then infinity negative else x

def ofInt (i : Int) : Binary64 := ofQuotient (i < 0) i.natAbs 1

def digits (n : Nat) : Text := Nat.toDigits 10 n

def ofDecimal (negative : Bool) (mantissa : Nat) (exponent : Int) : Binary64 :=
  let place : Int := (digits mantissa).length + exponent
  if mantissa = 0 || place < -400 then ⟨negative, 0, 0⟩
  else if 400 < place then infinity negative
  else
    let (a, b) := scale 10 mantissa exponent
    ofQuotient negative a b

/-- The quotient of two whole numbers; its sign is the product of theirs, for nought too. -/
def ofRatio (num den : Int) : Binary64 :=
  ofQuotient ((num < 0) != (den < 0)) num.natAbs den.natAbs

def magnitude (x : Binary64) : Nat × Nat := scale 2 x.mantissa x.exponent

def timesNat (x : Binary64) (n : Nat) : Binary64 :=
  let (a, b) := x.magnitude
  ofQuotient x.negative (a * n) b

def neg (x : Binary64) : Binary64 := { x with negative := !x.negative }

/-- Infinite if one of them is. -/
def mul (x y : Binary64) : Binary64 :=
  let (a, b) := x.magnitude
  let (c, d) := y.magnitude
  let sign := x.negative != y.negative
  if x.isInfinite || y.isInfinite then infinity sign else ofQuotient sign (a * c) (b * d)

/-- The sum; with an infinite number, that number. -/
def add (x y : Binary64) : Binary64 :=
  let (a, b) := x.magnitude
  let (c, d) := y.magnitude
  let signed (negative : Bool) (n : Nat) : Int := if negative then -n else n
  let n := signed x.negative (a * d) + signed y.negative (c * b)
  if x.isInfinite then x else if y.isInfinite then y
  else if n = 0 then ⟨x.negative && y.negative, 0, 0⟩
  else ofQuotient (n < 0) n.natAbs (b * d)

def sub (x y : Binary64) : Binary64 := x.add y.neg

def toInt (x : Binary64) : Int :=
  let (a, b) := x.magnitude
  let n : Int := roundDiv a b
  if x.negative then -n else n

def toTenth (x : Binary64) : Binary64 :=
  let (a, b) := x.magnitude
  if x.isInfinite then x else ofQuotient x.negative (roundDiv (a * 10) b) 10

def isWhole (x : Binary64) : Bool :=
  let (a, b) := x.magnitude
  a % b = 0

/-! ### Writing -/

def sign (x : Binary64) : Text := if x.negative then ['-'] else []

def infiniteName : Text := ['i', 'n', 'f']

/-- With one digit after the point. -/
def fixedTenth (x : Binary64) : Text :=
  let (a, b) := x.magnitude
  let n := roundDiv (a * 10) b
  x.sign ++ if x.isInfinite then infiniteName else digits (n / 10) ++ '.' :: digits (n % 10)

def decimalPlace (a b : Nat) : Int :=
  if b ≤ a then ((digits (a / b)).length : Int) - 1
  else
    let k := (digits ((b + a - 1) / a)).length
    if b ≤ a * Nat.pow 10 (k - 1) then -((k : Int) - 1) else -(k : Int)

/-- The digits of the whole number that stands for `x` on the grid of ten to the power
`place`, if one reads back; the nearer of two. -/
def onGrid? (x : Binary64) (place : Int) : Option Nat :=
  let (a, b) := x.magnitude
  let (c, d) := scale 10 1 place
  let num := a * d
  let den := b * c
  let q := num / den
  let back (n : Nat) : Bool :=
    (ofDecimal x.negative n place).magnitude == x.magnitude
  let near := roundDiv num den
  let far := if near = q then q + 1 else q
  if back near then some near else if back far then some far else none

/-- The fewest digits that read back, and the decimal exponent of the first of them. -/
def shortest (x : Binary64) : Text × Int :=
  let (a, b) := x.magnitude
  if a = 0 then (['0'], 0)
  else
    let first := decimalPlace a b
    let tries := (List.range 17).map fun (k : Nat) => first - (k : Int)
    match tries.findSome? fun place => (x.onGrid? place).map fun n => (n, place) with
    | some (n, place) =>
      let ds := digits n
      let kept := (ds.reverse.dropWhile (· == '0')).reverse
      (if kept.isEmpty then ['0'] else kept, place + ds.length - 1)
    | none => (digits (a / b), (digits (a / b)).length - 1)

/-- Positional from a ten thousandth to below ten to the sixteenth, with at least one digit after
the point; with an exponent of at least two digits otherwise. -/
def write (x : Binary64) : Text :=
  let (ds, e) := x.shortest
  let body : Text :=
    if -4 ≤ e && e < 16 then
      if e < 0 then '0' :: '.' :: List.replicate ((-e).toNat - 1) '0' ++ ds
      else
        let k := e.toNat + 1
        let whole := ds.take k ++ List.replicate (k - ds.length) '0'
        let part := ds.drop k
        whole ++ '.' :: if part.isEmpty then ['0'] else part
    else
      let mark : Char := if e < 0 then '-' else '+'
      let es := digits e.natAbs
      ds.take 1 ++ (if ds.length ≤ 1 then [] else '.' :: ds.drop 1) ++
        'e' :: mark :: (if es.length < 2 then '0' :: es else es)
  x.sign ++ if x.isInfinite then infiniteName else body

end Binary64

end ClassPurge
