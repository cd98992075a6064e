import ClassPurge.Number.Binary64

/-!
Readings of a timer that counts seconds, and the time between two of them in milliseconds. Whole
seconds are counted exactly; with a fraction in one of the readings every step is rounded.
-/

namespace ClassPurge

inductive Reading
  | whole (seconds : Int)
  | part (seconds : Binary64)
  deriving DecidableEq, Repr

namespace Reading

def zero : Reading := whole 0

inductive Fault
  /-- A whole number of seconds that has no nearest number with a fraction. -/
  | tooLarge
  | endless
  /-- The time between two infinite readings. -/
  | undefined
  deriving DecidableEq, Repr

def Fault.message : Fault → String
  | tooLarge => "int too large to convert to float"
  | endless => "cannot convert float infinity to integer"
  | undefined => "cannot convert float NaN to integer"

def rounded : Reading → Except Fault Binary64
  | whole i =>
    let x := Binary64.ofInt i
    if x.isInfinite then .error .tooLarge else .ok x
  | part x => .ok x

/-- Milliseconds from one reading to the next. A timer that goes backwards counts nothing. -/
def elapsed (started now : Reading) : Except Fault Nat :=
  match started, now with
  | whole i, whole j => .ok ((j - i) * 1000).toNat
  | started, now => do
    let y ← now.rounded
    let x ← started.rounded
    if x.isInfinite && x == y then throw .undefined
    let d := (y.sub x).timesNat 1000
    if d.isInfinite then throw .endless
    return d.toInt.toNat

end Reading

end ClassPurge
