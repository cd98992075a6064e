import ClassPurge.Text.Basic

/-!
Days, and times of day with a distance from universal time or none. Two times with distances are
the same if they are the same instant.
-/

namespace ClassPurge

structure Day where
  year : Nat
  month : Nat
  day : Nat
  deriving DecidableEq, Repr

structure TimeOfDay where
  hour : Nat
  minute : Nat
  second : Nat
  micro : Nat
  /-- In minutes ahead of universal time. -/
  offset : Option Int
  deriving DecidableEq, Repr

/-- A day, or a time on it. -/
structure Moment where
  day : Day
  clock : Option TimeOfDay
  deriving DecidableEq, Repr

namespace Moment

inductive Fault
  | year (n : Nat)
  | month
  | day
  | hour
  | minute
  | second
  /-- A whole day or more away from universal time, in minutes. -/
  | offset (minutes : Int)
  deriving DecidableEq, Repr

/-- The time between two times in days and seconds, without those that are nought. -/
def spanText (minutes : Int) : String :=
  let days := minutes.fdiv 1440
  let seconds := (minutes - days * 1440) * 60
  let parts := (if days = 0 then [] else [s!"days={days}"]) ++
    if seconds = 0 then [] else [s!"seconds={seconds}"]
  "datetime.timedelta(" ++ ", ".intercalate parts ++ ")"

def Fault.message : Fault → String
  | year n => s!"year {n} is out of range"
  | month => "month must be in 1..12"
  | day => "day is out of range for month"
  | hour => "hour must be in 0..23"
  | minute => "minute must be in 0..59"
  | second => "second must be in 0..59"
  | offset m =>
    "offset must be a timedelta strictly between -timedelta(hours=24) and timedelta(hours=24), " ++
      s!"not {spanText m}."

def isLeap (year : Nat) : Bool := year % 4 = 0 && (year % 100 != 0 || year % 400 = 0)

def daysIn (year month : Nat) : Nat :=
  if month = 2 then if isLeap year then 29 else 28
  else if [4, 6, 9, 11].contains month then 30
  else 31

def checkDay (d : Day) : Except Fault Day :=
  if d.year = 0 then .error (.year d.year)
  else if d.month = 0 || 12 < d.month then .error .month
  else if d.day = 0 || daysIn d.year d.month < d.day then .error .day
  else .ok d

def checkClock (c : TimeOfDay) : Except Fault TimeOfDay :=
  if 23 < c.hour then .error .hour
  else if 59 < c.minute then .error .minute
  else if 59 < c.second then .error .second
  else .ok c

/-- The moment, if there is such a one. -/
def check (m : Moment) : Except Fault Moment := do
  if let some o := m.clock.bind TimeOfDay.offset then
    if 1440 ≤ o.natAbs then throw (.offset o)
  let day ← checkDay m.day
  match m.clock with
  | none => return ⟨day, none⟩
  | some c => return ⟨day, some (← checkClock c)⟩

/-! ### Comparing -/

/-- The days before the first of January of a year, and before a month of it. -/
def daysBefore (d : Day) : Nat :=
  let y := d.year - 1
  let months := (List.range d.month).drop 1
  y * 365 + y / 4 - y / 100 + y / 400 + months.foldl (fun n m => n + daysIn d.year m) 0

/-- Microseconds from the first of all days on. -/
def instant (d : Day) (c : TimeOfDay) : Int :=
  let minutes : Int := ((daysBefore d + d.day) * 24 + c.hour) * 60 + c.minute
  ((minutes - c.offset.getD 0) * 60 + c.second) * 1000000 + c.micro

def same (a b : Moment) : Bool :=
  match a.clock, b.clock with
  | none, none => a.day == b.day
  | some c, some d => c.offset.isSome == d.offset.isSome && instant a.day c == instant b.day d
  | _, _ => false

/-! ### Writing -/

def padded (width n : Nat) : Text :=
  let ds := Nat.toDigits 10 n
  List.replicate (width - ds.length) '0' ++ ds

def offsetText (minutes : Int) : Text :=
  (if minutes < 0 then '-' else '+') :: padded 2 (minutes.natAbs / 60) ++
    ':' :: padded 2 (minutes.natAbs % 60)

def clockText (c : TimeOfDay) : Text :=
  padded 2 c.hour ++ ':' :: padded 2 c.minute ++ ':' :: padded 2 c.second ++
    (if c.micro = 0 then [] else '.' :: padded 6 c.micro) ++
    (match c.offset with
      | some o => offsetText o
      | none => [])

def text (m : Moment) : Text :=
  let day := padded 4 m.day.year ++ '-' :: padded 2 m.day.month ++ '-' :: padded 2 m.day.day
  match m.clock with
  | some c => day ++ ' ' :: clockText c
  | none => day

/-- The name of the kind of moment. -/
def kind (m : Moment) : String := if m.clock.isSome then "datetime" else "date"

def zoneText (offset : Int) : String :=
  if offset = 0 then "datetime.timezone.utc" else s!"datetime.timezone({spanText offset})"

/-- The moment by its parts; the seconds are left out if they are nought. -/
def display (m : Moment) : String :=
  let numbers := [m.day.year, m.day.month, m.day.day] ++
    (match m.clock with
      | none => []
      | some c =>
        [c.hour, c.minute] ++ (if c.second = 0 && c.micro = 0 then [] else [c.second]) ++
          if c.micro = 0 then [] else [c.micro])
  let zone := match m.clock.bind TimeOfDay.offset with
    | some o => [s!"tzinfo={zoneText o}"]
    | none => []
  s!"datetime.{m.kind}(" ++ ", ".intercalate (numbers.map toString ++ zone) ++ ")"

end Moment

end ClassPurge
