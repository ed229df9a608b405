/-!
# Timestamps

A timestamp is what a wall clock shows, to the microsecond, with or without the offset of that clock
from universal time. Timestamps without an offset are ordered by what the clock shows, timestamps
with one by the instant they denote, and the two kinds are not comparable with each other.
-/

namespace AdRules

/-- A wall-clock reading, with the offset from universal time if it carries one. Nothing is known of
    zones here. -/
structure Timestamp where
  /-- Microseconds shown by the clock since the start of 1970. -/
  wall : Int
  /-- Microseconds by which the clock is ahead of universal time, when known. -/
  offset : Option Int
  deriving DecidableEq

namespace Timestamp

/-- A reading of a clock that carries an offset. -/
def isAware (time : Timestamp) : Bool := time.offset.isSome

/-- Microseconds since the start of 1970 in universal time; a reading without an offset counts as
    universal time. -/
def instant (time : Timestamp) : Int := time.wall - time.offset.getD 0

/-- Two readings that can be put in order: both carry an offset, or neither does. -/
def comparable (left right : Timestamp) : Bool := left.isAware == right.isAware

/-- The reading moved by some microseconds, forwards or backwards. Its offset stays. -/
def advance (time : Timestamp) (microseconds : Int) : Timestamp :=
  { time with wall := time.wall + microseconds }

end Timestamp

/-- A day of the calendar and a time of day. -/
structure Civil where
  year : Int
  month : Nat
  day : Nat
  hour : Nat
  minute : Nat
  second : Nat
  microsecond : Nat
  deriving DecidableEq

namespace Civil

/-- A year with a 29th of February. -/
def isLeap (year : Int) : Bool := (year % 4 == 0 && year % 100 != 0) || year % 400 == 0

/-- The days of a month, none for a number that is no month. -/
def monthLength (year : Int) (month : Nat) : Nat :=
  if month = 2 then if isLeap year then 29 else 28
  else if month = 4 ∨ month = 6 ∨ month = 9 ∨ month = 11 then 30
  else if 1 ≤ month ∧ month ≤ 12 then 31
  else 0

/-- Days from the start of 1970 to a date. Years are counted from March, so that a leap day is the
    last day of its year, in eras of 400 years. -/
def daysOf (year : Int) (month day : Nat) : Int :=
  let shifted := if month ≤ 2 then year - 1 else year
  let era := shifted.fdiv 400
  let yearOfEra := shifted - era * 400
  let monthIndex : Int := if month > 2 then (month : Int) - 3 else (month : Int) + 9
  let dayOfYear := (153 * monthIndex + 2).fdiv 5 + (day : Int) - 1
  let dayOfEra := yearOfEra * 365 + yearOfEra.fdiv 4 - yearOfEra.fdiv 100 + dayOfYear
  era * 146097 + dayOfEra - 719468

/-- The date that is some days after the start of 1970, as year, month and day. -/
def dateOf (days : Int) : Int × Nat × Nat :=
  let shifted := days + 719468
  let era := shifted.fdiv 146097
  let dayOfEra := shifted - era * 146097
  let yearOfEra :=
    (dayOfEra - dayOfEra.fdiv 1460 + dayOfEra.fdiv 36524 - dayOfEra.fdiv 146096).fdiv 365
  let dayOfYear := dayOfEra - (365 * yearOfEra + yearOfEra.fdiv 4 - yearOfEra.fdiv 100)
  let monthIndex := (5 * dayOfYear + 2).fdiv 153
  let day := (dayOfYear - (153 * monthIndex + 2).fdiv 5 + 1).toNat
  let month := (if monthIndex < 10 then monthIndex + 3 else monthIndex - 9).toNat
  (yearOfEra + era * 400 + (if month ≤ 2 then 1 else 0), month, day)

/-- Microseconds from the start of 1970. -/
def toMicroseconds (civil : Civil) : Int :=
  ((daysOf civil.year civil.month civil.day * 86400 +
      ((civil.hour * 3600 + civil.minute * 60 + civil.second : Nat) : Int)) * 1000000) +
    civil.microsecond

/-- The date and time some microseconds after the start of 1970. -/
def ofMicroseconds (total : Int) : Civil :=
  let seconds := total.fdiv 1000000
  let days := seconds.fdiv 86400
  let rest := (seconds - days * 86400).toNat
  let (year, month, day) := dateOf days
  ⟨year, month, day, rest / 3600, rest / 60 % 60, rest % 60, (total - seconds * 1000000).toNat⟩

end Civil

/-- What the clock shows, as a date and a time of day. -/
def Timestamp.civil (time : Timestamp) : Civil := Civil.ofMicroseconds time.wall

end AdRules
