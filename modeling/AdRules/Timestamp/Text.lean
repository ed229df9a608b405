import AdRules.Timestamp
import AdRules.Double.Text

/-!
# Timestamps as text

The written form is date, separator, time, a fraction of six digits when it is not zero, and the
offset. Records show an offset in hours and minutes and its absence from universal time as `Z`;
elsewhere an offset is shown in full.
-/

namespace AdRules.Timestamp

/-- A number with at least `width` digits. -/
def padded (width n : Nat) : String := String.ofList (padLeft width (Nat.toDigits 10 n))

/-- The date, as a year of some least width, month and day. -/
def dateOf (yearWidth : Nat) (civil : Civil) : String :=
  padded yearWidth civil.year.toNat ++ "-" ++ padded 2 civil.month ++ "-" ++ padded 2 civil.day

/-- The date with all four digits of the year. -/
def dateText (civil : Civil) : String := dateOf 4 civil

/-- Seconds of a day as hours, minutes and seconds. -/
def clockOf (seconds : Nat) : String :=
  padded 2 (seconds / 3600) ++ ":" ++ padded 2 (seconds / 60 % 60) ++ ":" ++ padded 2 (seconds % 60)

/-- The time of day to the second. -/
def clockText (civil : Civil) : String :=
  padded 2 civil.hour ++ ":" ++ padded 2 civil.minute ++ ":" ++ padded 2 civil.second

/-- A fraction of a second in microseconds, left out when it is zero. -/
def fractionText (microsecond : Nat) : String :=
  if microsecond = 0 then "" else "." ++ padded 6 microsecond

/-- Date and time of day with a separator between them. -/
def wallText (separator : String) (time : Timestamp) : String :=
  let civil := time.civil
  dateText civil ++ separator ++ clockText civil ++ fractionText civil.microsecond

/-- The sign of an offset. -/
def signText (offset : Int) : String := if offset < 0 then "-" else "+"

/-- Seconds as hours and minutes; what is left over is dropped. -/
def minutesText (seconds : Nat) : String :=
  padded 2 (seconds / 3600) ++ ":" ++ padded 2 (seconds / 60 % 60)

/-- An offset in full: hours and minutes, with seconds and a fraction when there are any. -/
def offsetText (offset : Int) : String :=
  let size := offset.natAbs
  let seconds := size / 1000000
  signText offset ++
    if size % 60000000 = 0 then minutesText seconds
    else clockOf seconds ++ fractionText (size % 1000000)

/-- An offset in hours and minutes, of the nearest second; `Z` when that is none. -/
def shortOffsetText (offset : Int) : String :=
  let seconds := (2 * offset.natAbs + 1000000) / 2000000
  if seconds = 0 then "Z" else signText offset ++ minutesText seconds

/-- The form used in records, where universal time is `Z`. -/
def recordText (time : Timestamp) : String :=
  wallText "T" time ++ (time.offset.map shortOffsetText).getD ""

/-- The form in which every offset is written in full. -/
def isoText (time : Timestamp) : String :=
  wallText "T" time ++ (time.offset.map offsetText).getD ""

/-- The form for people, with a blank between date and time. -/
def plainText (time : Timestamp) : String :=
  wallText " " time ++ (time.offset.map offsetText).getD ""

end AdRules.Timestamp
