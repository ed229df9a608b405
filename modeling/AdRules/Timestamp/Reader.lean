import AdRules.Timestamp
import AdRules.Text.Number

/-!
# Reading timestamps

A timestamp is read from a date and time, from a date alone, or from a count of seconds since the
start of 1970 in universal time. A count beyond `watershed` is taken as milliseconds; its fraction
is rounded to the nearest microsecond. The reasons for refusing a text are those of its date part: a
text that starts with a sound date has at worst unexpected characters after it.
-/

namespace AdRules.Timestamp

/-- Why something is not a timestamp, in the words of the validation library. -/
inductive Fault where
  | tooShort
  | yearDigit
  | monthDigit
  | dayDigit
  | dateSeparator
  | monthRange
  | dayRange
  | trailing
  | tooLarge
  | tooSmall
  | notANumber
  | yearZero
  deriving DecidableEq

/-- The wording of a reason. -/
def Fault.text : Fault → String
  | .tooShort => "input is too short"
  | .yearDigit => "invalid character in year"
  | .monthDigit => "invalid character in month"
  | .dayDigit => "invalid character in day"
  | .dateSeparator => "invalid date separator, expected \x60-\x60"
  | .monthRange => "month value is outside expected range of 1-12"
  | .dayRange => "day value is outside expected range"
  | .trailing => "unexpected extra characters at the end of the input"
  | .tooLarge => "dates after 9999 are not supported as unix timestamps"
  | .tooSmall => "dates before 0000 are not supported as unix timestamps"
  | .notANumber => "NaN values not permitted"
  | .yearZero => "year 0 is out of range"

/-- The bytes of a text, each as a character. -/
def bytesOf (text : String) : List Char := text.toUTF8.toList.map fun byte => Char.ofNat byte.toNat

/-- The value of two digits. -/
def twoDigits? (tens ones : Char) : Option Nat :=
  if Text.isAsciiDigit tens && Text.isAsciiDigit ones then some (Text.natOfDigits [tens, ones])
  else none

/-- A date of ten bytes, and what follows it. -/
def readDate : List Char → Except Fault ((Int × Nat × Nat) × List Char)
  | y1 :: y2 :: y3 :: y4 :: s1 :: m1 :: m2 :: s2 :: d1 :: d2 :: rest => do
    if !([y1, y2, y3, y4].all Text.isAsciiDigit) then throw .yearDigit
    if s1 ≠ '-' then throw .dateSeparator
    let some month := twoDigits? m1 m2 | throw .monthDigit
    if s2 ≠ '-' then throw .dateSeparator
    let some day := twoDigits? d1 d2 | throw .dayDigit
    let year : Int := Text.natOfDigits [y1, y2, y3, y4]
    if month < 1 ∨ 12 < month then throw .monthRange
    if day < 1 ∨ Civil.monthLength year month < day then throw .dayRange
    pure ((year, month, day), rest)
  | _ => .error .tooShort

/-- The microseconds of a fraction's digits; digits after the sixth are dropped. -/
def fractionOf (digits : List Char) : Nat :=
  Text.natOfDigits (digits.take 6) * tenTo (6 - digits.length)

/-- Seconds with an optional fraction, and what follows them. -/
def readSeconds? : List Char → Option ((Nat × Nat) × List Char)
  | ':' :: tens :: ones :: rest => do
    let second ← twoDigits? tens ones
    if second > 59 then failure
    match rest with
    | point :: after =>
      if point = '.' ∨ point = ',' then
        let digits := after.takeWhile Text.isAsciiDigit
        if digits.isEmpty then failure
        pure ((second, fractionOf digits), after.dropWhile Text.isAsciiDigit)
      else pure ((second, 0), rest)
    | [] => pure ((second, 0), [])
  | ':' :: _ => none
  | rest => some ((0, 0), rest)

/-- Minutes of an offset after its hours, with or without a colon; nothing may follow. -/
def offsetMinutes? : List Char → Option Nat
  | [':', tens, ones] => twoDigits? tens ones
  | [tens, ones] => twoDigits? tens ones
  | _ => none

/-- An offset of less than a day, in microseconds. -/
def signedOffset? (sign : Int) : List Char → Option Int
  | tens :: ones :: rest => do
    let hours ← twoDigits? tens ones
    let minutes ← offsetMinutes? rest
    if minutes > 59 ∨ hours > 23 then failure
    pure (sign * ((hours * 3600 + minutes * 60) * 1000000 : Nat))
  | _ => none

/-- The offset at the end of a timestamp; the minus sign may be the typographic one. -/
def readOffset? : List Char → Option (Option Int)
  | [] => some none
  | ['Z'] => some (some 0)
  | ['z'] => some (some 0)
  | '+' :: rest => (signedOffset? 1 rest).map some
  | '-' :: rest => (signedOffset? (-1) rest).map some
  | '\u00E2' :: '\u0088' :: '\u0092' :: rest => (signedOffset? (-1) rest).map some
  | _ => none

/-- A time of day with its offset, to the end of the text. -/
def readClock? : List Char → Option ((Nat × Nat × Nat × Nat) × Option Int)
  | h1 :: h2 :: ':' :: m1 :: m2 :: rest => do
    let hour ← twoDigits? h1 h2
    let minute ← twoDigits? m1 m2
    if hour > 23 ∨ minute > 59 then failure
    let ((second, fraction), rest) ← readSeconds? rest
    let offset ← readOffset? rest
    pure ((hour, minute, second, fraction), offset)
  | _ => none

/-- A date, a separator and a time of day. -/
def readFull? (bytes : List Char) : Option Timestamp :=
  match readDate bytes with
  | .ok ((year, month, day), separator :: rest) =>
    if ['T', 't', ' ', '_'].contains separator then
      (readClock? rest).map fun ((hour, minute, second, fraction), offset) =>
        ⟨Civil.toMicroseconds ⟨year, month, day, hour, minute, second, fraction⟩, offset⟩
    else none
  | _ => none

/-- Counts up to this are seconds, larger ones milliseconds. -/
def watershed : Nat := 20000000000

/-- The reading some microseconds after the start of 1970 in universal time. -/
def ofMicroseconds (total : Int) : Except Fault Timestamp :=
  let seconds := total.fdiv 1000000
  if seconds < -62167219200 then .error .tooSmall
  else if seconds > 253402300799 then .error .tooLarge
  else .ok ⟨total, some 0⟩

/-- A whole count. -/
def ofUnix (count : Int) : Except Fault Timestamp :=
  ofMicroseconds (count * if count.natAbs ≤ watershed then 1000000 else 1000)

/-- The integer nearest to a nonnegative quotient, halves going up. -/
def halfUp (numerator denominator : Nat) : Nat := (2 * numerator + denominator) / (2 * denominator)

/-- The nearest double to a quotient, in units of the smallest one. -/
def roundedUnits (numerator denominator : Nat) : Nat :=
  match Magnitude.ofRatio? numerator denominator with
  | some size => size.units
  | none => 0

/-- One in units of the smallest double. -/
def oneUnit : Nat := twoTo unitExponent

/-- The integer below a double, and the double nearest to their distance in units of the smallest
    one. -/
def floorAndRest (negative : Bool) (size : Magnitude) : Int × Nat :=
  let rest := size.units % oneUnit
  if negative ∧ rest ≠ 0 then
    (-((size.whole + 1 : Nat) : Int), roundedUnits (oneUnit - rest) oneUnit)
  else (if negative then -size.whole else size.whole, rest)

/-- A count given as a double. -/
def ofSeconds : Double → Except Fault Timestamp
  | .nan => .error .notANumber
  | .infinity true => .error .tooSmall
  | .infinity false => .error .tooLarge
  | .finite negative size =>
    let (floor, rest) := floorAndRest negative size
    let scale : Nat := if size.units ≤ watershed * oneUnit then 1000000 else 1000
    ofMicroseconds (floor * scale + halfUp (roundedUnits (rest * scale) oneUnit) oneUnit)

/-- A count in digits, with or without a fraction. -/
inductive Count where
  | whole (value : Int)
  | fractional (value : Double)

/-- A count: digits with a sign that fit 64 bits, or a number with a point before any other mark. -/
def readCount? (bytes : List Char) : Option Count :=
  let (negative, body) := Text.takeSign bytes
  let digits := body.takeWhile Text.isAsciiDigit
  match body.dropWhile Text.isAsciiDigit with
  | [] =>
    let value := Text.signed negative (Text.natOfDigits digits)
    if digits.isEmpty ∨ value < -(wordBound : Int) ∨ (wordBound : Int) ≤ value then none
    else some (.whole value)
  | '.' :: _ => (Text.readDouble? bytes).map .fractional
  | _ => none

/-- The reading of a count. -/
def ofCount : Count → Except Fault Timestamp
  | .whole value => ofUnix value
  | .fractional value => ofSeconds value

/-- A date alone is midnight. A text that is a count out of range is refused for that. -/
def readDateOnly (bytes : List Char) : Except Fault Timestamp :=
  let fault (reason : Fault) : Except Fault Timestamp :=
    match readCount? bytes with
    | some (.whole value) => ofUnix value
    | _ => .error reason
  match readDate bytes with
  | .ok ((year, month, day), []) =>
    .ok ⟨Civil.toMicroseconds ⟨year, month, day, 0, 0, 0, 0⟩, none⟩
  | .ok _ => fault .trailing
  | .error reason => fault reason

/-- Reads a timestamp from a text. -/
def ofText (text : String) : Except Fault Timestamp :=
  let bytes := bytesOf text
  match readFull? bytes with
  | some time => .ok time
  | none =>
    match (readCount? bytes).map ofCount with
    | some (.ok time) => .ok time
    | _ => readDateOnly bytes

/-- The readings whose year has no number: those before the first year, which no calendar here goes
    back to. -/
def inYearZero (time : Timestamp) : Bool := decide (time.civil.year < 1)

end AdRules.Timestamp
