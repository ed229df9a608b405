import AdRules.Timestamp.Reader

/-!
# The full written form read back

A date, any one character, and a time of day with an offset. Time and offset have the same form:
hours, minutes and seconds with a fraction, from the right of which parts may be missing. A date
alone is midnight.
-/

namespace AdRules.Timestamp

/-- Microseconds of hours, minutes and seconds with a fraction. -/
def spanOf? (hours minutes seconds : Option Nat) (microseconds : Nat) : Option Nat := do
  let hours ← hours
  let minutes ← minutes
  let seconds ← seconds
  if hours > 23 ∨ minutes > 59 ∨ seconds > 59 then none
  else some ((hours * 3600 + minutes * 60 + seconds) * 1000000 + microseconds)

/-- The microseconds of a fraction with its mark, which may be missing. -/
def isoFraction? : List Char → Option Nat
  | [] => some 0
  | mark :: digits =>
    if (mark = '.' ∨ mark = ',') ∧ !digits.isEmpty ∧ digits.all Text.isAsciiDigit then
      some (fractionOf digits)
    else none

/-- A time of day, or the size of an offset, in microseconds. -/
def isoSpan? : List Char → Option Nat
  | [h, h'] => spanOf? (twoDigits? h h') (some 0) (some 0) 0
  | [h, h', ':', m, m'] => spanOf? (twoDigits? h h') (twoDigits? m m') (some 0) 0
  | [h, h', m, m'] => spanOf? (twoDigits? h h') (twoDigits? m m') (some 0) 0
  | h :: h' :: ':' :: m :: m' :: ':' :: s :: s' :: fraction => do
    spanOf? (twoDigits? h h') (twoDigits? m m') (twoDigits? s s') (← isoFraction? fraction)
  | h :: h' :: m :: m' :: s :: s' :: fraction => do
    spanOf? (twoDigits? h h') (twoDigits? m m') (twoDigits? s s') (← isoFraction? fraction)
  | _ => none

/-- An offset, which may be missing. -/
def isoOffset? : List Char → Option (Option Int)
  | [] => some none
  | ['Z'] => some (some 0)
  | '+' :: span => (isoSpan? span).map fun size => some (size : Int)
  | '-' :: span => (isoSpan? span).map fun size => some (-(size : Int))
  | _ => none

/-- A timestamp in its full written form. -/
def ofIso? (text : String) : Option Timestamp :=
  match readDate text.toList with
  | .error _ => none
  | .ok ((year, month, day), rest) =>
    let midnight := Civil.toMicroseconds ⟨year, month, day, 0, 0, 0, 0⟩
    match rest with
    | [] => some ⟨midnight, none⟩
    | _ :: rest => do
      let isClock (c : Char) : Bool := !(['Z', '+', '-'].contains c)
      let clock ← isoSpan? (rest.takeWhile isClock)
      let offset ← isoOffset? (rest.dropWhile isClock)
      some ⟨midnight + clock, offset⟩

end AdRules.Timestamp
