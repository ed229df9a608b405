import AdRules.Power

/-!
# Binary doubles as exact numbers

A double is not-a-number, a signed infinity, or a signed magnitude. A magnitude is an integer
multiple of the smallest positive double, `2 ^ -1074`, kept in a normal form, so two magnitudes are
equal exactly when they denote the same number. Nothing here rounds: comparisons between doubles,
and between a double and an integer of any size, are comparisons of integers counted in that unit.
-/

namespace AdRules

/-- Binary digits below the point of the smallest positive double. -/
def unitExponent : Nat := 1074

/-- The largest shift of a finite magnitude. What would need a larger one is beyond the doubles. -/
def maximalShift : Nat := 2045

/-- The nonnegative part of a finite double: `mantissa * 2 ^ shift` units. A shift is only taken
    when the mantissa needs all of its 53 bits, which makes the pair unique. -/
structure Magnitude where
  mantissa : Nat
  shift : Nat
  normal : mantissa < mantissaBound ∧ shift ≤ maximalShift ∧ (shift = 0 ∨ leadingBit ≤ mantissa)
  deriving DecidableEq

namespace Magnitude

/-- The magnitude counted in units of `2 ^ -1074`, the distance of the smallest doubles. Every
    magnitude is a whole number of them. -/
def units (size : Magnitude) : Nat := size.mantissa * twoTo size.shift

/-- The magnitude that nothing is smaller than, which both zeros have. -/
def zero : Magnitude := ⟨0, 0, by decide⟩

/-- The pair as a magnitude, when it is in normal form. -/
def ofParts? (mantissa shift : Nat) : Option Magnitude :=
  if normal : mantissa < mantissaBound ∧ shift ≤ maximalShift ∧
      (shift = 0 ∨ leadingBit ≤ mantissa) then
    some ⟨mantissa, shift, normal⟩
  else none

/-- The integer part of the magnitude, with its fraction cut off. -/
def whole (size : Magnitude) : Nat := size.units / twoTo unitExponent

/-- A magnitude without a fraction, which large ones never have. -/
def isWhole (size : Magnitude) : Bool := size.units % twoTo unitExponent == 0

end Magnitude

/-- A binary double of sixty-four bits. The sign is kept on zero, and there is one not-a-number. -/
inductive Double where
  | nan
  | infinity (negative : Bool)
  | finite (negative : Bool) (size : Magnitude)
  deriving DecidableEq

namespace Double

/-- Positive zero, which stands for an amount that is not given. -/
def zero : Double := .finite false .zero

/-- The default double is positive zero, as that of an amount which is not given. -/
instance : Inhabited Double := ⟨zero⟩

/-- Neither not-a-number nor an infinity; only such doubles are figures. -/
def isFinite : Double → Bool
  | .finite _ _ => true
  | _ => false

/-- The integer nearest to a finite double in the direction of zero. -/
def truncate? : Double → Option Int
  | .finite true size => some (-(size.whole : Int))
  | .finite false size => some size.whole
  | _ => none

/-- The value of a finite double that has no fraction. -/
def whole? (x : Double) : Option Int :=
  match x with
  | .finite _ size => if size.isWhole then x.truncate? else none
  | _ => none

end Double

/-- A place on the extended number line, finite places counted in units of `2 ^ -1074`. -/
inductive Level where
  | below
  | exact (units : Int)
  | above
  deriving DecidableEq

namespace Level

/-- The order of the extended number line, with an end on either side. -/
def le : Level → Level → Bool
  | .below, _ => true
  | _, .above => true
  | .exact left, .exact right => decide (left ≤ right)
  | _, _ => false

/-- The strict order of the extended number line: of two different places one is below the other. -/
def lt (left right : Level) : Bool := !right.le left

end Level

/-- The place of a double on the number line, which not-a-number lacks. Both zeros have the same. -/
def Double.level? : Double → Option Level
  | .nan => none
  | .infinity true => some .below
  | .infinity false => some .above
  | .finite true size => some (.exact (-(size.units : Int)))
  | .finite false size => some (.exact size.units)

/-- An integer of any size or a double. The two are compared exactly, without rounding the integer.
    -/
inductive Number where
  | int (value : Int)
  | float (value : Double)
  deriving DecidableEq

/-- The place of a number; an integer is placed exactly, however large it is. -/
def Number.level? : Number → Option Level
  | .int value => some (.exact (value * twoTo unitExponent))
  | .float value => value.level?

end AdRules
