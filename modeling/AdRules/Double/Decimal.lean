import AdRules.Double.Rounding

/-!
# Decimal notation read as a double

A decimal is an integer times a power of ten. `Double.ofDecimal` is its nearest double; exponents
far outside the range of doubles are answered without building the power.
-/

namespace AdRules

/-- The number `digits * 10 ^ exponent` with a sign. -/
structure Decimal where
  negative : Bool
  digits : Nat
  exponent : Int
  deriving DecidableEq

/-- How many decimal digits a number is written with; one for zero. -/
def digitCount (n : Nat) : Nat := (Nat.toDigits 10 n).length

/-- The double nearest to a decimal. A decimal of at least `10 ^ 310` is out of range and one below
    `10 ^ -330` is nearest to zero. -/
def Double.ofDecimal (number : Decimal) : Double :=
  let leading := (digitCount number.digits : Int) + number.exponent
  if number.digits = 0 then .finite number.negative .zero
  else if leading > 311 then .infinity number.negative
  else if leading < -330 then .finite number.negative .zero
  else if number.exponent < 0 then
    Double.ofRatio number.negative number.digits (tenTo number.exponent.natAbs)
  else Double.ofRatio number.negative (number.digits * tenTo number.exponent.natAbs) 1

end AdRules
