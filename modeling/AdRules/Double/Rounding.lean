import AdRules.Double

/-!
# Rounding to a double

The one rounding rule of the library: to nearest, a half going to the even neighbour. It is stated
once on quotients of natural numbers, and serves integers, decimal text and fixed decimal places.
-/

namespace AdRules

/-- The integer nearest to a quotient; of two equally near ones, the even one. -/
def nearest (numerator denominator : Nat) : Nat :=
  let quotient := numerator / denominator
  let rest := numerator % denominator
  if 2 * rest < denominator then quotient
  else if denominator < 2 * rest then quotient + 1
  else if quotient % 2 = 0 then quotient
  else quotient + 1

/-- The magnitude nearest to a quotient. There is none when the quotient is beyond the largest one
    by at least half of its last place. -/
def Magnitude.ofRatio? (numerator denominator : Nat) : Option Magnitude :=
  let scaled := numerator * twoTo unitExponent
  let shift := Nat.log2 (scaled / denominator) - 52
  let mantissa := nearest scaled (denominator * twoTo shift)
  if mantissa = mantissaBound then Magnitude.ofParts? leadingBit (shift + 1)
  else Magnitude.ofParts? mantissa shift

namespace Double

/-- The double nearest to a signed quotient, an infinity when it is out of range. -/
def ofRatio (negative : Bool) (numerator denominator : Nat) : Double :=
  ((Magnitude.ofRatio? numerator denominator).map (.finite negative ·)).getD (.infinity negative)

/-- The double nearest to an integer, unless the integer is out of range. -/
def ofInt? (value : Int) : Option Double :=
  (Magnitude.ofRatio? value.natAbs 1).map (.finite (decide (value < 0)) ·)

/-- The double nearest to an integer, an infinity when it is out of range. -/
def ofInt (value : Int) : Double := ofRatio (decide (value < 0)) value.natAbs 1

end Double

end AdRules
