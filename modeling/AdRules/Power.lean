/-!
# Powers

Powers of two and of ten, and the two bounds that words of sixty-four bits and the digits of doubles
give.
-/

namespace AdRules

/-- A power of two. It is the power of natural numbers itself, so that it means the same whatever
    other powers are known where it is used. -/
def twoTo (exponent : Nat) : Nat := Nat.pow 2 exponent

/-- A power of ten, in the same way. -/
def tenTo (exponent : Nat) : Nat := Nat.pow 10 exponent

/-- Signed words of sixty-four bits are below it, `2 ^ 63`. -/
def wordBound : Nat := 0x8000000000000000

/-- The mantissas of doubles are below it, `2 ^ 53`. -/
def mantissaBound : Nat := 0x20000000000000

/-- The mantissas of doubles with a shift are not below it, `2 ^ 52`. -/
def leadingBit : Nat := 0x10000000000000

end AdRules
