/-!
# Stray halves

A text may hold half of a surrogate pair without the other half, which no character denotes. Such a
half is kept as a stand-in, one of the code points from `firstStray` on in the last private plane.
Wherever a text is written with escapes the half is written for its stand-in; a text that has to be
written in bytes must not hold one.

Texts that really hold one of these 2048 private characters are left out: nothing here tells such a
character from the half that it stands in for. All other texts have one form each.
-/

namespace AdRules.Text

/-- The stand-in of the first half. -/
def firstStray : Nat := 0x10F000

/-- The first of the halves of surrogate pairs. -/
def firstHalf : Nat := 0xD800

/-- How many halves there are, and so how many characters stand in for one. -/
def halfCount : Nat := 0x800

/-- A unit of sixteen bits is half of a surrogate pair. -/
def isHalf (unit : Nat) : Bool := decide (firstHalf ≤ unit ∧ unit < firstHalf + halfCount)

/-- The character of a unit of sixteen bits, a stand-in when the unit is a half. -/
def charOfUnit (unit : Nat) : Char :=
  Char.ofNat (if isHalf unit then firstStray + (unit - firstHalf) else unit)

/-- The half that a character stands in for. All other characters stand for themselves. -/
def half? (c : Char) : Option Nat :=
  if firstStray ≤ c.toNat ∧ c.toNat < firstStray + halfCount then
    some (firstHalf + (c.toNat - firstStray))
  else none

/-- The character of a pair of halves. -/
def charOfPair (high low : Nat) : Char :=
  Char.ofNat (0x10000 + (high - 0xD800) * 0x400 + (low - 0xDC00))

/-- No half stands alone in a text, which can then be written as bytes. -/
def isWhole (text : String) : Bool := text.toList.all fun c => (half? c).isNone

end AdRules.Text
