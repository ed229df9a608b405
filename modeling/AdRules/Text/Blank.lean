import AdRules.Text.Ranges

/-!
# Blanks

Two classes of blanks: the six of ASCII, which numbers may have around them, and the wider class of
separators that a name loses at its ends.
-/

namespace AdRules.Text

/-- A space, tab, line break, vertical tab, form feed or carriage return. -/
def isAsciiBlank (c : Char) : Bool := decide (c = ' ') || decide (9 ≤ c.toNat ∧ c.toNat ≤ 13)

/-- Blanks of every script, with the four information separators and the next-line control. -/
def blanks : List (Nat × Nat) :=
  [(0x9, 0xD), (0x1C, 0x20), (0x85, 0x85), (0xA0, 0xA0), (0x1680, 0x1680), (0x2000, 0x200A),
   (0x2028, 0x2029), (0x202F, 0x202F), (0x205F, 0x205F), (0x3000, 0x3000)]

/-- A blank of any script. -/
def isBlank (c : Char) : Bool := inRanges blanks c

/-- The characters left when those of a class are taken off both ends. -/
def trimBoth (drop : Char → Bool) (text : List Char) : List Char :=
  ((text.dropWhile drop).reverse.dropWhile drop).reverse

/-- A text without the blanks at its ends. -/
def strip (text : String) : String := String.ofList (trimBoth isBlank text.toList)

end AdRules.Text
