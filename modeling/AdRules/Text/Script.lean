import AdRules.Text.Number

/-!
# Numbers in any script

The digits and blanks of every script count as those of ASCII. What the resulting characters denote
is left to the readers of decimal notation.
-/

namespace AdRules.Text

/-- A character as numbers are read: blanks and digits of other scripts become those of ASCII, and
    what else is outside ASCII becomes a character that is in no number. -/
def numeralOf (c : Char) : Char :=
  if c.toNat < 0x7F then c
  else if isBlank c then ' '
  else
    match digitValue? c with
    | some value => Char.ofNat (48 + value)
    | none => '?'

/-- The characters of a text as numbers are read. A text of ASCII alone is taken as it is. -/
def numeral (text : String) : List Char :=
  let chars := text.toList
  if chars.all fun c => decide (c.toNat < 0x80) then chars else chars.map numeralOf

/-- The double that a text denotes. -/
def toDouble? (text : String) : Option Double :=
  (joined? (trimBoth isAsciiBlank (numeral text))).bind readDouble?

/-- The integer that a text denotes. -/
def toInteger (text : String) : Numeral := readInteger (numeral text)

end AdRules.Text
