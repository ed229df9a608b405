import AdRules.Text.Utf8

/-!
# Percent escapes

A percent sign and two hexadecimal digits stand for one byte. A percent sign that is followed by
anything else stands for itself.
-/

namespace AdRules.Text

/-- The value of a hexadecimal digit. -/
def hexValue? (byte : UInt8) : Option UInt8 :=
  if 0x30 ≤ byte ∧ byte ≤ 0x39 then some (byte - 0x30)
  else if 0x41 ≤ byte ∧ byte ≤ 0x46 then some (byte - 0x41 + 10)
  else if 0x61 ≤ byte ∧ byte ≤ 0x66 then some (byte - 0x61 + 10)
  else none

/-- The byte that two hexadecimal digits stand for. -/
def hexByte? (high low : UInt8) : Option UInt8 :=
  match hexValue? high, hexValue? low with
  | some high, some low => some (high * 16 + low)
  | _, _ => none

/-- Bytes with every escape resolved. -/
def unescapeBytes : List UInt8 → List UInt8
  | byte :: high :: low :: rest =>
    if byte = 0x25 then
      match hexByte? high low with
      | some resolved => resolved :: unescapeBytes rest
      | none => byte :: unescapeBytes (high :: low :: rest)
    else byte :: unescapeBytes (high :: low :: rest)
  | bytes => bytes

/-- A text with every escape resolved. -/
def unescape (text : String) : String := ofBytes (unescapeBytes (toBytes text))

end AdRules.Text
