/-!
# Reading bytes as text

Bytes are read as UTF-8. Where they are not UTF-8, the longest piece that could have begun a
character becomes one replacement character, and reading goes on with the next byte.
-/

namespace AdRules.Text

/-- The replacement character, which stands for bytes that are no character. -/
def replacement : Char := Char.ofNat 0xFFFD

/-- A character of which some bytes have been read: its bits so far, how many bytes are to come, and
    the range of the next one. -/
structure Begun where
  bits : Nat
  remaining : Nat
  least : Nat
  most : Nat

/-- The first byte of a character: the characters that it completes and the one that it begins. -/
def beginChar (byte : Nat) : List Char × Option Begun :=
  if byte < 0x80 then ([Char.ofNat byte], none)
  else if byte < 0xC2 then ([replacement], none)
  else if byte < 0xE0 then ([], some ⟨byte - 0xC0, 1, 0x80, 0xBF⟩)
  else if byte < 0xF0 then
    ([], some ⟨byte - 0xE0, 2, if byte = 0xE0 then 0xA0 else 0x80,
      if byte = 0xED then 0x9F else 0xBF⟩)
  else if byte < 0xF5 then
    ([], some ⟨byte - 0xF0, 3, if byte = 0xF0 then 0x90 else 0x80,
      if byte = 0xF4 then 0x8F else 0xBF⟩)
  else ([replacement], none)

/-- One more byte. A byte outside the range ends the character begun and begins another. -/
def readByte (begun : Option Begun) (byte : Nat) : List Char × Option Begun :=
  match begun with
  | none => beginChar byte
  | some ⟨bits, remaining, least, most⟩ =>
    if least ≤ byte ∧ byte ≤ most then
      let bits := bits * 64 + (byte - 0x80)
      if remaining ≤ 1 then ([Char.ofNat bits], none)
      else ([], some ⟨bits, remaining - 1, 0x80, 0xBF⟩)
    else
      let (chars, next) := beginChar byte
      (replacement :: chars, next)

/-- The characters of bytes that follow a character begun. -/
def charsFrom : Option Begun → List UInt8 → List Char
  | none, [] => []
  | some _, [] => [replacement]
  | begun, byte :: rest =>
    let (chars, next) := readByte begun byte.toNat
    chars ++ charsFrom next rest

/-- The text of some bytes. -/
def ofBytes (bytes : List UInt8) : String := String.ofList (charsFrom none bytes)

/-- The bytes of a text. -/
def toBytes (text : String) : List UInt8 := text.toUTF8.toList

end AdRules.Text
