import AdRules.Text.Stray
import AdRules.Text.Utf8

/-!
# Encodings

How bytes stand for text, guessed from the zeros among the first of them: text mostly begins with
characters of one byte, which leaves zeros in wider units. Units of sixteen bits are taken in pairs
where they are halves of one character.
-/

namespace AdRules.Text

/-- Units of one, two or four bytes; of the wider ones either the first byte is the highest or the
    last one. -/
inductive Encoding where
  | single
  | double (highFirst : Bool)
  | quadruple (highFirst : Bool)
  deriving DecidableEq

namespace Encoding

/-- The encoding that the zeros among the first bytes speak for. -/
def guess : List UInt8 → Encoding
  | first :: second :: third :: fourth :: _ =>
    if first = 0 then if second = 0 then .quadruple true else .double true
    else if second = 0 then if third = 0 ∧ fourth = 0 then .quadruple false else .double false
    else .single
  | [first, second] =>
    if first = 0 then .double true else if second = 0 then .double false else .single
  | _ => .single

/-- The units of two bytes, unless a byte is left over. -/
def doubles? (highFirst : Bool) : List UInt8 → Option (List Nat)
  | [] => some []
  | [_] => none
  | first :: second :: rest =>
    let unit :=
      if highFirst then first.toNat * 256 + second.toNat else second.toNat * 256 + first.toNat
    (doubles? highFirst rest).map (unit :: ·)

/-- The units of four bytes, out of units of two. -/
def quadruples? (highFirst : Bool) : List Nat → Option (List Nat)
  | [] => some []
  | [_] => none
  | first :: second :: rest =>
    let unit := if highFirst then first * 65536 + second else second * 65536 + first
    (quadruples? highFirst rest).map (unit :: ·)

/-- The characters of units of sixteen bits. -/
def charsOfUnits : List Nat → List Char
  | high :: low :: rest =>
    if 0xD800 ≤ high ∧ high < 0xDC00 ∧ 0xDC00 ≤ low ∧ low < 0xE000 then
      charOfPair high low :: charsOfUnits rest
    else charOfUnit high :: charsOfUnits (low :: rest)
  | [unit] => [charOfUnit unit]
  | [] => []

/-- The text of bytes in an encoding, unless they do not make up units or a unit is no character. -/
def decode? (bytes : List UInt8) : Encoding → Option String
  | .single => some (ofBytes bytes)
  | .double highFirst =>
    (doubles? highFirst bytes).map fun units => String.ofList (charsOfUnits units)
  | .quadruple highFirst => do
    let units ← quadruples? highFirst (← doubles? highFirst bytes)
    if units.all (decide <| · < 0x110000) then some (String.ofList (units.map charOfUnit)) else none

end Encoding

end AdRules.Text
