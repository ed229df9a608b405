import AdRules.Double.Decimal
import AdRules.Text.Blank
import AdRules.Text.Digit

/-!
# Numbers in decimal notation

A number is a sign, digits around a point and an exponent, or one of the words for values that are
not finite. Underscores are no part of that notation. Readers that allow them take them out first,
by one of two rules: `joined?` wants each of them between two digits, `unscored?` only keeps them
away from the ends of the text and from each other.
-/

namespace AdRules.Text

/-- The blanks that may stand around a number. -/
def isNumberBlank (c : Char) : Bool := isBlank c && !decide (0x1C ≤ c.toNat ∧ c.toNat ≤ 0x1F)

/-- A sign and what follows it. -/
def takeSign : List Char → Bool × List Char
  | '-' :: rest => (true, rest)
  | '+' :: rest => (false, rest)
  | rest => (false, rest)

/-- A size with its sign. -/
def signed (negative : Bool) (size : Int) : Int := if negative then -size else size

/-- The digits before and after the point; one of the two sides may be empty. -/
def readMantissa? (chars : List Char) : Option (List Char × List Char) :=
  let front := chars.takeWhile isAsciiDigit
  match chars.dropWhile isAsciiDigit with
  | [] => if front.isEmpty then none else some (front, [])
  | '.' :: back =>
    if back.all isAsciiDigit && !(front.isEmpty && back.isEmpty) then some (front, back) else none
  | _ => none

/-- A signed exponent with its mark; absent is zero. -/
def exponentOf? : List Char → Option Int
  | [] => some 0
  | _ :: rest =>
    let (negative, digits) := takeSign rest
    if digits.isEmpty || !digits.all isAsciiDigit then none
    else some (signed negative (natOfDigits digits))

/-- A letter made small; other characters stay. -/
def asciiLower (c : Char) : Char :=
  if 'A' ≤ c ∧ c ≤ 'Z' then Char.ofNat (c.toNat + 32) else c

/-- A letter made large; other characters stay. -/
def asciiUpper (c : Char) : Char :=
  if 'a' ≤ c ∧ c ≤ 'z' then Char.ofNat (c.toNat - 32) else c

/-- The words for values that are not finite, without their sign. -/
def readWord? (negative : Bool) (chars : List Char) : Option Double :=
  match String.ofList (chars.map asciiLower) with
  | "inf" => some (.infinity negative)
  | "infinity" => some (.infinity negative)
  | "nan" => some .nan
  | _ => none

/-- The double nearest to a number in decimal notation. -/
def readDouble? (chars : List Char) : Option Double :=
  let (negative, body) := takeSign chars
  match readWord? negative body with
  | some word => some word
  | none => do
    let isMark (c : Char) : Bool := c == 'e' || c == 'E'
    let (front, back) ← readMantissa? (body.takeWhile (!isMark ·))
    let exponent ← exponentOf? (body.dropWhile (!isMark ·))
    pure (Double.ofDecimal ⟨negative, natOfDigits (front ++ back), exponent - back.length⟩)

/-! ## Underscores -/

/-- The characters without underscores, given whether a digit stands before them; there are none if
    an underscore does not stand between two digits. -/
def joinedAfter? : Bool → List Char → Option (List Char)
  | _, [] => some []
  | afterDigit, c :: rest =>
    if c = '_' then
      if afterDigit && rest.head?.any isAsciiDigit then joinedAfter? false rest else none
    else (joinedAfter? (isAsciiDigit c) rest).map (c :: ·)

/-- A text without its underscores, each of which stands between two digits. -/
def joined? (chars : List Char) : Option (List Char) := joinedAfter? false chars

/-- A text with underscores without them, when none is at an end and no two stand together. -/
def unscored? (chars : List Char) : Option (List Char) :=
  if chars.contains '_' && chars.head? != some '_' && chars.getLast? != some '_' &&
      !(chars.zip chars.tail).contains ('_', '_') then
    some (chars.filter (· ≠ '_'))
  else none

/-! ## Integers -/

/-- Integers with more digits than this are neither read nor written. This is the limit that is set
    when a process starts; a process that sets another one is left outside. -/
def mostDigits : Nat := 4300

/-- An integer is short enough to be written; its sign does not count as a digit. -/
def isWritable (value : Int) : Bool := decide (value.natAbs < tenTo mostDigits)

/-- The wording of the refusal of an integer for its length, which is told where a text was to be
    read and not where an integer was to be written. -/
def tooManyDigits (digits : Option Nat) : String :=
  "Exceeds the limit (" ++ toString mostDigits ++ " digits) for integer string conversion" ++
    (match digits with
      | some digits => ": value has " ++ toString digits ++ " digits"
      | none => "") ++
    "; use sys.set_int_max_str_digits() to increase the limit"

/-- What a text is to a reader of integers. -/
inductive Numeral where
  | integer (value : Int)
  /-- It begins with more digits than are read. -/
  | tooLong (digits : Nat)
  | malformed
  deriving DecidableEq

/-- The value of a numeral, if it has one. -/
def Numeral.value? : Numeral → Option Int
  | .integer value => some value
  | _ => none

/-- Takes a point with at least one zero, and nothing but zeros, off the end. -/
def dropZeroFraction (chars : List Char) : List Char :=
  match chars.dropWhile (· ≠ '.') with
  | '.' :: zeros =>
    if !zeros.isEmpty && zeros.all (· = '0') then chars.takeWhile (· ≠ '.') else chars
  | _ => chars

/-- What follows a zero and the zeros and underscores behind it: a number of its own, or the last of
    them when nothing follows or a point does. -/
def behindZeros? (last : Char) : List Char → Option (List Char)
  | [] => some [last]
  | c :: rest =>
    if c = '0' ∨ c = '_' then behindZeros? c rest
    else if c = '.' then some (last :: c :: rest)
    else if c = '-' ∨ isAsciiDigit c then some (c :: rest)
    else none

/-- A number without the zeros it begins with. -/
def dropZeros? : List Char → Option (List Char)
  | [] => none
  | c :: rest =>
    if c = '0' then behindZeros? c rest
    else if c = '-' ∨ isAsciiDigit c then some (c :: rest)
    else none

/-- A minus sign, if any, and digits, of which the first is not zero unless it is the only one. -/
def readDigits (chars : List Char) : Numeral :=
  let negative := chars.head? = some '-'
  let body := if negative then chars.tail else chars
  let digits := body.takeWhile isAsciiDigit
  if digits.head? = some '0' ∧ 1 < digits.length then .malformed
  else if mostDigits < digits.length then .tooLong digits.length
  else if digits.isEmpty ∨ digits.length ≠ body.length then .malformed
  else .integer (signed negative (natOfDigits digits))

/-- An integer as it may be written in a request: with a plus sign, zeros before it, underscores in
    it, and a point with zeros behind it. -/
def readLenient (chars : List Char) : Numeral :=
  let unsigned := match chars with
    | '+' :: '-' :: _ => none
    | '+' :: rest => some rest
    | rest => some rest
  match (unsigned.bind dropZeros?).map dropZeroFraction with
  | some body => readDigits ((unscored? body).getD body)
  | none => .malformed

/-- The digits, with underscores between them, that a text begins with, less the underscores; there
    are none when an underscore does not stand between two digits. -/
def leadingDigits? (chars : List Char) : Option (List Char) :=
  joined? (chars.takeWhile fun c => isAsciiDigit c || c == '_')

/-- An integer with an optional sign, underscores between its digits and ASCII blanks around it. -/
def readInteger (chars : List Char) : Numeral :=
  let (negative, body) := takeSign (chars.dropWhile isAsciiBlank)
  match leadingDigits? body with
  | none => .malformed
  | some digits =>
    if mostDigits < digits.length then .tooLong digits.length
    else if digits.isEmpty ∨
        !(body.dropWhile fun c => isAsciiDigit c || c == '_').all isAsciiBlank then .malformed
    else .integer (signed negative (natOfDigits digits))

end AdRules.Text
