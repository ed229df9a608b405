import AdRules.Double.Decimal

/-!
# Doubles in decimal notation

`Magnitude.shortest` gives the fewest decimal digits that read back as the same double, and of those
the nearest. `Layout` says how digits and exponent are written, and `Double.text` is the one layout
the library uses. `Double.fixed` writes a given number of decimal places instead.
-/

namespace AdRules

namespace Magnitude

/-- The decimal exponent of the leading digit of a positive magnitude. -/
def leadingExponent (size : Magnitude) : Int :=
  if size.units < twoTo unitExponent then -(digitCount (twoTo unitExponent / size.units) : Int)
  else (digitCount size.whole : Int) - 1

/-- The bounds of the reals that round to this magnitude, in quarters of a unit. Below a power of
    two the neighbour is only half as far away. -/
def rounding (size : Magnitude) : Nat × Nat :=
  let step := twoTo size.shift
  let below := if size.mantissa = leadingBit ∧ size.shift ≠ 0 then step else 2 * step
  (4 * size.units - below, 4 * size.units + 2 * step)

/-- The multiples of `10 ^ exponent` that lie next to the magnitude and read back as it, the nearer
    one first. Quarter units have the denominator `2 ^ 1076`. -/
def neighbours (size : Magnitude) (exponent : Int) : List Nat :=
  let one := twoTo (unitExponent + 2)
  let value := 4 * size.units
  let up := if exponent < 0 then tenTo exponent.natAbs else 1
  let grid := if exponent < 0 then one else one * tenTo exponent.natAbs
  let lower := value * up / grid
  let bounds := size.rounding
  let inside (candidate : Nat) : Bool :=
    if size.mantissa % 2 = 0 then
      decide (bounds.1 * up ≤ candidate * grid ∧ candidate * grid ≤ bounds.2 * up)
    else decide (bounds.1 * up < candidate * grid ∧ candidate * grid < bounds.2 * up)
  let rest := value * up - lower * grid
  let ordered :=
    if 2 * rest < grid ∨ (2 * rest = grid ∧ lower % 2 = 0) then [lower, lower + 1]
    else [lower + 1, lower]
  ordered.filter inside

/-- Removes the zeros at the end of a digit list, counting them. -/
def trimZeros (digits : List Char) : List Char × Nat :=
  let kept := (digits.reverse.dropWhile (· = '0')).reverse
  (kept, digits.length - kept.length)

/-- Tries `count` digits, then one more, until a neighbour reads back. -/
def shortestFrom (size : Magnitude) : Nat → Nat → List Char × Int
  | 0, count =>
    let exponent := size.leadingExponent - (count : Int) + 1
    (Nat.toDigits 10 ((size.neighbours exponent).headD 0), exponent)
  | fuel + 1, count =>
    let exponent := size.leadingExponent - (count : Int) + 1
    match size.neighbours exponent with
    | candidate :: _ => (Nat.toDigits 10 candidate, exponent)
    | [] => shortestFrom size fuel (count + 1)

/-- The digits of the shortest decimal that reads back, without zeros at the end, and the decimal
    exponent of the first digit. Seventeen digits always read back. -/
def shortest (size : Magnitude) : List Char × Int :=
  if size.mantissa = 0 then (['0'], 0)
  else
    let (digits, exponent) := shortestFrom size 16 1
    (((trimZeros digits).1), exponent + (digits.length : Int) - 1)

end Magnitude

/-- The decisions of a decimal notation: leading exponents from `least` up to but not including
    `limit` are written positionally, others with a mark and at least `width` exponent digits. -/
structure Layout where
  least : Int
  limit : Int
  mark : Char
  width : Nat

/-- Zeros to the left of a number text up to a width. -/
def padLeft (width : Nat) (digits : List Char) : List Char :=
  List.replicate (width - digits.length) '0' ++ digits

/-- Digits with their leading exponent, written in a layout. A positional number keeps one digit
    after the point. -/
def Layout.write (layout : Layout) (digits : List Char) (leading : Int) : List Char :=
  if layout.least ≤ leading ∧ leading < layout.limit then
    if leading < 0 then
      '0' :: '.' :: (List.replicate (leading.natAbs - 1) '0' ++ digits)
    else
      let width := leading.natAbs + 1
      let front := digits.take width
      let back := digits.drop width
      front ++ List.replicate (width - front.length) '0' ++ '.' ::
        (if back.isEmpty then ['0'] else back)
  else
    let sign := if leading < 0 then '-' else '+'
    let exponent := padLeft layout.width (Nat.toDigits 10 leading.natAbs)
    match digits with
    | [] => []
    | [digit] => digit :: layout.mark :: sign :: exponent
    | digit :: rest => digit :: '.' :: rest ++ layout.mark :: sign :: exponent

/-- The library's notation: positional from `0.0001` up to sixteen digits before the point. -/
def Double.layout : Layout := ⟨-4, 16, 'e', 2⟩

/-- The shortest text that reads back as the double, of which there may be several with equally many
    digits; then it is the nearest one. -/
def Double.text : Double → String
  | .nan => "nan"
  | .infinity true => "-inf"
  | .infinity false => "inf"
  | .finite negative size =>
    let (digits, leading) := size.shortest
    let body := String.ofList (Double.layout.write digits leading)
    if negative then "-" ++ body else body

/-- The double with a fixed number of decimal places, a half going to the even last digit. -/
def Double.fixed (places : Nat) : Double → String
  | .nan => "nan"
  | .infinity true => "-inf"
  | .infinity false => "inf"
  | .finite negative size =>
    let scaled := nearest (size.units * tenTo places) (twoTo unitExponent)
    let digits := padLeft (places + 1) (Nat.toDigits 10 scaled)
    let width := digits.length - places
    let body := String.ofList (digits.take width ++ '.' :: digits.drop width)
    if negative then "-" ++ body else body

end AdRules
