import AdRules.Validation.Checked
import AdRules.Text.Number
import AdRules.Text.Stray
import AdRules.Timestamp.Reader

/-!
# Checking numbers, texts, flags and timestamps

The lenient reading of single values: numbers may be given as text, integers as doubles without a
fraction, flags as zero, one or a word, timestamps as text or as a count. What is not accepted gets
the complaint that names how far it got.

This is how a validation library of major version 2 reads in its lax mode, which is not part of the
program. Minor versions differ in some spellings of numbers and times, such as the underscores that
a double may hold; one of them is followed here throughout. Subclasses of the plain types, bytes,
decimals and other values that no caller has are left out.
-/

namespace AdRules

namespace Check

open Checked

/-- A text that a value is read from. It must be whole. -/
def whole {α : Type} (content : String) (read : Checked α) : Checked α :=
  if Text.isWhole content then read else fault .textUnits (.text content)

/-- The double that a text denotes: with blanks around it, or with underscores in it. -/
def doubleOf? (content : String) : Option Double :=
  let chars := content.toList
  match Text.readDouble? (Text.trimBoth Text.isNumberBlank chars) with
  | some value => some value
  | none => (Text.unscored? chars).bind Text.readDouble?

/-- A double, from any number or from its decimal notation. -/
def float (input : Value) : Checked Double :=
  match input with
  | .float value => .valid value
  | .bool value => .valid (Double.ofInt (if value then 1 else 0))
  | .int value =>
    match Double.ofInt? value with
    | some value => .valid value
    | none => fault .floatType input
  | .text content =>
    whole content
      (match doubleOf? content with
      | some value => .valid value
      | none => fault .floatParsing input)
  | _ => fault .floatType input

/-- A double that is not negative, which not-a-number is not either. -/
def amount (input : Value) : Checked Double :=
  (float input).andThen fun value =>
    match value.level? with
    | some level => if Level.le (.exact 0) level then .valid value else fault (.atLeast 0) input
    | none => fault (.atLeast 0) input

/-- The integer that a double is. Doubles beyond 64 bits are not taken for integers. -/
def wholeDouble (value : Double) (input : Value) : Checked Int :=
  match value with
  | .finite _ _ =>
    match value.whole? with
    | none => fault .intFromFloat input
    | some whole => if whole.natAbs < wordBound then .valid whole else fault .intParsingSize input
  | _ => fault .finiteNumber input

/-- An integer of any size, or a flag, double or text that stands for one. -/
def int (input : Value) : Checked Int :=
  match input with
  | .int value => .valid value
  | .bool value => .valid (if value then 1 else 0)
  | .float value => wholeDouble value input
  | .text content =>
    whole content
      (match Text.readLenient (Text.trimBoth Text.isNumberBlank content.toList) with
      | .integer value => .valid value
      | .tooLong _ => fault .intParsingSize input
      | .malformed => fault .intParsing input)
  | _ => fault .intType input

/-- An integer that is not negative, whose sign is looked at once it is an integer. -/
def count (input : Value) : Checked Nat :=
  (int input).andThen fun value =>
    if 0 ≤ value then .valid value.toNat else fault (.atLeast 0) input

/-- An integer with a least value. -/
def intFrom (least : Int) (input : Value) : Checked Int :=
  (int input).andThen fun value =>
    if least ≤ value then .valid value else fault (.atLeast least) input

/-- An integer between two bounds. -/
def intBetween (least most : Int) (input : Value) : Checked Int :=
  (intFrom least input).andThen fun value =>
    if value ≤ most then .valid value else fault (.atMost most) input

/-- The words for true. -/
def trueWords : List String := ["1", "on", "t", "true", "y", "yes"]

/-- The words for false. -/
def falseWords : List String := ["0", "off", "f", "false", "n", "no"]

/-- The flag that a number is. Numbers beyond 64 bits are not looked at. -/
def flagOf (value : Int) (input : Value) : Checked Bool :=
  if value < -(wordBound : Int) ∨ (wordBound : Int) ≤ value then fault .boolType input
  else if value = 0 then .valid false
  else if value = 1 then .valid true
  else fault .boolParsing input

/-- The flag that a word is. -/
def flagOfWord (content : String) (input : Value) : Checked Bool :=
  let word := String.ofList (content.toList.map Text.asciiLower)
  if trueWords.contains word then .valid true
  else if falseWords.contains word then .valid false
  else fault .boolParsing input

/-- A flag, or an integer, double or word that stands for one. -/
def bool (input : Value) : Checked Bool :=
  match input with
  | .bool value => .valid value
  | .int value => flagOf value input
  | .float value =>
    match value.whole? with
    | some whole => if whole.natAbs < wordBound then flagOf whole input else fault .boolType input
    | none => fault .boolType input
  | .text content => whole content (flagOfWord content input)
  | _ => fault .boolType input

/-- A text. Nothing else is taken for one. -/
def text : Value → Checked String
  | .text content => .valid content
  | input => fault .textType input

/-- A text that is not empty. -/
def nonEmptyText (input : Value) : Checked String :=
  (text input).andThen fun content =>
    whole content (if content.isEmpty then fault .textTooShort input else .valid content)

/-- A timestamp whose year has a number. -/
def numberedYear (input : Value) (time : Timestamp) : Checked Timestamp :=
  if time.inYearZero then fault (.timeParsing Timestamp.Fault.yearZero.text) input else .valid time

/-- A timestamp counted from the start of 1970. -/
def countedTime (input : Value) (reading : Except Timestamp.Fault Timestamp) :
    Checked Timestamp :=
  match reading with
  | .ok moment => numberedYear input moment
  | .error reason => fault (.timeParsing reason.text) input

/-- A timestamp, or a text or a number that can be read as one. -/
def time (input : Value) : Checked Timestamp :=
  match input with
  | .time moment => .valid moment
  | .int value =>
    if value.natAbs < wordBound then countedTime input (Timestamp.ofUnix value)
    else
      match Double.ofInt? value with
      | some value => countedTime input (Timestamp.ofSeconds value)
      | none => fault .timeType input
  | .float value => countedTime input (Timestamp.ofSeconds value)
  | .text content =>
    whole content
      (match Timestamp.ofText content with
      | .ok moment => numberedYear input moment
      | .error reason => fault (.dateParsing reason.text) input)
  | _ => fault .timeType input

end Check

end AdRules
