import AdRules.Value
import AdRules.Text.Number
import AdRules.Text.Stray

/-!
# Reading JSON text

A reader for JSON with the words `NaN`, `Infinity` and `-Infinity`. Integers are exact, numbers with
a fraction or an exponent are doubles, and of two fields with one name the later value stays in the
place of the earlier. Half of a surrogate pair may stand alone. A refusal names its reason and the
position, counted in characters, at which reading stopped.

How deep a text may be nested depends on how much of its stack a process has in use when it reads,
so the depth is a parameter of the reader. How many digits an integer may have is a setting of the
process that is taken as it usually is.
-/

namespace AdRules.Json

/-- Why a text is not JSON, or is not read although it is: nested too deeply, or with an integer of
    too many digits. -/
inductive Reason where
  | value
  | property
  | colon
  | comma
  | extra
  | control
  | escape
  | unicodeEscape
  | unterminated
  | byteOrderMark
  | integerLength (digits : Nat)
  | listDepth
  | recordDepth
  deriving DecidableEq

/-- The wording of a reason. -/
def Reason.text : Reason → String
  | .value => "Expecting value"
  | .property => "Expecting property name enclosed in double quotes"
  | .colon => "Expecting ':' delimiter"
  | .comma => "Expecting ',' delimiter"
  | .extra => "Extra data"
  | .control => "Invalid control character at"
  | .escape => "Invalid \\escape"
  | .unicodeEscape => "Invalid \\uXXXX escape"
  | .unterminated => "Unterminated string starting at"
  | .byteOrderMark => "Unexpected UTF-8 BOM (decode using utf-8-sig)"
  | .integerLength digits => Text.tooManyDigits (some digits)
  | .listDepth =>
    "maximum recursion depth exceeded while decoding a JSON array from a unicode string"
  | .recordDepth =>
    "maximum recursion depth exceeded while decoding a JSON object from a unicode string"

/-- The reason has nothing to do with the notation, so that no place is named for it. -/
def Reason.isLimit : Reason → Bool
  | .integerLength _ | .listDepth | .recordDepth => true
  | _ => false

/-- The text is nested too deeply. How deep that is depends on the process that reads it. -/
def Reason.isDepth : Reason → Bool
  | .listDepth | .recordDepth => true
  | _ => false

/-- A reason and the position it was found at, in characters from the start of the text. -/
structure Refusal where
  reason : Reason
  position : Nat
  deriving DecidableEq

/-- How deeply lists and records could be nested when it was tried out on a process that was doing
    little else. -/
def usualDepth : Nat := 970

/-- The refusal in words, with line and column counted from one. -/
def Refusal.message (refusal : Refusal) (text : String) : String :=
  if refusal.reason.isLimit then refusal.reason.text
  else
    let before := text.toList.take refusal.position
    let line := before.count '\n' + 1
    let column := (before.reverse.takeWhile (· ≠ '\n')).length + 1
    refusal.reason.text ++ ": line " ++ toString line ++ " column " ++ toString column ++
      " (char " ++ toString refusal.position ++ ")"

/-- What is left to read and how many characters have been read. -/
structure Cursor where
  rest : List Char
  position : Nat

namespace Cursor

/-- The cursor some characters further on. -/
def skip (cursor : Cursor) (count : Nat) : Cursor :=
  ⟨cursor.rest.drop count, cursor.position + count⟩

/-- The cursor after blanks. -/
def skipBlanks (cursor : Cursor) : Cursor :=
  cursor.skip (cursor.rest.takeWhile fun c => c = ' ' ∨ c = '\t' ∨ c = '\n' ∨ c = '\r').length

/-- A refusal at the cursor. -/
def refuse {α : Type} (cursor : Cursor) (reason : Reason) : Except Refusal α :=
  .error ⟨reason, cursor.position⟩

end Cursor

/-- The value of a hexadecimal digit. -/
def hexDigit? (c : Char) : Option Nat :=
  if '0' ≤ c ∧ c ≤ '9' then some (c.toNat - 48)
  else if 'a' ≤ c ∧ c ≤ 'f' then some (c.toNat - 87)
  else if 'A' ≤ c ∧ c ≤ 'F' then some (c.toNat - 55)
  else none

/-- The sixteen-bit unit written in the first four characters, when a fifth follows. -/
def readUnit? : List Char → Option Nat
  | a :: b :: c :: d :: _ :: _ => do
    let high ← hexDigit? a
    let next ← hexDigit? b
    let low ← hexDigit? c
    let last ← hexDigit? d
    pure (((high * 16 + next) * 16 + low) * 16 + last)
  | _ => none

/-- The character that a simple escape stands for. -/
def simpleEscape? : Char → Option Char
  | '"' => some '"'
  | '\\' => some '\\'
  | '/' => some '/'
  | 'b' => some (Char.ofNat 8)
  | 'f' => some (Char.ofNat 12)
  | 'n' => some '\n'
  | 'r' => some '\r'
  | 't' => some '\t'
  | _ => none

/-- The low half of a pair that follows a high half: a backslash, a `u` and four digits with one
    more character behind them. -/
def readLowHalf? : List Char → Option (Except Nat Nat)
  | '\\' :: 'u' :: rest =>
    if rest.length ≤ 4 then none
    else
      match readUnit? rest with
      | some unit => if 0xDC00 ≤ unit ∧ unit < 0xE000 then some (.ok unit) else none
      | none => some (.error 1)
  | _ => none

/-- Reads a string after its opening quote, which stood at `start`. The characters read so far are
    kept in reverse. -/
def readString (start : Nat) : Nat → Cursor → List Char → Except Refusal (String × Cursor)
  | 0, _, _ => .error ⟨.unterminated, start⟩
  | fuel + 1, cursor, done =>
    match cursor.rest with
    | [] => .error ⟨.unterminated, start⟩
    | '"' :: _ => .ok (String.ofList done.reverse, cursor.skip 1)
    | '\\' :: [] => .error ⟨.unterminated, start⟩
    | '\\' :: 'u' :: rest =>
      match readUnit? rest with
      | none => .error ⟨.unicodeEscape, cursor.position + 1⟩
      | some unit =>
        if 0xD800 ≤ unit ∧ unit < 0xDC00 then
          match readLowHalf? (rest.drop 4) with
          | some (.ok low) =>
            readString start fuel (cursor.skip 12) (Text.charOfPair unit low :: done)
          | some (.error _) => .error ⟨.unicodeEscape, cursor.position + 7⟩
          | none => readString start fuel (cursor.skip 6) (Text.charOfUnit unit :: done)
        else readString start fuel (cursor.skip 6) (Text.charOfUnit unit :: done)
    | '\\' :: c :: _ =>
      match simpleEscape? c with
      | some plain => readString start fuel (cursor.skip 2) (plain :: done)
      | none => cursor.refuse .escape
    | c :: _ =>
      if c.toNat ≤ 0x1F then cursor.refuse .control
      else readString start fuel (cursor.skip 1) (c :: done)

/-- The fraction of a number: a point followed by at least one digit. -/
def readFraction : List Char → List Char × List Char
  | '.' :: rest =>
    let digits := rest.takeWhile Text.isAsciiDigit
    if digits.isEmpty then ([], '.' :: rest) else (digits, rest.dropWhile Text.isAsciiDigit)
  | rest => ([], rest)

/-- The digits of an exponent with its sign; an exponent without digits is not one. -/
def readExponent? : List Char → Option (Int × List Char)
  | mark :: rest =>
    if mark = 'e' ∨ mark = 'E' then
      let (negative, after) := match rest with
        | '-' :: after => (true, after)
        | '+' :: after => (false, after)
        | after => (false, after)
      let digits := after.takeWhile Text.isAsciiDigit
      if digits.isEmpty then none
      else
        let size : Int := Text.natOfDigits digits
        some (if negative then -size else size, after.dropWhile Text.isAsciiDigit)
    else none
  | [] => none

/-- Reads a number. A leading zero is a number by itself. -/
def readNumber (cursor : Cursor) : Except Refusal (Value × Cursor) :=
  let (negative, digits) := match cursor.rest with
    | '-' :: rest => (true, rest)
    | rest => (false, rest)
  let front := match digits with
    | '0' :: _ => ['0']
    | digits => digits.takeWhile Text.isAsciiDigit
  if front.isEmpty then cursor.refuse .value
  else
    let (fraction, afterFraction) := readFraction (digits.drop front.length)
    let exponent := readExponent? afterFraction
    let after := (exponent.map (·.2)).getD afterFraction
    let next : Cursor := ⟨after, cursor.position + (cursor.rest.length - after.length)⟩
    if fraction.isEmpty && exponent.isNone then
      if front.length > Text.mostDigits then cursor.refuse (.integerLength front.length)
      else
        let size : Int := Text.natOfDigits front
        .ok (.int (if negative then -size else size), next)
    else
      let number : Decimal :=
        ⟨negative, Text.natOfDigits (front ++ fraction),
          (exponent.map (·.1)).getD 0 - fraction.length⟩
      .ok (.float (Double.ofDecimal number), next)

/-- The words and the values they stand for. -/
def words : List (String × Value) :=
  [("null", .null), ("true", .bool true), ("false", .bool false), ("NaN", .float .nan),
   ("Infinity", .float (.infinity false)), ("-Infinity", .float (.infinity true))]

/-- Reads a word or a number. -/
def readAtom (cursor : Cursor) : Except Refusal (Value × Cursor) :=
  match words.find? fun word => word.1.toList.isPrefixOf cursor.rest with
  | some (word, value) => .ok (value, cursor.skip word.length)
  | none => readNumber cursor

mutual

/-- Reads one value inside of which so many levels may be opened. -/
def readValue : Nat → Nat → Cursor → Except Refusal (Value × Cursor)
  | 0, _, cursor => cursor.refuse .value
  | fuel + 1, depth, cursor =>
    match cursor.rest, depth with
    | '"' :: _, _ => do
      let (text, next) ← readString cursor.position (fuel + 1) (cursor.skip 1) []
      pure (.text text, next)
    | '[' :: _, 0 => cursor.refuse .listDepth
    | '[' :: _, depth + 1 =>
      let inside := (cursor.skip 1).skipBlanks
      match inside.rest with
      | ']' :: _ => .ok (.list [], inside.skip 1)
      | _ => readItems fuel depth inside []
    | '\x7b' :: _, 0 => cursor.refuse .recordDepth
    | '\x7b' :: _, depth + 1 =>
      let inside := (cursor.skip 1).skipBlanks
      match inside.rest with
      | '\x7d' :: _ => .ok (.record [], inside.skip 1)
      | _ => readFields fuel depth inside []
    | _, _ => readAtom cursor

/-- Reads the items of a list up to its closing bracket. -/
def readItems : Nat → Nat → Cursor → List Value → Except Refusal (Value × Cursor)
  | 0, _, cursor, _ => cursor.refuse .value
  | fuel + 1, depth, cursor, done => do
    let (item, next) ← readValue fuel depth cursor
    let next := next.skipBlanks
    match next.rest with
    | ']' :: _ => pure (.list (item :: done).reverse, next.skip 1)
    | ',' :: _ => readItems fuel depth (next.skip 1).skipBlanks (item :: done)
    | _ => next.refuse .comma

/-- Reads the fields of a record up to its closing brace. -/
def readFields : Nat → Nat → Cursor → List (String × Value) → Except Refusal (Value × Cursor)
  | 0, _, cursor, _ => cursor.refuse .value
  | fuel + 1, depth, cursor, done => do
    match cursor.rest with
    | '"' :: _ =>
      let (name, next) ← readString cursor.position (fuel + 1) (cursor.skip 1) []
      let next := next.skipBlanks
      match next.rest with
      | ':' :: _ =>
        let (value, next) ← readValue fuel depth (next.skip 1).skipBlanks
        let next := next.skipBlanks
        match next.rest with
        | '\x7d' :: _ =>
          pure (.record (Fields.ofList ((name, value) :: done).reverse), next.skip 1)
        | ',' :: _ => readFields fuel depth (next.skip 1).skipBlanks ((name, value) :: done)
        | _ => next.refuse .comma
      | _ => next.refuse .colon
    | _ => cursor.refuse .property

end

/-- Reads a text that is one JSON value with blanks around it, nested at most so deeply. -/
def read (depth : Nat) (text : String) : Except Refusal Value := do
  let chars := text.toList
  if chars.head? = some '\uFEFF' then throw ⟨.byteOrderMark, 0⟩
  let (value, next) ← readValue (2 * chars.length + 2) depth (Cursor.skipBlanks ⟨chars, 0⟩)
  let next := next.skipBlanks
  if next.rest.isEmpty then pure value else next.refuse .extra

end AdRules.Json
