import AdRules.Text.Cut
import AdRules.Text.Script

/-!
# Words of a command line

A command knows some options by long names, and every command knows `--help` and `-h`. A long name
may be cut short as long as it stays the only one, and its value may follow behind an equals sign or
as the next word. A word that begins with a dash is still a plain word when it is a negative number
or holds a blank. An abbreviation that is not the only one is refused before anything is read; help
is given as soon as it is asked for; words that nobody asked for are refused only after all others
have been read.
-/

namespace AdRules.Command

/-- What an option takes behind it: nothing, any text, or a text that is an integer. -/
inductive Kind where
  | nothing
  | text
  | integer
  deriving DecidableEq

/-- A value that an option accepts. An option that takes none accepts not even an empty one. -/
def Kind.accepts : Kind → String → Bool
  | .nothing, _ => false
  | .text, _ => true
  | .integer, value => (Text.toInteger value).value?.isSome

/-- An option by its name without the two dashes, and what it takes. -/
structure Known where
  name : String
  kind : Kind

/-- What a word of a command line is, as far as the word itself says: a value, an option, or
    something that stops the reading. -/
inductive Word where
  | plain
  | separator
  | help
  | named (option : Known) (attached : Option String)
  /-- The beginning of several options. -/
  | ambiguous
  /-- Help with a value. -/
  | unusable
  | unknown

/-- Digits, or digits around a point with at least one behind it. -/
def isNumeral (chars : List Char) : Bool :=
  let isDigit (c : Char) : Bool := (Text.digitValue? c).isSome
  match chars.dropWhile isDigit with
  | [] => !chars.isEmpty
  | '.' :: places => !places.isEmpty && places.all isDigit
  | _ => false

/-- A numeral, perhaps with a line break behind it. Such a word is a value though it may begin with
    a dash. -/
def isNumeralLine (chars : List Char) : Bool :=
  isNumeral (if chars.getLast? = some '\n' then chars.dropLast else chars)

/-- A word that begins with one dash and is no option. -/
def dashed (behind : List Char) : Word :=
  if isNumeralLine behind || behind.contains ' ' then .plain else .unknown

/-- What stands behind the short name of help: more of the same name, perhaps after an equals sign.
-/
def shortHelp (behind : List Char) : Word :=
  let repeated := match behind with
    | '=' :: names => !names.isEmpty && names.all (· = 'h')
    | names => names.all (· = 'h')
  if repeated then .help else .unusable

/-- A word that begins with two dashes: an option by its name, by a beginning of it that no other
    option shares, or neither. -/
def longWord (options : List Known) (behind : String) : Word :=
  let (name, attached) := Text.cut '=' behind
  let helpWord : Word := if attached.isSome then .unusable else .help
  match options.find? (·.name == name) with
  | some option => .named option attached
  | none =>
    if name = "help" then helpWord
    else
      let isHelp := "help".startsWith name
      match options.filter (·.name.startsWith name), isHelp with
      | [], true => helpWord
      | [], false => if behind.toList.contains ' ' then .plain else .unknown
      | [option], false => .named option attached
      | _, _ => .ambiguous

/-- What a word is to a command with some options. -/
def Word.ofText (options : List Known) (word : String) : Word :=
  match word.toList with
  | '-' :: '-' :: [] => .separator
  | '-' :: '-' :: behind => longWord options (String.ofList behind)
  | '-' :: 'h' :: behind => shortHelp behind
  | '-' :: first :: behind => dashed (first :: behind)
  | _ => .plain

/-- A word that can be a value, because it is not an option. -/
def Word.isPlain : Word → Bool
  | .plain => true
  | _ => false

/-- The values of options. An option that was left without one has none. -/
abbrev Given := List (String × Option String)

/-- What the words of a command come to: values of its options, a wish for help, or a misuse. -/
inductive Parsed where
  | help
  | misused
  | given (values : Given)

/-- The value that is attached to an option, or the refusal of it. Two dashes leave the option
    without a value. -/
def attachedValue? (option : Known) (value : String) : Option (Option String) :=
  if option.kind = .nothing then none
  else if value = "--" then some none
  else if option.kind.accepts value then some (some value)
  else none

/-- Reads words, given the values read so far and whether there were words that nobody asked for. -/
def parseFrom (options : List Known) (values : Given) (strayed : Bool) : List String → Parsed
  | [] => if strayed then .misused else .given values
  | word :: rest =>
    match Word.ofText options word with
    | .plain | .unknown => parseFrom options values true rest
    | .help => .help
    | .separator | .ambiguous | .unusable => .misused
    | .named ⟨name, .nothing⟩ none =>
      parseFrom options (values ++ [(name, some "")]) strayed rest
    | .named option (some value) =>
      match attachedValue? option value with
      | some value => parseFrom options (values ++ [(option.name, value)]) strayed rest
      | none => .misused
    | .named option none =>
      match rest with
      | [] => .misused
      | value :: rest =>
        if (Word.ofText options value).isPlain && option.kind.accepts value then
          parseFrom options (values ++ [(option.name, some value)]) strayed rest
        else .misused

/-- A word begins several options. Words behind two dashes begin none. -/
def hasAmbiguous (options : List Known) (words : List String) : Bool :=
  (words.takeWhile (· ≠ "--")).any fun word =>
    match Word.ofText options word with
    | .ambiguous => true
    | _ => false

/-- Reads the words of a command with some options, from left to right and with nothing read yet. -/
def parse (options : List Known) (words : List String) : Parsed :=
  if hasAmbiguous options words then .misused else parseFrom options [] false words

/-- The option was given, with or without a value, once or more often. -/
def isGiven (values : Given) (name : String) : Bool := values.any (·.1 == name)

/-- What was given last for an option; an option that was left without a value has an empty one. -/
def valueOf? (values : Given) (name : String) : Option (Option String) :=
  values.reverse.lookup name

end AdRules.Command
