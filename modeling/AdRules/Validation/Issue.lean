import AdRules.Value.Display

/-!
# Validation issues

What can be wrong with a value, where it is wrong, and how that is reported: as a list of entries,
or as a text that can stand inside another message.

Names and wordings of complaints are those of the validation library, of major version 2, which
words some of them otherwise in other minor versions. The line with an address at which the library
explains a complaint is left out of reports, because the address holds the version.
-/

namespace AdRules

/-- What is wrong with a value, in the kinds that the checks here can find. -/
inductive Complaint where
  | boolType
  | boolParsing
  | intType
  | intParsing
  | intParsingSize
  | intFromFloat
  | finiteNumber
  | floatType
  | floatParsing
  | textType
  | textUnits
  | textTooShort
  | textTooLong (most : Nat)
  | atLeast (bound : Int)
  | atMost (bound : Int)
  | choice (words : List String)
  | listType
  | listTooShort
  | recordType
  | modelType (model : String)
  | attributesType
  | missing
  | unexpected
  | frozen
  | timeType
  | timeParsing (reason : String)
  | dateParsing (reason : String)
  | rule (text : String)
  deriving DecidableEq

/-- The words of a choice, the last one after "or". -/
def choiceText (words : List String) : String :=
  match (words.map fun word => "'" ++ word ++ "'").reverse with
  | [] => ""
  | [only] => only
  | last :: before => ", ".intercalate before.reverse ++ " or " ++ last

namespace Complaint

/-- The short name of a complaint. -/
def code : Complaint → String
  | .boolType => "bool_type"
  | .boolParsing => "bool_parsing"
  | .intType => "int_type"
  | .intParsing => "int_parsing"
  | .intParsingSize => "int_parsing_size"
  | .intFromFloat => "int_from_float"
  | .finiteNumber => "finite_number"
  | .floatType => "float_type"
  | .floatParsing => "float_parsing"
  | .textType => "string_type"
  | .textUnits => "string_unicode"
  | .textTooShort => "string_too_short"
  | .textTooLong _ => "string_too_long"
  | .atLeast _ => "greater_than_equal"
  | .atMost _ => "less_than_equal"
  | .choice _ => "enum"
  | .listType => "list_type"
  | .listTooShort => "too_short"
  | .recordType => "dict_type"
  | .modelType _ => "model_type"
  | .attributesType => "model_attributes_type"
  | .missing => "missing"
  | .unexpected => "extra_forbidden"
  | .frozen => "frozen_instance"
  | .timeType => "datetime_type"
  | .timeParsing _ => "datetime_parsing"
  | .dateParsing _ => "datetime_from_date_parsing"
  | .rule _ => "value_error"

/-- The wording of a complaint. -/
def text : Complaint → String
  | .boolType => "Input should be a valid boolean"
  | .boolParsing => "Input should be a valid boolean, unable to interpret input"
  | .intType => "Input should be a valid integer"
  | .intParsing => "Input should be a valid integer, unable to parse string as an integer"
  | .intParsingSize => "Unable to parse input string as an integer, exceeded maximum size"
  | .intFromFloat => "Input should be a valid integer, got a number with a fractional part"
  | .finiteNumber => "Input should be a finite number"
  | .floatType => "Input should be a valid number"
  | .floatParsing => "Input should be a valid number, unable to parse string as a number"
  | .textType => "Input should be a valid string"
  | .textUnits => "Input should be a valid string, unable to parse raw data as a unicode string"
  | .textTooShort => "String should have at least 1 character"
  | .textTooLong most => "String should have at most " ++ toString most ++ " characters"
  | .atLeast bound => "Input should be greater than or equal to " ++ toString bound
  | .atMost bound => "Input should be less than or equal to " ++ toString bound
  | .choice words => "Input should be " ++ choiceText words
  | .listType => "Input should be a valid list"
  | .listTooShort => "List should have at least 1 item after validation, not 0"
  | .recordType => "Input should be a valid dictionary"
  | .modelType model => "Input should be a valid dictionary or instance of " ++ model
  | .attributesType => "Input should be a valid dictionary or object to extract fields from"
  | .missing => "Field required"
  | .unexpected => "Extra inputs are not permitted"
  | .frozen => "Instance is frozen"
  | .timeType => "Input should be a valid datetime"
  | .timeParsing reason => "Input should be a valid datetime, " ++ reason
  | .dateParsing reason => "Input should be a valid datetime or date, " ++ reason
  | .rule text => "Value error, " ++ text

end Complaint

/-- One step from a value to a part of it. -/
inductive Step where
  | field (name : String)
  | index (position : Nat)
  deriving DecidableEq

namespace Step

/-- A step as a value. -/
def toValue : Step → Value
  | .field name => .text name
  | .index position => .int position

/-- A step as text. A name with a point in it is marked off. -/
def text : Step → String
  | .field name => if name.toList.contains '.' then "\x60" ++ name ++ "\x60" else name
  | .index position => toString position

end Step

/-- A complaint about the part of a value at the end of a path. -/
structure Issue where
  path : List Step
  complaint : Complaint
  input : Value

namespace Issue

/-- An issue of a part as an issue of the whole. -/
def under (step : Step) (issue : Issue) : Issue := { issue with path := step :: issue.path }

/-- The entry of an issue in a list of details. -/
def toValue (issue : Issue) : Value :=
  .record
    [("loc", .list (issue.path.map Step.toValue)), ("type", .text issue.complaint.code),
     ("msg", .text issue.complaint.text)]

/-- The longest text that is shown whole. -/
def shownBytes : Nat := 50

/-- The characters that fit into a number of bytes. -/
def takeBytes : Nat → List Char → List Char
  | _, [] => []
  | budget, c :: rest =>
    if c.utf8Size ≤ budget then c :: takeBytes (budget - c.utf8Size) rest else []

/-- A text of more than fifty bytes with its middle replaced by dots. -/
def abridge (shown : String) : String :=
  if shown.utf8ByteSize ≤ shownBytes then shown
  else
    let chars := shown.toList
    String.ofList (takeBytes 25 chars ++ ['.', '.', '.'] ++ (takeBytes 24 chars.reverse).reverse)

/-- The path of an issue on a line of its own, unless it is the value itself. -/
def pathLine (issue : Issue) : String :=
  if issue.path.isEmpty then "" else ".".intercalate (issue.path.map Step.text) ++ "\n"

/-- The issue in lines of text. -/
def lines (issue : Issue) : String :=
  "\n" ++ issue.pathLine ++ "  " ++ issue.complaint.text ++ " [type=" ++ issue.complaint.code ++
    ", input_value=" ++ abridge issue.input.display ++ ", input_type=" ++ issue.input.shapeName ++
    "]"

/-- All issues of a model as one text. -/
def report (model : String) (issues : List Issue) : String :=
  toString issues.length ++ (if issues.length = 1 then " validation error for " else
    " validation errors for ") ++ model ++ String.join (issues.map lines)

end Issue

end AdRules
