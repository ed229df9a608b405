import AdRules.Value
import AdRules.Double.Text
import AdRules.Text.Number
import AdRules.Text.Quoted
import AdRules.Timestamp.Text

/-!
# Values inside messages

Messages show a value in a notation with quotes around texts. `Value.display` is that notation and
`Value.plain` the one for values that are put into a message as they are. Both are total here. The
notation of an integer with more than `Text.mostDigits` digits cannot be written by a process, and
`Value.isWritable` says of a value whether it is free of these; what comes of it where it is not is
for the place to say at which the value is written. Values that are nested too deeply to be written
are left outside.
-/

namespace AdRules

/-- A span of time by its parts, in whole days, seconds and microseconds; parts that are zero are
    left out, unless all are. -/
def Timestamp.spanDisplay (microseconds : Int) : String :=
  let days := microseconds.fdiv 86400000000
  let rest := (microseconds - days * 86400000000).toNat
  let part (name : String) (value : Int) : List String :=
    if value = 0 then [] else [name ++ "=" ++ toString value]
  let parts := part "days" days ++ part "seconds" (rest / 1000000 : Nat) ++
    part "microseconds" (rest % 1000000 : Nat)
  "datetime.timedelta(" ++ (if parts.isEmpty then "0" else ", ".intercalate parts) ++ ")"

/-- A timestamp by its parts; seconds and microseconds are left out from the end while zero. -/
def Timestamp.display (time : Timestamp) : String :=
  let civil := time.civil
  let fine :=
    if civil.microsecond ≠ 0 then [civil.second, civil.microsecond]
    else if civil.second ≠ 0 then [civil.second]
    else []
  let parts := toString civil.year ::
    ([civil.month, civil.day, civil.hour, civil.minute] ++ fine).map (fun (n : Nat) => toString n)
  let zone := match time.offset with
    | none => []
    | some 0 => ["tzinfo=datetime.timezone.utc"]
    | some offset => ["tzinfo=datetime.timezone(" ++ spanDisplay offset ++ ")"]
  "datetime.datetime(" ++ ", ".intercalate (parts ++ zone) ++ ")"

namespace Value

mutual

/-- The value in the notation of messages. -/
def display : Value → String
  | .null => "None"
  | .bool true => "True"
  | .bool false => "False"
  | .int value => toString value
  | .float value => value.text
  | .text content => Text.quoted content
  | .time moment => moment.display
  | .list items => "[" ++ ", ".intercalate (displayItems items) ++ "]"
  | .record fields => "\x7b" ++ ", ".intercalate (displayFields fields) ++ "\x7d"

/-- Every item in the notation of messages. -/
def displayItems : List Value → List String
  | [] => []
  | item :: rest => display item :: displayItems rest

/-- Every field with its name in the notation of messages. -/
def displayFields : List (String × Value) → List String
  | [] => []
  | (name, value) :: rest => (Text.quoted name ++ ": " ++ display value) :: displayFields rest

end

mutual

/-- The integers in a value, all of which are written where the value is. True and false are words,
    and the parts of a timestamp are always short. -/
def integers : Value → List Int
  | .int value => [value]
  | .list items => itemIntegers items
  | .record fields => fieldIntegers fields
  | _ => []

/-- The integers in some items. -/
def itemIntegers : List Value → List Int
  | [] => []
  | item :: rest => integers item ++ itemIntegers rest

/-- The integers in the values of some fields. -/
def fieldIntegers : List (String × Value) → List Int
  | [] => []
  | (_, value) :: rest => integers value ++ fieldIntegers rest

end

/-- No integer in the value is too long to be written. -/
def isWritable (value : Value) : Bool := value.integers.all Text.isWritable

/-- A text can always be written, however long it is. -/
@[simp] theorem text_writable (content : String) : (text content).isWritable = true := rfl

/-- The value as part of a message: texts without quotes. -/
def plain : Value → String
  | .text content => content
  | .time moment => moment.plainText
  | value => value.display

end Value

end AdRules
