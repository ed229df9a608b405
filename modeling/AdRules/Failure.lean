import AdRules.ActionLog

/-!
# Failures

Everything an operation can fail with, as causes. The wording of a cause is given by
`Failure.message`.
-/

namespace AdRules

/-- A stage of a synchronisation cycle. Three of them are work; the other two are rest and failure.
    -/
inductive SyncState where
  | idle
  | fetching
  | persisting
  | evaluating
  | error
  deriving DecidableEq

/-- The words of the stages, which are those of the messages about a cycle. -/
instance : Vocabulary SyncState where
  members := [.idle, .fetching, .persisting, .evaluating, .error]
  word
    | .idle => "idle"
    | .fetching => "fetching"
    | .persisting => "persisting"
    | .evaluating => "evaluating"
    | .error => "error"

/-- Why the metrics source gave no snapshot: it was not asked, did not answer, refused, or answered
    with something of no use. -/
inductive SourceFault where
  | unconfigured
  | unreachable (reason : String)
  | refused (status : Int) (reason body : String)
  | notJson (reason : String)
  | noData
  | badValue (metric : Metric) (raw : Value)
  | unsound (issues : List Issue)

namespace SourceFault

/-- The wording of a fault of the metrics source, as it is shown and remembered. -/
def message : SourceFault → String
  | .unconfigured => "Meta API token not configured. Set META_API_TOKEN in your .env file."
  | .unreachable reason => "Failed to fetch campaign data: " ++ reason
  | .refused status reason body =>
    "Failed to fetch campaign data: " ++ toString status ++ " " ++ reason ++ " - " ++ body
  | .notJson reason => "Invalid JSON from metrics source: " ++ reason
  | .noData => "No campaign data found in response"
  | .badValue metric raw =>
    "Invalid value for " ++ Vocabulary.word metric ++ ": " ++ raw.display
  | .unsound issues => "Invalid campaign metrics: " ++ Issue.report "CampaignSnapshot" issues

end SourceFault

/-- Why an operation failed. Causes are kept apart as far as callers or wordings tell them apart. -/
inductive Failure where
  /-- The metrics source gave no snapshot. -/
  | source (fault : SourceFault)
  /-- No rule is stored under an identifier. -/
  | ruleNotFound (id : Value)
  /-- A cycle cannot go from one stage to another. -/
  | transition (current target : SyncState)
  /-- A manual run without metrics found no snapshot. -/
  | noCampaign
  /-- A value is no instance of a model. -/
  | invalid (model : String) (issues : List Issue)
  /-- Timestamps with and without an offset cannot be put in order. -/
  | mixedTimes
  /-- A limit is neither an integer nor absent. -/
  | badLimit
  /-- A value that cannot be an identifier. -/
  | unhashable (shape : String)
  /-- A row was expected and there was none. -/
  | noRow
  /-- Stored metrics are no record. -/
  | notRecord (shape : String)
  /-- A value that has no fields was read as a record. -/
  | noFields (shape field : String)
  /-- A row lacks a column. -/
  | missingKey (key : String)
  /-- An integer beyond the range of doubles. -/
  | outOfRange
  /-- A word outside a vocabulary. -/
  | unknownWord (vocabulary : String) (value : Value)
  /-- The database refused. -/
  | database (reason : String)
  /-- Stored text is not JSON. -/
  | notJson (reason : String)
  /-- A text that is no integer. -/
  | notInteger (text : String)
  /-- An integer with more digits than are read or written; how many they are is known of a text
      that was to be read. -/
  | tooManyDigits (digits : Option Nat)
  /-- JSON text that is nested too deeply. -/
  | tooDeep (reason : String)
  /-- A time zone of an unknown name. -/
  | unknownZone (name : String)
  /-- A time zone name that cannot be looked up. -/
  | badZoneKey (reason : String)
  /-- A text that names no target of a request. -/
  | badTarget (reason : String)
  /-- An interval between runs that cannot be counted from a time. -/
  | badInterval (reason : String)
  /-- A failure outside the library's own causes. -/
  | other (kind reason : String)

namespace Failure

/-- The failure to find a rule. It is worded with the identifier, and where that cannot be written
    the wording fails. -/
def notFound (id : Value) : Failure :=
  if id.isWritable then .ruleNotFound id else .tooManyDigits none

/-- A text can always be written, so that not finding a rule under one is worded with it. -/
@[simp] theorem not_found_text (id : String) : notFound (.text id) = .ruleNotFound (.text id) := rfl

/-- How many characters of a text that is no integer are shown. -/
def shownLiteral : Nat := 200

/-- The wording of a failure, as it is shown and remembered. -/
def message : Failure → String
  | .source fault => fault.message
  | .ruleNotFound id => "Rule not found: " ++ id.plain
  | .transition current target =>
    "Invalid transition from " ++ Vocabulary.word current ++ " to " ++ Vocabulary.word target
  | .noCampaign => "No campaign data found. Please sync campaign data first."
  | .invalid model issues => Issue.report model issues
  | .mixedTimes => "can't compare offset-naive and offset-aware datetimes"
  | .badLimit => "slice indices must be integers or None or have an __index__ method"
  | .unhashable shape => "unhashable type: '" ++ shape ++ "'"
  | .noRow => "'NoneType' object is not iterable"
  | .notRecord shape =>
    "automation_core.models.CampaignMetrics() argument after ** must be a mapping, not " ++ shape
  | .noFields shape field => "'" ++ shape ++ "' object has no attribute '" ++ field ++ "'"
  | .missingKey key => Text.quoted key
  | .outOfRange => "int too large to convert to float"
  | .unknownWord vocabulary value => value.display ++ " is not a valid " ++ vocabulary
  | .database reason => reason
  | .notJson reason => reason
  | .notInteger text =>
    "invalid literal for int() with base 10: " ++
      String.ofList ((Text.quoted text).toList.take shownLiteral)
  | .tooManyDigits digits => Text.tooManyDigits digits
  | .tooDeep reason => reason
  | .unknownZone name => "'No time zone found with key " ++ name ++ "'"
  | .badZoneKey reason => reason
  | .badTarget reason => reason
  | .badInterval reason => reason
  | .other _ reason => reason

end Failure

end AdRules
