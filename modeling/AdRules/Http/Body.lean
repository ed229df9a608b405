import AdRules.Campaign

/-!
# Bodies of requests

The shapes that requests to the interface may carry besides rules: a switch, a manual run, and the
arguments of an assistant's tool.
-/

namespace AdRules.Http

/-- A request to switch a rule on or off, which has to say which of the two. -/
structure Toggle where
  isActive : Bool

namespace Toggle

/-- Checks the one field of the request. Other fields are passed over. -/
def ofFields (fields : Fields) : Checked Toggle :=
  Toggle.mk <$> Checked.required fields "is_active" Check.bool

/-- Checks a request to switch a rule. -/
def check (setting : Setting) : Value → Checked Toggle :=
  Check.model setting "ToggleRequest" ofFields

/-- The record of a request to switch a rule. -/
def toValue (toggle : Toggle) : Value := .record [("is_active", .bool toggle.isActive)]

end Toggle

/-- A request for a manual run of the rules, over metrics that are handed over or else over the
    latest ones. -/
structure RunRequest where
  metrics : Option Metrics
  campaignId : Option String

namespace RunRequest

/-- Checks the two fields of a manual run, both of which may be missing. -/
def ofFields (setting : Setting) (fields : Fields) : Checked RunRequest :=
  RunRequest.mk
    <$> Checked.optional fields "metrics" none (Checked.nullable (Metrics.check setting))
    <*> Checked.optional fields "campaign_id" none (Checked.nullable Check.nonEmptyText)

/-- Checks a request for a manual run. -/
def check (setting : Setting) : Value → Checked RunRequest :=
  Check.model setting "ExecuteRulesRequest" (ofFields setting)

/-- The record of a request for a manual run. -/
def toValue (request : RunRequest) : Value :=
  .record [("metrics", (request.metrics.map Metrics.toValue).getD .null),
    ("campaign_id", .ofText? request.campaignId)]

end RunRequest

/-- The arguments of a tool that takes none. Any argument is refused, and does not just count for
    nothing. -/
structure NoArguments where

namespace NoArguments

/-- Refuses every field, whatever its name is. -/
def ofFields (fields : Fields) : Checked NoArguments :=
  (fun _ => NoArguments.mk) <$> Checked.onlyFields [] fields

/-- Checks the arguments of a tool that takes none. -/
def check (setting : Setting) : Value → Checked NoArguments :=
  Check.model setting "NoArguments" ofFields

/-- The record of no arguments. -/
def toValue (_ : NoArguments) : Value := .record []

end NoArguments

/-- How many logs an assistant is given when it does not say. -/
def defaultToolLimit : Int := 10

/-- The arguments of the tool that lists logs: a limit between one and a hundred, and no others. -/
structure LogArguments where
  limit : Int

namespace LogArguments

/-- Checks the limit, which is at least one and at most a hundred, and refuses other fields. -/
def ofFields (fields : Fields) : Checked LogArguments :=
  (fun limit _ => LogArguments.mk limit)
    <$> Checked.optional fields "limit" defaultToolLimit (Check.intBetween 1 100)
    <*> Checked.onlyFields ["limit"] fields

/-- Checks the arguments of the tool that lists logs. -/
def check (setting : Setting) : Value → Checked LogArguments :=
  Check.model setting "ActionLogsArguments" ofFields

/-- The record of a limit. -/
def toValue (arguments : LogArguments) : Value := .record [("limit", .int arguments.limit)]

end LogArguments

end AdRules.Http
