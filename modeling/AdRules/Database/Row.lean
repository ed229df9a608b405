import AdRules.Condition.Stored
import AdRules.Campaign
import AdRules.Failure
import AdRules.Json.Reader

/-!
# Rows

How stored rows become records again. Groups find their conditions, and rules their groups, by the
identifiers in the rows. A condition that cannot be used is kept as it is, a rule that cannot be
used is passed over, and anything else that cannot be used is a failure.
-/

namespace AdRules.Database

/-- The value of a column that has to be there. -/
def column (row : Fields) (name : String) : Except Failure Value :=
  match row.get? name with
  | some value => .ok value
  | none => .error (.missingKey name)

/-- A checked value, or the failure that names the model and its issues. -/
def sound {α : Type} (model : String) : Checked α → Except Failure α
  | .valid value => .ok value
  | .invalid issues => .error (.invalid model issues)

/-- Lists and records cannot be looked up, so one of them in the place of an identifier is a
    failure. -/
def nameable : Value → Except Failure Unit
  | .list _ => .error (.unhashable "list")
  | .record _ => .error (.unhashable "dict")
  | _ => .ok ()

/-- The entries under a name, in order. Equal numbers of any kind are one name; no text is the name
    of a number. -/
def entriesUnder {α : Type} (name : Value) (entries : List (Value × α)) : List α :=
  entries.filterMap fun (key, entry) => if key.sameName name then some entry else none

/-- A stored condition under the identifier of its group, which need not be a text. -/
def conditionOfRow (row : Fields) : Except Failure (Value × Condition) := do
  let condition := (← StoredCondition.ofRow row).condition
  nameable condition.groupId
  pure (condition.groupId, condition)

/-- A stored group with its conditions, under the identifier of its rule. -/
def groupOfRow (conditions : List (Value × Condition)) (row : Fields) :
    Except Failure (Value × ConditionGroup) := do
  let ruleId ← column row "rule_id"
  nameable ruleId
  let id ← column row "id"
  let junction ← column row "operator"
  let order ← column row "sort_order"
  nameable id
  let group ← sound "ConditionGroup" (ConditionGroup.ofFieldsWith
    (fun _ => .valid (entriesUnder id conditions))
    [("id", id), ("rule_id", ruleId), ("operator", junction), ("order", order),
     ("conditions", .null)])
  pure (ruleId, group)

/-- A stored rule with its groups. A missing count is zero. -/
def ruleOfRow (groups : List ConditionGroup) (row : Fields) : Except Failure Rule := do
  let id ← column row "id"
  let name ← column row "name"
  let action ← column row "action"
  let isActive ← column row "is_active"
  let count := row.getD "trigger_count"
  sound "AutomationRule" (Rule.ofFieldsWith (fun _ => .valid groups)
    [("id", id), ("name", name), ("description", row.getD "description"), ("action", action),
     ("action_value", row.getD "action_value"), ("is_active", isActive),
     ("trigger_count", if count.isEmpty then .int 0 else count),
     ("last_triggered", row.getD "last_triggered"), ("created_by", row.getD "created_by"),
     ("created_at", row.getD "created_at"), ("updated_at", row.getD "updated_at"),
     ("condition_groups", .null), ("action_log_count", row.getD "action_log_count")])

/-- The rules among some rows, each with its groups. A row that makes no rule is passed over, which
    is noted under its identifier, unless that cannot be written. -/
def rulesOfRows (groups : List (Value × ConditionGroup)) : List Fields → Except Failure (List Rule)
  | [] => .ok []
  | row :: rest => do
    let id ← column row "id"
    nameable id
    match ruleOfRow (entriesUnder id groups) row with
    | .ok rule => pure (rule :: (← rulesOfRows groups rest))
    | .error (.invalid _ _) =>
      if id.isWritable then rulesOfRows groups rest else throw (.tooManyDigits none)
    | .error failure => throw failure

/-- Stored metrics, which may be there as their text, nested at most so deeply; nothing stored is a
    record without fields. -/
def storedMetrics (depth : Nat) (stored : Value) : Except Failure Value :=
  if stored.isEmpty then .ok (.record [])
  else
    match stored with
    | .text content =>
      match Json.read depth content with
      | .ok value => .ok value
      | .error refusal =>
        match refusal.reason with
        | .integerLength digits => .error (.tooManyDigits (some digits))
        | .listDepth | .recordDepth => .error (.tooDeep refusal.reason.text)
        | _ => .error (.notJson (refusal.message content))
    | value => .ok value

/-- The reading in stored metrics, which have to be a record. -/
def metricsOf : Value → Except Failure Metrics
  | .record fields => sound "CampaignMetrics" (Metrics.ofFields fields)
  | value => .error (.notRecord value.shapeName)

/-- A stored log. Its metrics may be a record or a text that holds one, nested at most so deeply. -/
def logOfRow (depth : Nat) (setting : Setting) (row : Fields) : Except Failure ActionLog := do
  let stored ← storedMetrics depth (row.getD "metrics")
  let id ← column row "id"
  let ruleId ← column row "rule_id"
  let campaignId ← column row "campaign_id"
  let action ← column row "action"
  let actionValue ← column row "action_value"
  let status ← column row "status"
  let metrics ← metricsOf stored
  let triggeredAt ← column row "triggered_at"
  sound "ActionLog" (ActionLog.ofFieldsWith setting (fun _ => .valid metrics)
    [("id", id), ("rule_id", ruleId), ("campaign_id", campaignId), ("action", action),
     ("action_value", actionValue), ("status", status), ("metrics", .null),
     ("triggered_at", triggeredAt), ("completed_at", row.getD "completed_at"),
     ("rule_name", row.getD "rule_name"), ("campaign_name", row.getD "campaign_name")])

/-- A stored snapshot, checked as a whole: a row that fails the check is a failure. -/
def snapshotOfRow (setting : Setting) (row : Fields) : Except Failure Snapshot :=
  sound "CampaignSnapshot" (Snapshot.ofFields setting row)

end AdRules.Database
