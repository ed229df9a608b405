import AdRules.Rule

/-!
# Action logs

Every execution of an action is logged with the metrics it was decided on. A log is never changed;
the names of its rule and campaign are looked up when it is read.
-/

namespace AdRules

/-- How an execution ended. Only a success counts when an action that may not be repeated is looked
    for. -/
inductive Status where
  | pending
  | success
  | failed
  deriving DecidableEq

/-- The words of the statuses, in the order in which a choice among them is worded. -/
instance : Vocabulary Status where
  members := [.pending, .success, .failed]
  word
    | .pending => "pending"
    | .success => "success"
    | .failed => "failed"

/-- The action value in the logs of rules that name none. -/
def defaultActionValue : String := "default"

/-- The record of one execution of a rule's action for a campaign, with the reading that triggered
    it. The names of rule and campaign are filled in when the log is read, not when it is stored. -/
structure ActionLog where
  id : Option String
  ruleId : String
  campaignId : String
  action : Action
  actionValue : String
  status : Status
  metrics : Metrics
  triggeredAt : Timestamp
  completedAt : Option Timestamp
  ruleName : Option String
  campaignName : Option String
  deriving DecidableEq

namespace ActionLog

/-- Checks the fields of a log, given how its metrics are checked. -/
def ofFieldsWith (setting : Setting) (metrics : Value → Checked Metrics) (fields : Fields) :
    Checked ActionLog :=
  ActionLog.mk
    <$> Checked.optional fields "id" none (Checked.nullable Check.text)
    <*> Checked.required fields "rule_id" Check.text
    <*> Checked.required fields "campaign_id" Check.text
    <*> Checked.required fields "action" Check.choice
    <*> Checked.optional fields "action_value" defaultActionValue Check.text
    <*> Checked.optional fields "status" .success Check.choice
    <*> Checked.required fields "metrics" metrics
    <*> Checked.optional fields "triggered_at" setting.now Check.time
    <*> Checked.optional fields "completed_at" none (Checked.nullable Check.time)
    <*> Checked.optional fields "rule_name" none (Checked.nullable Check.text)
    <*> Checked.optional fields "campaign_name" none (Checked.nullable Check.text)

/-- Checks the fields of a log, its metrics included. A log that says nothing of when it was
    triggered was triggered at the moment of the check. -/
def ofFields (setting : Setting) : Fields → Checked ActionLog :=
  ofFieldsWith setting (Metrics.check setting)

/-- Checks a log that is given as a record. -/
def check (setting : Setting) : Value → Checked ActionLog :=
  Check.model setting "ActionLog" (ofFields setting)

/-- The record of a log, in which missing texts and times are null. -/
def toValue (log : ActionLog) : Value :=
  .record
    [("id", .ofText? log.id), ("rule_id", .text log.ruleId),
     ("campaign_id", .text log.campaignId), ("action", Vocabulary.toValue log.action),
     ("action_value", .text log.actionValue), ("status", Vocabulary.toValue log.status),
     ("metrics", log.metrics.toValue), ("triggered_at", .time log.triggeredAt),
     ("completed_at", .ofTime? log.completedAt), ("rule_name", .ofText? log.ruleName),
     ("campaign_name", .ofText? log.campaignName)]

/-- The refusal to assign a field of a log: logs are never changed, whatever field and value it is.
    -/
def frozenField (field : String) (assigned : Value) : Issue := ⟨[.field field], .frozen, assigned⟩

end ActionLog

/-- A rule with its most recent logs, as it is shown to a caller who asks for one rule. -/
structure RuleWithLogs where
  rule : Rule
  recentActions : List ActionLog

namespace RuleWithLogs

/-- Checks the fields of a rule and its logs, all in one record. -/
def ofFields (setting : Setting) (fields : Fields) : Checked RuleWithLogs :=
  RuleWithLogs.mk
    <$> Rule.ofFields setting fields
    <*> Checked.optional fields "recent_actions" [] (Checked.items (ActionLog.check setting))

/-- Checks a rule with logs that is given as a record. -/
def check (setting : Setting) : Value → Checked RuleWithLogs :=
  Check.model setting "RuleWithLogs" (ofFields setting)

/-- Checks what is to be shown once more; its groups and logs are taken as they are. -/
def recheck (shown : RuleWithLogs) : Checked RuleWithLogs :=
  (RuleWithLogs.mk · shown.recentActions)
    <$> Rule.ofFieldsWith (fun _ => .valid shown.rule.groups) shown.rule.toFields

/-- The record of a rule with its logs, which stand behind the fields of the rule. -/
def toValue (rule : RuleWithLogs) : Value :=
  .record (rule.rule.toFields ++
    [("recent_actions", .list (rule.recentActions.map ActionLog.toValue))])

end RuleWithLogs

end AdRules
