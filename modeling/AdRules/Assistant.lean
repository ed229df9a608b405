import AdRules.Scheduler

/-!
# The assistant's tools

Four tools answer with plain records. A tool never fails: what goes wrong becomes a record that says
so.
-/

namespace AdRules

namespace Assistant

variable {σ : Type}

/-- A timestamp as the tools write it: with its offset in digits, and without a letter for universal
    time. -/
def timeText (time : Timestamp) : Value := .text time.isoText

/-- A timestamp that may be missing, and is null then. -/
def timeText? (time : Option Timestamp) : Value := (time.map timeText).getD .null

/-- The record that reports a failure: what could not be done, and the wording of the cause. -/
def failed (reason : String) (failure : Failure) : Value :=
  .record [("error", .text reason), ("details", .text failure.message)]

/-- The answer of a tool. A failure becomes a record that says so, so a tool has an answer in every
    case. -/
def answering (reason : String) (action : Act (Engine σ) Value) : Act (Engine σ) Value := do
  match ← action.outcome with
  | .ok value => pure value
  | .error failure => pure (failed reason failure)

/-- The identity and the figures of a snapshot, under the names that the tools give them. -/
def campaignEntry (snapshot : Snapshot) : Value :=
  .record
    ([("campaign_id", .text snapshot.campaignId), ("name", .text snapshot.name)] ++
      snapshot.metrics.toFields ++ [("last_synced", timeText snapshot.syncedAt)])

/-- The tool for the latest snapshot. Where none is stored the answer says so, which is no failure.
    -/
def campaignData (services : Services σ) : Act (Engine σ) Value :=
  answering "Failed to fetch campaign data" do
    match ← Engine.onOutside services.repository.latestCampaign with
    | none =>
      pure (.record [("error", .text Failure.noCampaign.message), ("last_synced", .null)])
    | some snapshot => pure (campaignEntry snapshot)

/-- A condition in short, with words that nobody knows as they are stored. -/
def conditionEntry (condition : Condition) : Value :=
  .record
    [("metric", condition.metric.toValue), ("operator", condition.comparison.toValue),
     ("threshold", condition.threshold)]

/-- A group in short, with its conditions in order. -/
def groupEntry (group : ConditionGroup) : Value :=
  .record
    [("operator", group.junction.toValue),
     ("conditions", .list (group.conditions.map conditionEntry))]

/-- A log in short, as it is shown with its rule. -/
def recentEntry (log : ActionLog) : Value :=
  .record
    [("action", Vocabulary.toValue log.action), ("status", Vocabulary.toValue log.status),
     ("triggered_at", timeText log.triggeredAt)]

/-- A rule with its groups and recent logs in short. -/
def ruleEntry (rule : Rule) (recent : List ActionLog) : Value :=
  .record
    [("id", .text rule.id), ("name", .text rule.name),
     ("description", .ofText? rule.description), ("is_active", .bool rule.isActive),
     ("action", Vocabulary.toValue rule.action), ("action_value", .ofText? rule.actionValue),
     ("trigger_count", .int rule.triggerCount),
     ("last_triggered", timeText? rule.lastTriggered),
     ("condition_groups", .list (rule.groups.map groupEntry)),
     ("recent_actions", .list (recent.map recentEntry))]

/-- The tool for the rules, which shows all of them, each with its five most recent logs. -/
def automationRules (services : Services σ) : Act (Engine σ) Value :=
  answering "Failed to fetch automation rules" do
    let rules ← Engine.onOutside services.repository.rules
    let entries ← rules.mapM fun rule => do
      let recent ← Engine.onOutside (services.repository.logs (.text rule.id) (.int 5))
      pure (ruleEntry rule recent)
    pure (.record [("rules", .list entries)])

/-- The metrics that are shown with a log. The others are left out of the tool's answer. -/
def shownMetrics : List Metric := [.spend, .clicks, .reach, .impressions, .ctr, .cpc]

/-- A log with some of its metrics, as the tool for logs shows it. -/
def logEntry (log : ActionLog) : Value :=
  .record
    [("id", .ofText? log.id), ("rule_name", .ofText? log.ruleName),
     ("action", Vocabulary.toValue log.action), ("action_value", .text log.actionValue),
     ("status", Vocabulary.toValue log.status), ("campaign_name", .ofText? log.campaignName),
     ("triggered_at", timeText log.triggeredAt), ("completed_at", timeText? log.completedAt),
     ("metrics", .record (shownMetrics.map fun metric =>
       (Vocabulary.word metric, (log.metrics.value metric).toValue)))]

/-- The tool for the most recent logs of all rules, up to a limit. -/
def actionLogs (services : Services σ) (limit : Value) : Act (Engine σ) Value :=
  answering "Failed to fetch action logs" do
    let logs ← Engine.onOutside (services.repository.logs .null limit)
    pure (.record [("logs", .list (logs.map logEntry))])

/-- The tool that synchronises. It goes past the scheduler, which does not count it. -/
def syncCampaign (services : Services σ) : Act (Engine σ) Value := do
  match ← (Engine.synchronise services .null).outcome with
  | .ok result =>
    pure (.record
      [("success", .bool result.success), ("message", .text "Campaign data synced successfully"),
       ("executed_actions", .int result.executedActions)])
  | .error failure =>
    pure (.record
      [("success", .bool false), ("error", .text "Failed to sync campaign data"),
       ("details", .text failure.message)])

end Assistant

end AdRules
