import AdRules.Campaign

/-!
# Statements

The statements that are sent to the database, each by what it is about. `Statement.text` is the text
that is sent and `Statement.parameters` what is bound to its placeholders, in order.
-/

namespace AdRules.Database

/-- What is bound to a placeholder: a value, or a value as a document. -/
inductive Parameter where
  | value (value : Value)
  | document (value : Value)

/-- A statement, by what it is about and with the values that are bound to its placeholders. -/
inductive Statement where
  | createSchema
  | upsertCampaign (id : String) (snapshot : Snapshot)
  | selectLatestCampaign
  | selectLogsOfCampaign (campaignId : String) (limit : Value)
  | insertRule (id : String) (draft : RuleDraft) (owner : Value)
  | insertGroup (id : String) (ruleId : Value) (junction : Junction) (order : Nat)
  | insertCondition (id groupId : String) (draft : ConditionDraft) (order : Nat)
  | selectRule (id : Value)
  | selectRules
  | selectActiveRules
  | selectGroups (ruleIds : List Value)
  | selectConditions (groupIds : List Value)
  | updateRule (id : Value) (change : RuleChange)
  | deleteGroups (ruleId : Value)
  | deleteRule (id : Value)
  | selectLogsOfRule (ruleId limit : Value)
  | selectLogs (ruleId limit : Value)
  | findLog (ruleId campaignId : Value) (action : Action) (status : Status)
  | insertLog (id : String) (log : ActionLog)
  | countTrigger (log : ActionLog)

/-- The columns that a change of a rule assigns, with their values, apart from the moment of the
    change. -/
def assignments (change : RuleChange) : List (String × Value) :=
  [("name", change.name.map Value.text), ("description", change.description.map Value.text),
   ("action", change.action.map Vocabulary.toValue),
   ("action_value", change.actionValue.map Value.text),
   ("is_active", change.isActive.map Value.bool)].filterMap fun (column, value) =>
    value.map fun value => (column, value)

/-- The tables, their constraints and their indexes, in statements that may be sent again. -/
def schema : List String :=
  ["CREATE SCHEMA IF NOT EXISTS automation;",
   "CREATE TABLE IF NOT EXISTS automation.campaigns ( id TEXT PRIMARY KEY, campaign_id " ++
    "TEXT NOT NULL UNIQUE, name TEXT NOT NULL, spend DOUBLE PRECISION NOT NULL DEFAULT " ++
    "0, clicks INTEGER NOT NULL DEFAULT 0, reach INTEGER NOT NULL DEFAULT 0, impressions " ++
    "INTEGER NOT NULL DEFAULT 0, inline_link_clicks INTEGER NOT NULL DEFAULT 0, " ++
    "cost_per_inline_link_click DOUBLE PRECISION NOT NULL DEFAULT 0, frequency DOUBLE " ++
    "PRECISION NOT NULL DEFAULT 0, cpc DOUBLE PRECISION NOT NULL DEFAULT 0, ctr DOUBLE " ++
    "PRECISION NOT NULL DEFAULT 0, synced_at TIMESTAMP NOT NULL, created_at TIMESTAMP " ++
    "NOT NULL DEFAULT CURRENT_TIMESTAMP, updated_at TIMESTAMP NOT NULL DEFAULT " ++
    "CURRENT_TIMESTAMP );",
   "CREATE TABLE IF NOT EXISTS automation.automation_rules ( id TEXT PRIMARY KEY, name " ++
    "TEXT NOT NULL, description TEXT, action TEXT NOT NULL, action_value TEXT, is_active " ++
    "BOOLEAN NOT NULL DEFAULT TRUE, trigger_count INTEGER NOT NULL DEFAULT 0, " ++
    "last_triggered TIMESTAMP, created_by TEXT, created_at TIMESTAMP NOT NULL DEFAULT " ++
    "CURRENT_TIMESTAMP, updated_at TIMESTAMP NOT NULL DEFAULT CURRENT_TIMESTAMP );",
   "CREATE TABLE IF NOT EXISTS automation.condition_groups ( id TEXT PRIMARY KEY, " ++
    "rule_id TEXT NOT NULL REFERENCES automation.automation_rules(id) ON DELETE CASCADE, " ++
    "operator TEXT NOT NULL DEFAULT 'AND', sort_order INTEGER NOT NULL DEFAULT 0 );",
   "CREATE TABLE IF NOT EXISTS automation.conditions ( id TEXT PRIMARY KEY, group_id " ++
    "TEXT NOT NULL REFERENCES automation.condition_groups(id) ON DELETE CASCADE, metric " ++
    "TEXT NOT NULL, operator TEXT NOT NULL, threshold DOUBLE PRECISION NOT NULL, " ++
    "sort_order INTEGER NOT NULL DEFAULT 0 );",
   "CREATE TABLE IF NOT EXISTS automation.action_logs ( id TEXT PRIMARY KEY, rule_id " ++
    "TEXT NOT NULL REFERENCES automation.automation_rules(id) ON DELETE CASCADE, " ++
    "campaign_id TEXT NOT NULL, action TEXT NOT NULL, action_value TEXT NOT NULL, status " ++
    "TEXT NOT NULL, metrics JSONB NOT NULL, triggered_at TIMESTAMP NOT NULL, " ++
    "completed_at TIMESTAMP );",
   "CREATE INDEX IF NOT EXISTS idx_action_logs_rule_triggered ON automation.action_logs " ++
    "(rule_id, triggered_at DESC);",
   "CREATE UNIQUE INDEX IF NOT EXISTS uq_action_logs_non_repeatable ON " ++
    "automation.action_logs (rule_id, campaign_id, action) WHERE status = 'success' AND " ++
    "action IN ('pause_campaign', 'increase_budget', 'decrease_budget');"]

/-- The start of every query for logs, by which each gets the names of its rule and its campaign. -/
def logQuery : String :=
  "SELECT l.*, r.name AS rule_name, c.name AS campaign_name FROM automation.action_logs l " ++
    "LEFT JOIN automation.automation_rules r ON r.id = l.rule_id " ++
    "LEFT JOIN automation.campaigns c ON c.campaign_id = l.campaign_id "

/-- The end of a query for some of the newest logs. -/
def newestFirst : String := "ORDER BY l.triggered_at DESC LIMIT %s"

namespace Statement

/-- The text of a statement, with a placeholder for every parameter. -/
def text : Statement → String
  | .createSchema => " ".intercalate schema
  | .upsertCampaign _ _ =>
    "INSERT INTO automation.campaigns ( id, campaign_id, name, spend, clicks, reach, " ++
      "impressions, inline_link_clicks, cost_per_inline_link_click, frequency, cpc, ctr, " ++
      "synced_at, created_at, updated_at ) VALUES ( %s, %s, %s, %s, %s, %s, %s, %s, %s, %s, " ++
      "%s, %s, %s, CURRENT_TIMESTAMP, CURRENT_TIMESTAMP ) " ++
      "ON CONFLICT (campaign_id) DO UPDATE SET name = EXCLUDED.name, spend = EXCLUDED.spend, " ++
      "clicks = EXCLUDED.clicks, reach = EXCLUDED.reach, impressions = EXCLUDED.impressions, " ++
      "inline_link_clicks = EXCLUDED.inline_link_clicks, " ++
      "cost_per_inline_link_click = EXCLUDED.cost_per_inline_link_click, " ++
      "frequency = EXCLUDED.frequency, cpc = EXCLUDED.cpc, ctr = EXCLUDED.ctr, " ++
      "synced_at = EXCLUDED.synced_at, updated_at = CURRENT_TIMESTAMP RETURNING *"
  | .selectLatestCampaign =>
    "SELECT * FROM automation.campaigns ORDER BY synced_at DESC LIMIT 1"
  | .selectLogsOfCampaign _ _ => logQuery ++ "WHERE l.campaign_id = %s " ++ newestFirst
  | .insertRule _ _ _ =>
    "INSERT INTO automation.automation_rules ( id, name, description, action, action_value, " ++
      "is_active, trigger_count, created_by, created_at, updated_at ) VALUES ( %s, %s, %s, " ++
      "%s, %s, %s, 0, %s, CURRENT_TIMESTAMP, CURRENT_TIMESTAMP )"
  | .insertGroup _ _ _ _ =>
    "INSERT INTO automation.condition_groups (id, rule_id, operator, sort_order) " ++
      "VALUES (%s, %s, %s, %s)"
  | .insertCondition _ _ _ _ =>
    "INSERT INTO automation.conditions ( id, group_id, metric, operator, threshold, " ++
      "sort_order ) VALUES (%s, %s, %s, %s, %s, %s)"
  | .selectRule _ =>
    "SELECT r.*, ( SELECT COUNT(*) FROM automation.action_logs l WHERE l.rule_id = r.id ) " ++
      "AS action_log_count FROM automation.automation_rules r WHERE r.id = %s"
  | .selectRules =>
    "SELECT r.*, COUNT(l.id) AS action_log_count FROM automation.automation_rules r " ++
      "LEFT JOIN automation.action_logs l ON l.rule_id = r.id GROUP BY r.id " ++
      "ORDER BY r.created_at DESC"
  | .selectActiveRules =>
    "SELECT * FROM automation.automation_rules WHERE is_active = TRUE ORDER BY created_at ASC"
  | .selectGroups _ =>
    "SELECT * FROM automation.condition_groups WHERE rule_id = ANY(%s) " ++
      "ORDER BY rule_id, sort_order ASC"
  | .selectConditions _ =>
    "SELECT * FROM automation.conditions WHERE group_id = ANY(%s) " ++
      "ORDER BY group_id, sort_order ASC"
  | .updateRule _ change =>
    "UPDATE automation.automation_rules SET " ++
      ", ".intercalate ((assignments change).map (fun (column, _) => column ++ " = %s") ++
        ["updated_at = CURRENT_TIMESTAMP"]) ++
      " WHERE id = %s RETURNING id"
  | .deleteGroups _ => "DELETE FROM automation.condition_groups WHERE rule_id = %s"
  | .deleteRule _ => "DELETE FROM automation.automation_rules WHERE id = %s"
  | .selectLogsOfRule _ _ => logQuery ++ "WHERE l.rule_id = %s " ++ newestFirst
  | .selectLogs ruleId _ =>
    logQuery ++ (if ruleId.isEmpty then "" else "WHERE l.rule_id = %s ") ++ newestFirst
  | .findLog _ _ _ _ =>
    logQuery ++ "WHERE l.rule_id = %s AND l.campaign_id = %s AND l.action = %s " ++
      "AND l.status = %s ORDER BY l.triggered_at DESC LIMIT 1"
  | .insertLog _ _ =>
    "INSERT INTO automation.action_logs ( id, rule_id, campaign_id, action, action_value, " ++
      "status, metrics, triggered_at, completed_at ) VALUES (%s, %s, %s, %s, %s, %s, %s, " ++
      "%s, %s) ON CONFLICT DO NOTHING RETURNING *"
  | .countTrigger _ =>
    "UPDATE automation.automation_rules SET trigger_count = trigger_count + 1, " ++
      "last_triggered = %s, updated_at = CURRENT_TIMESTAMP WHERE id = %s"

/-- Plain values as parameters, none of them a document. -/
def values (values : List Value) : Option (List Parameter) := some (values.map Parameter.value)

/-- The parameters of a statement; `none` for a statement without placeholders. -/
def parameters : Statement → Option (List Parameter)
  | .createSchema | .selectLatestCampaign | .selectRules | .selectActiveRules => none
  | .upsertCampaign id snapshot =>
    values ([.text id, .text snapshot.campaignId, .text snapshot.name] ++
      snapshot.metrics.toFields.map (·.2) ++ [.time snapshot.syncedAt])
  | .selectLogsOfCampaign campaignId limit => values [.text campaignId, limit]
  | .insertRule id draft owner =>
    values [.text id, .text draft.name, .ofText? draft.description,
      Vocabulary.toValue draft.action, .ofText? draft.actionValue, .bool draft.isActive, owner]
  | .insertGroup id ruleId junction order =>
    values [.text id, ruleId, Vocabulary.toValue junction, .int order]
  | .insertCondition id groupId draft order =>
    values [.text id, .text groupId, Vocabulary.toValue draft.metric,
      Vocabulary.toValue draft.comparison, .float draft.threshold, .int order]
  | .selectRule id | .deleteGroups id | .deleteRule id => values [id]
  | .selectGroups ids | .selectConditions ids => values [.list ids]
  | .updateRule id change => values ((assignments change).map (·.2) ++ [id])
  | .selectLogsOfRule ruleId limit => values [ruleId, limit]
  | .selectLogs ruleId limit => values (if ruleId.isEmpty then [limit] else [ruleId, limit])
  | .findLog ruleId campaignId action status =>
    values [ruleId, campaignId, Vocabulary.toValue action, Vocabulary.toValue status]
  | .insertLog id log =>
    some [.value (.text id), .value (.text log.ruleId), .value (.text log.campaignId),
      .value (Vocabulary.toValue log.action), .value (.text log.actionValue),
      .value (Vocabulary.toValue log.status), .document log.metrics.toValue,
      .value (.time log.triggeredAt), .value (.ofTime? log.completedAt)]
  | .countTrigger log => values [.time log.triggeredAt, .text log.ruleId]

end Statement

end AdRules.Database
