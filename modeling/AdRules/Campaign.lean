import AdRules.ActionLog

/-!
# Campaign snapshots

The latest stored reading of a campaign, and the summaries of a synchronisation and of a manual run.
-/

namespace AdRules

/-- The name of a campaign that was given none, be it in a reading or in the configuration. -/
def defaultCampaignName : String := "Meta Ads Campaign"

/-- One reading of a campaign: its figures at one moment. Only the latest reading of a campaign is
    stored, with the identifier and birth of the first one. -/
structure Snapshot where
  metrics : Metrics
  id : Option String
  campaignId : String
  name : String
  syncedAt : Timestamp
  createdAt : Option Timestamp
  updatedAt : Option Timestamp
  deriving DecidableEq

namespace Snapshot

/-- Checks the metrics and the identity of a snapshot. One that says nothing of when it was read was
    read at the moment of the check. -/
def ofFields (setting : Setting) (fields : Fields) : Checked Snapshot :=
  Snapshot.mk
    <$> Metrics.ofFields fields
    <*> Checked.optional fields "id" none (Checked.nullable Check.text)
    <*> Checked.required fields "campaign_id" Check.nonEmptyText
    <*> Checked.optional fields "name" defaultCampaignName Check.text
    <*> Checked.optional fields "synced_at" setting.now Check.time
    <*> Checked.optional fields "created_at" none (Checked.nullable Check.time)
    <*> Checked.optional fields "updated_at" none (Checked.nullable Check.time)

/-- Checks a snapshot that is given as a record. -/
def check (setting : Setting) : Value → Checked Snapshot :=
  Check.model setting "CampaignSnapshot" (ofFields setting)

/-- The fields of a snapshot's record, the metrics first and all of them given. -/
def toFields (snapshot : Snapshot) : Fields :=
  snapshot.metrics.toFields ++
    [("id", .ofText? snapshot.id), ("campaign_id", .text snapshot.campaignId),
     ("name", .text snapshot.name), ("synced_at", .time snapshot.syncedAt),
     ("created_at", .ofTime? snapshot.createdAt), ("updated_at", .ofTime? snapshot.updatedAt)]

/-- The record of a snapshot, in which missing texts and times are null. -/
def toValue (snapshot : Snapshot) : Value := .record snapshot.toFields

end Snapshot

/-- A snapshot with the most recent logs of its campaign. -/
structure SnapshotWithLogs where
  snapshot : Snapshot
  logs : List ActionLog
  deriving DecidableEq

namespace SnapshotWithLogs

/-- Checks the fields of a snapshot and its logs, all in one record. -/
def ofFields (setting : Setting) (fields : Fields) : Checked SnapshotWithLogs :=
  SnapshotWithLogs.mk
    <$> Snapshot.ofFields setting fields
    <*> Checked.optional fields "action_logs" [] (Checked.items (ActionLog.check setting))

/-- Checks a snapshot with logs that is given as a record. -/
def check (setting : Setting) : Value → Checked SnapshotWithLogs :=
  Check.model setting "CampaignWithActions" (ofFields setting)

/-- Checks what is to be shown once more; its logs are taken as they are. -/
def recheck (shown : SnapshotWithLogs) : Checked SnapshotWithLogs :=
  (SnapshotWithLogs.mk · shown.logs)
    <$> Snapshot.ofFields ⟨shown.snapshot.syncedAt, false⟩ shown.snapshot.toFields

/-- The record of a snapshot with its logs, which stand behind the fields of the snapshot. -/
def toValue (snapshot : SnapshotWithLogs) : Value :=
  .record (snapshot.snapshot.toFields ++
    [("action_logs", .list (snapshot.logs.map ActionLog.toValue))])

end SnapshotWithLogs

/-- The summary of one synchronisation. That of one that failed is only remembered, without campaign
    and logs; what is passed on is the failure itself. -/
structure SyncResult where
  success : Bool
  campaign : Option Snapshot
  executedActions : Int
  logs : List ActionLog
  startedAt : Option Timestamp
  completedAt : Option Timestamp
  deriving DecidableEq

namespace SyncResult

/-- Checks the fields of a summary. Its moments are never filled in. -/
def ofFields (setting : Setting) (fields : Fields) : Checked SyncResult :=
  SyncResult.mk
    <$> Checked.required fields "success" Check.bool
    <*> Checked.optional fields "campaign" none (Checked.nullable (Snapshot.check setting))
    <*> Checked.optional fields "executed_actions" 0 Check.int
    <*> Checked.optional fields "action_logs" [] (Checked.items (ActionLog.check setting))
    <*> Checked.optional fields "started_at" none (Checked.nullable Check.time)
    <*> Checked.optional fields "completed_at" none (Checked.nullable Check.time)

/-- Checks a summary that is given as a record. -/
def check (setting : Setting) : Value → Checked SyncResult :=
  Check.model setting "SyncResult" (ofFields setting)

/-- The record of a summary, with null for a campaign that is missing. -/
def toValue (result : SyncResult) : Value :=
  .record
    [("success", .bool result.success),
     ("campaign", (result.campaign.map Snapshot.toValue).getD .null),
     ("executed_actions", .int result.executedActions),
     ("action_logs", .list (result.logs.map ActionLog.toValue)),
     ("started_at", .ofTime? result.startedAt), ("completed_at", .ofTime? result.completedAt)]

end SyncResult

/-- The summary of a manual run of the rules, which asks the metrics source for nothing and stores
    no snapshot. -/
structure RunResult where
  success : Bool
  campaignId : String
  executedActions : Int
  logs : List ActionLog
  deriving DecidableEq

namespace RunResult

/-- Checks the fields of a summary. The campaign has to be named. -/
def ofFields (setting : Setting) (fields : Fields) : Checked RunResult :=
  RunResult.mk
    <$> Checked.optional fields "success" true Check.bool
    <*> Checked.required fields "campaign_id" Check.text
    <*> Checked.optional fields "executed_actions" 0 Check.int
    <*> Checked.optional fields "action_logs" [] (Checked.items (ActionLog.check setting))

/-- Checks a summary of a manual run that is given as a record. -/
def check (setting : Setting) : Value → Checked RunResult :=
  Check.model setting "RuleExecutionResult" (ofFields setting)

/-- The record of a summary of a manual run. -/
def toValue (result : RunResult) : Value :=
  .record
    [("success", .bool result.success), ("campaign_id", .text result.campaignId),
     ("executed_actions", .int result.executedActions),
     ("action_logs", .list (result.logs.map ActionLog.toValue))]

end RunResult

end AdRules
