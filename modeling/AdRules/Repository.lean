import AdRules.Campaign
import AdRules.Failure

/-!
# Repositories

What the rest of the library asks of a store, whatever keeps it. Identifiers and limits arrive as
callers give them, so they are values: what is to become of one of the wrong shape is for the store
to decide.
-/

namespace AdRules

/-- An operation on some state that may fail. What it changed before failing stays changed. -/
abbrev Act (σ α : Type) : Type := EStateM Failure σ α

namespace Act

variable {σ τ α : Type}

/-- The outcome of a computation without state, as an operation. -/
def ofExcept : Except Failure α → Act σ α
  | .ok value => pure value
  | .error failure => throw failure

/-- A checked value, or the failure of a model. -/
def ofChecked (model : String) : Checked α → Act σ α
  | .valid value => pure value
  | .invalid issues => throw (.invalid model issues)

/-- An operation whose failure is part of its result, so that what comes next can depend on it. It
    never fails itself. -/
def outcome (action : Act σ α) : Act σ (Except Failure α) := fun state =>
  match action state with
  | .ok value next => .ok (.ok value) next
  | .error failure next => .ok (.error failure) next

/-- An operation on a part of a larger state. The rest of the state is as it was, whether the
    operation fails or not. -/
def onPart (get : τ → σ) (set : τ → σ → τ) (action : Act σ α) : Act τ α := fun whole =>
  match action (get whole) with
  | .ok value part => .ok value (set whole part)
  | .error failure part => .error failure (set whole part)

end Act

/-- The operations of a store, which the store in memory and the database both provide. Nothing is
    assumed of them here. -/
structure Repository (σ : Type) where
  /-- Stores a reading of a campaign. -/
  upsertCampaign : Snapshot → Act σ Snapshot
  /-- The most recent snapshot. -/
  latestCampaign : Act σ (Option Snapshot)
  /-- The most recent snapshot with some of its newest logs. -/
  latestCampaignWithLogs : (limit : Value) → Act σ (Option SnapshotWithLogs)
  /-- Stores a new rule for an owner. -/
  createRule : RuleDraft → (owner : Value) → Act σ (Option Rule)
  /-- A rule with some of its newest logs. -/
  rule : (id limit : Value) → Act σ (Option RuleWithLogs)
  /-- All rules, the newest first. -/
  rules : Act σ (List Rule)
  /-- Changes a rule. -/
  updateRule : (id : Value) → RuleChange → Act σ (Option Rule)
  /-- Removes a rule and what belongs to it. -/
  deleteRule : (id : Value) → Act σ Unit
  /-- The active rules, the oldest first. -/
  activeRules : Act σ (List Rule)
  /-- The newest log of a rule, campaign, action and status. -/
  findLog : (ruleId campaignId action status : Value) → Act σ (Option ActionLog)
  /-- Some of the newest logs, of one rule or of all. -/
  logs : (ruleId limit : Value) → Act σ (List ActionLog)
  /-- Records an execution and counts it for its rule. -/
  record : ActionLog → Act σ (Option ActionLog)
  /-- Makes the store ready for use. -/
  prepare : Act σ Unit

namespace Repository

variable {σ τ : Type}

/-- A store that is part of a larger state, which its operations leave as it is. -/
def onPart (get : τ → σ) (set : τ → σ → τ) (repository : Repository σ) : Repository τ where
  upsertCampaign snapshot := (repository.upsertCampaign snapshot).onPart get set
  latestCampaign := repository.latestCampaign.onPart get set
  latestCampaignWithLogs limit := (repository.latestCampaignWithLogs limit).onPart get set
  createRule draft owner := (repository.createRule draft owner).onPart get set
  rule id limit := (repository.rule id limit).onPart get set
  rules := repository.rules.onPart get set
  updateRule id change := (repository.updateRule id change).onPart get set
  deleteRule id := (repository.deleteRule id).onPart get set
  activeRules := repository.activeRules.onPart get set
  findLog ruleId campaignId action status :=
    (repository.findLog ruleId campaignId action status).onPart get set
  logs ruleId limit := (repository.logs ruleId limit).onPart get set
  record log := (repository.record log).onPart get set
  prepare := repository.prepare.onPart get set

/-- The change that only switches a rule on or off. -/
def switchChange (isActive : Value) : Checked RuleChange :=
  (fun isActive => ⟨none, none, none, none, isActive, none⟩) <$>
    (Checked.nullable Check.bool isActive).under (.field "is_active")

/-- Switches a rule on or off, by a change that names this one field. -/
def setActive (repository : Repository σ) (id isActive : Value) : Act σ (Option Rule) := do
  repository.updateRule id (← Act.ofChecked "RuleUpdate" (switchChange isActive))

end Repository

end AdRules
