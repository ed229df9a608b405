import AdRules.Cycle
import AdRules.Executor
import AdRules.MetricsSource

/-!
# Synchronising a campaign

A synchronisation fetches a reading, stores it and passes it to the active rules. It goes through
the stages of a cycle of its own; a failure leads through the error stage back to idle and is passed
on. The service remembers how its last synchronisation ended.

Left out are the lines of the log, and two synchronisations of one service at a time: what the
service remembers then is not kept apart. A campaign is meant to be named by a text.
-/

namespace AdRules

/-- What a service works with. All of it is given from outside; the service adds only what it
    remembers. -/
structure Services (σ : Type) where
  configuration : Configuration
  repository : Repository σ
  clock : Act σ Timestamp
  ask : InsightsRequest → Act σ SourceAnswer
  /-- How deeply a text may be nested for it to be read. -/
  depth : Nat
  /-- The whole milliseconds that a timer counts from one state to a later one. -/
  elapsed : (earlier later : σ) → Int

/-- What is remembered of past synchronisations: the last stage, and how the last one ended. -/
structure SyncMemory where
  lastState : SyncState
  lastResult : Option SyncResult
  lastError : Option String

/-- Nothing has been synchronised. -/
def SyncMemory.start : SyncMemory := ⟨.idle, none, none⟩

namespace Sync

/-- A synchronisation under way: its cycle, what is remembered, and everything else. -/
structure Work (σ : Type) where
  cycle : Cycle
  memory : SyncMemory
  outside : σ

variable {σ α : Type}

/-- An operation of the outside world. -/
def onOutside (action : Act σ α) : Act (Work σ) α :=
  action.onPart (·.outside) fun work outside => { work with outside := outside }

/-- Changes what is remembered. It cannot fail, and leaves cycle and outside as they are. -/
def remember (change : SyncMemory → SyncMemory) : Act (Work σ) Unit := fun work =>
  .ok () { work with memory := change work.memory }

/-- Goes on to a stage that may follow; any other stage is refused. -/
def move (target : SyncState) : Act (Work σ) Unit := fun work =>
  match work.cycle.transition target with
  | .ok cycle => .ok () { work with cycle := cycle }
  | .error failure => .error failure work

/-- Goes on to a stage, which is remembered. -/
def enter (target : SyncState) : Act (Work σ) Unit := do
  move target
  remember fun memory => { memory with lastState := target }

/-- The stages of a cycle: the stored snapshot with the logs of the pass. -/
def stages (services : Services σ) (campaignId : Value) :
    Act (Work σ) (Snapshot × List ActionLog) := do
  enter .fetching
  let snapshot ← onOutside
    (MetricsSource.fetch services.depth services.configuration services.clock services.ask
      campaignId .null)
  enter .persisting
  let campaign ← onOutside (services.repository.upsertCampaign snapshot)
  enter .evaluating
  let logs ← onOutside (Executor.pass services.repository services.clock campaign.metrics
    (.text campaign.campaignId))
  enter .idle
  pure (campaign, logs)

/-- What follows a failure: the cycle goes through the error stage, and the failure is passed on. A
    stage that is refused here takes the place of the failure. -/
def abandon (services : Services σ) (startedAt : Timestamp) (failure : Failure) :
    Act (Work σ) SyncResult := do
  move .error
  remember fun memory => { memory with lastError := some failure.message }
  enter .idle
  let completedAt ← onOutside services.clock
  remember fun memory =>
    { memory with lastResult := some ⟨false, none, 0, [], some startedAt, some completedAt⟩ }
  throw failure

/-- One cycle for a campaign, for the configured one when none is given. -/
def run (services : Services σ) (campaignId : Value) : Act (Work σ) SyncResult := do
  let startedAt ← onOutside services.clock
  let campaignId := MetricsSource.orDefault campaignId services.configuration.campaignId
  match ← (stages services campaignId).outcome with
  | .error failure => abandon services startedAt failure
  | .ok (campaign, logs) =>
    let completedAt ← onOutside services.clock
    let result : SyncResult :=
      ⟨true, some campaign, logs.length, logs, some startedAt, some completedAt⟩
    remember fun memory => { memory with lastResult := some result, lastError := none }
    pure result

/-- A synchronisation has a cycle of its own, which is idle at first and is not kept. -/
def synchronise (services : Services σ) (campaignId : Value) : Act (SyncMemory × σ) SyncResult :=
  (run services campaignId).onPart (fun (memory, outside) => ⟨.start, memory, outside⟩)
    fun _ work => (work.memory, work.outside)

/-- The summary of a manual run, whose campaign has to be a text. -/
def runResult (campaignId : Value) (logs : List ActionLog) : Checked RunResult :=
  (fun campaignId => ⟨true, campaignId, logs.length, logs⟩) <$>
    (Check.text campaignId).under (.field "campaign_id")

/-- A pass without fetching: over given metrics or those of the latest snapshot, recorded for a
    given campaign, the latest one, or the configured one. -/
def runRules (services : Services σ) (metrics : Option Metrics) (campaignId : Value) :
    Act σ RunResult := do
  let latest ← services.repository.latestCampaign
  let metrics ← match metrics, latest with
    | some metrics, _ => pure metrics
    | none, some snapshot => pure snapshot.metrics
    | none, none => throw .noCampaign
  let campaignId := match campaignId, latest with
    | .null, some snapshot => Value.text snapshot.campaignId
    | .null, none => .text services.configuration.campaignId
    | given, _ => given
  let logs ← Executor.pass services.repository services.clock metrics campaignId
  Act.ofChecked "RuleExecutionResult" (runResult campaignId logs)

end Sync

end AdRules
