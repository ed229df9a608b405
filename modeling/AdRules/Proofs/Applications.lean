import AdRules.Proofs.Requests
import AdRules.Proofs.RuleTurn
import AdRules.Proofs.StoredRules

/-!
# Applications

An application is a process over the store in memory, with a clock that may go back and a metrics
source that may answer anything. What is asked of it from outside are operations, one after the
other: requests, synchronisations, and what the scheduler and the assistant do. Since it stores only
what it has checked, what holds of checked records holds of everything that is stored, after every
run.
-/

namespace AdRules

/-- A configured process, what its clock shows and what the metrics source answers each time the
outside is used, how deeply a text may be nested for it to be read, and the milliseconds that pass
from one use to another. -/
structure Application where
  configuration : Configuration
  moment : (uses : Nat) → Int
  answer : (uses : Nat) → InsightsRequest → SourceAnswer
  depth : Nat
  elapsed : (earlier later : Nat) → Int

/-- What is asked of an application: by requests, by its timer, by callers of its services and
tools, or by the process itself as it comes up and goes down. -/
inductive Operation where
  | respond (upcoming : Value) (request : Http.Request)
  | comeUp
  | goDown
  | synchronise (campaignId : Value)
  | runRules (metrics campaignId : Value)
  | startScheduler
  | stopScheduler
  | scheduledRun
  | triggeredRun
  | startupRun
  | campaignData
  | automationRules
  | actionLogs (limit : Value)
  | syncCampaign

namespace Operation

variable {σ : Type} (services : Services σ)

/-- The check for the metrics of a manual run, which may be missing. -/
def checkMetrics : Value → Checked (Option Metrics) :=
  Checked.nullable (Metrics.check ⟨⟨0, none⟩, false⟩)

/-- Does what is asked; what comes of it is left out. -/
def perform : Operation → Act (Engine σ) Unit
  | .respond upcoming request => (fun _ => ()) <$> Http.respond services upcoming request
  | .comeUp => Scheduler.comeUp services
  | .goDown => Scheduler.goDown
  | .synchronise campaignId => (fun _ => ()) <$> Engine.synchronise services campaignId
  | .runRules metrics campaignId => do
    let metrics ← Act.ofChecked "CampaignMetrics" (checkMetrics metrics)
    let _ ← Engine.onOutside (Sync.runRules services metrics campaignId)
  | .startScheduler => (fun _ => ()) <$> Scheduler.start services
  | .stopScheduler => (fun _ => ()) <$> Scheduler.stop
  | .scheduledRun => (fun _ => ()) <$> Scheduler.scheduledRun services
  | .triggeredRun => (fun _ => ()) <$> Scheduler.triggeredRun services
  | .startupRun => (fun _ => ()) <$> Scheduler.startupRun services
  | .campaignData => (fun _ => ()) <$> Assistant.campaignData services
  | .automationRules => (fun _ => ()) <$> Assistant.automationRules services
  | .actionLogs limit => (fun _ => ()) <$> Assistant.actionLogs services limit
  | .syncCampaign => (fun _ => ()) <$> Assistant.syncCampaign services

/-- The operation is a manual run with these metrics, in a process that reads texts nested at most
so deeply. -/
def HandsOver (depth : Nat) : Operation → Metrics → Prop
  | .respond _ request, metrics => request.HandsOver depth metrics
  | .runRules given _, metrics => checkMetrics given = .valid (some metrics)
  | _, _ => False

/-- Metrics that are handed over have been checked. -/
theorem HandsOver.sound {depth : Nat} {operation : Operation} {metrics : Metrics}
    (handed : operation.HandsOver depth metrics) : metrics.Sound := by
  cases operation with
  | respond upcoming request => exact handed.2.sound
  | runRules given campaignId =>
    obtain ⟨_, valid⟩ :=
      Checked.model_valid (Checked.nullable_valid (show checkMetrics given = _ from handed))
    exact Metrics.checked_sound valid
  | comeUp | goDown | synchronise _ | startScheduler | stopScheduler | scheduledRun | triggeredRun
  | startupRun | campaignData | automationRules | actionLogs _ | syncCampaign => cases handed

variable {services} {holds : σ → Prop} {fine : Metrics → Prop}

/-- An operation keeps what the services keep, if the metrics that it hands over are fine. -/
theorem preserves (safe : services.Safe holds fine) (operation : Operation)
    (handed : ∀ metrics, operation.HandsOver services.depth metrics → fine metrics) :
    (operation.perform services).Preserves (Engine.Holds holds) := by
  cases operation with
  | respond upcoming request => exact .map _ (safe.respond handed)
  | comeUp => exact safe.come_up
  | goDown => exact Engine.go_down_preserves
  | synchronise campaignId => exact .map _ (safe.engine_synchronise campaignId)
  | runRules metrics campaignId =>
    have checked : (Act.ofChecked "CampaignMetrics" (checkMetrics metrics) :
        Act (Engine σ) (Option Metrics)).Keeps (Engine.Holds holds)
        fun given => checkMetrics metrics = .valid given := .of_checked fun _ valid => valid
    refine checked.bind fun given valid => ?_
    refine Act.Preserves.bind (Engine.outside_keeps (safe.run_rules ?_ campaignId)) fun _ =>
      .pure ()
    rintro figures rfl
    exact handed figures valid
  | startScheduler => exact .map _ safe.start
  | stopScheduler => exact .map _ Engine.stop_preserves
  | scheduledRun => exact .map _ safe.scheduled_run
  | triggeredRun => exact .map _ safe.triggered_run
  | startupRun => exact .map _ safe.startup_run
  | campaignData => exact .map _ safe.campaign_data
  | automationRules => exact .map _ safe.automation_rules
  | actionLogs limit => exact .map _ (safe.action_logs limit)
  | syncCampaign => exact .map _ safe.sync_campaign

end Operation

/-! ## What is stored -/

namespace Memory

variable {fine : Metrics → Prop}

/-- What an application hands to the store: readings, checked drafts and changes, and logs of fine
metrics at times without an offset. -/
def Call.Admitted (fine : Metrics → Prop) : Call → Prop
  | .upsertCampaign snapshot => snapshot.Read
  | .record log => log.triggeredAt.isAware = false ∧ fine log.metrics
  | call => call.Checked

/-- What is admitted was checked: admission asks for more of a call than its checks do. -/
theorem Call.Admitted.checked {call : Call} (admitted : call.Admitted fine) : call.Checked := by
  cases call with
  | createRule draft owner => exact admitted
  | updateRule id change => exact admitted
  | upsertCampaign _ | latestCampaign | latestCampaignWithLogs _ | rule _ _ | rules | setActive _ _
  | deleteRule _ | activeRules | findLog _ _ _ _ | logs _ _ | record _ | prepare => trivial

variable [IdSupply]

/-- What an application stores: sound rules, readings that came from the source, and logs all of
whose metrics are fine. No moment of theirs has an offset. -/
structure Vetted (fine : Metrics → Prop) (memory : Memory) : Prop where
  numbered : memory.store.Numbered memory.issued
  sound : memory.store.Sound memory.issued
  readings : ∀ snapshot ∈ memory.store.campaigns, snapshot.Read
  created : ∀ snapshot ∈ memory.store.campaigns, ∀ time ∈ snapshot.createdAt,
    time.isAware = false
  logged : ∀ log ∈ memory.store.logs, log.triggeredAt.isAware = false
  fineLogs : ∀ log ∈ memory.store.logs, fine log.metrics

/-- A reading is stored with an identifier and its times; it is the same reading otherwise. -/
theorem vetted_upsert {memory : Memory} {snapshot : Snapshot} (read : snapshot.Read)
    (naive : memory.now.isAware = false) (vetted : memory.Vetted fine) :
    ∀ stored ∈ (memory.store.upsert memory.now memory.issued snapshot).2.1.campaigns,
      stored.Read ∧ ∀ time ∈ stored.createdAt, time.isAware = false := by
  intro stored member
  unfold Store.upsert at member
  split at member
  · next existing known =>
    rcases Store.mem_put_campaign member with rfl | before
    · exact ⟨⟨⟨read.sound.metrics, read.sound.named, read.sound.whole⟩, read.finite, read.naive⟩,
        vetted.created existing (List.mem_of_find?_eq_some known)⟩
    · exact ⟨vetted.readings stored before, vetted.created stored before⟩
  · rcases Store.mem_put_campaign member with rfl | before
    · refine ⟨⟨⟨read.sound.metrics, read.sound.named, read.sound.whole⟩, read.finite,
        read.naive⟩, ?_⟩
      rintro time ⟨⟩
      exact naive
    · exact ⟨vetted.readings stored before, vetted.created stored before⟩

/-- The effect of an admitted call keeps what is stored vetted. Admitted is what an application
hands over: checked drafts, readings of the source, and logs of fine metrics. -/
theorem vetted_step {memory after : Memory} {call : Call} {reply : Reply}
    (admitted : call.Admitted fine) (effect : Effect memory call reply after)
    (naive : memory.now.isAware = false) (vetted : memory.Vetted fine) : after.Vetted fine := by
  have numbered := numbered_step ⟨call, effect⟩ naive vetted.numbered
  have sound := sound_step admitted.checked effect vetted.sound
  cases effect with
  | kept counted issued more shown =>
    exact ⟨numbered, sound, vetted.readings, vetted.created, vetted.logged, vetted.fineLogs⟩
  | measured snapshot =>
    have stored := vetted_upsert admitted naive vetted
    obtain ⟨_, sameLogs, _⟩ := Store.upsert_frame memory.store memory.now memory.issued snapshot
    exact ⟨numbered, sound, fun other member => (stored other member).1,
      fun other member => (stored other member).2, sameLogs ▸ vetted.logged,
      sameLogs ▸ vetted.fineLogs⟩
  | created draft owner =>
    exact ⟨numbered, sound, vetted.readings, vetted.created, vetted.logged, vetted.fineLogs⟩
  | changed rule change found made =>
    exact ⟨numbered, sound, vetted.readings, vetted.created, vetted.logged, vetted.fineLogs⟩
  | deleted id =>
    exact ⟨numbered, sound, vetted.readings, vetted.created,
      fun log member => vetted.logged log (List.mem_filter.mp member).1,
      fun log member => vetted.fineLogs log (List.mem_filter.mp member).1⟩
  | recorded rule log issued more found first identified =>
    subst identified
    refine ⟨numbered, sound, vetted.readings, vetted.created, ?_, ?_⟩
    · intro other member
      rcases List.mem_append.mp member with before | new
      · exact vetted.logged other before
      · rw [List.mem_singleton.mp new]
        exact admitted.1
    · intro other member
      rcases List.mem_append.mp member with before | new
      · exact vetted.fineLogs other before
      · rw [List.mem_singleton.mp new]
        exact admitted.2

/-- An empty store is vetted, since there is nothing in it that could be unfit. -/
theorem start_vetted : start.Vetted fine :=
  ⟨run_numbered [], run_sound [] (by simp), by simp [start, Store.empty],
    by simp [start, Store.empty], by simp [start, Store.empty], by simp [start, Store.empty]⟩

/-- A memory at a moment of its use, which the clock of the process gives without an offset. -/
structure InUse (fine : Metrics → Prop) (memory : Memory) : Prop where
  vetted : memory.Vetted fine
  naive : memory.now.isAware = false

/-- An operation that is an admitted call keeps what is stored vetted. -/
theorem call_preserves {α : Type} {action : Act Memory α} {reply : α → Reply} (call : Call)
    (performs : call.perform = reply <$> action) (admitted : call.Admitted fine) :
    action.Preserves (InUse fine) := by
  intro memory inUse
  have effect : Effect memory call _ _ := call_effect call
  have vetted := vetted_step admitted effect inUse.naive inUse.vetted
  have now := effect.now_eq
  simp only [Call.answer, settle, performs, Act.map_apply] at vetted now
  cases ran : action memory with
  | ok value after =>
    rw [ran] at vetted now
    exact ⟨trivial, vetted, now ▸ inUse.naive⟩
  | error failure after =>
    rw [ran] at vetted now
    exact ⟨vetted, now ▸ inUse.naive⟩

/-- The clock shows the moment of the use. -/
theorem clock_keeps : clock.Keeps (InUse fine) fun now => now.isAware = false :=
  fun _ inUse => ⟨inUse.naive, inUse⟩

/-- The metrics of a reading are those that are stored with it. -/
theorem upsert_keeps (fineReadings : ∀ snapshot : Snapshot, snapshot.Read → fine snapshot.metrics)
    {snapshot : Snapshot} (read : snapshot.Read) :
    (repository.upsertCampaign snapshot).Keeps (InUse fine) fun stored => fine stored.metrics := by
  have kept : (repository.upsertCampaign snapshot).Preserves (InUse fine) :=
    call_preserves (.upsertCampaign snapshot) rfl read
  intro memory inUse
  obtain ⟨_, sameMetrics⟩ :=
    Store.upsert_stored memory.store memory.now memory.issued snapshot
  have stored : fine (memory.store.upsert memory.now memory.issued snapshot).1.metrics :=
    sameMetrics ▸ fineReadings snapshot read
  exact ⟨stored, (kept memory inUse).2⟩

/-- The latest snapshot is a stored one. -/
theorem latest_keeps (fineReadings : ∀ snapshot : Snapshot, snapshot.Read → fine snapshot.metrics) :
    repository.latestCampaign.Keeps (InUse fine) fun found =>
      ∀ snapshot, found = some snapshot → fine snapshot.metrics := by
  intro memory inUse
  simp only [repository, query]
  cases latest : memory.store.latestCampaign with
  | error failure => exact inUse
  | ok found =>
    refine ⟨?_, inUse⟩
    rintro snapshot rfl
    exact fineReadings snapshot (inUse.vetted.readings snapshot (Store.latest_mem latest))

end Memory

namespace Application

variable [IdSupply] (application : Application)

/-- The memory at the moment of its next use. The application says when that is, and may go back in
time. -/
def present (state : Memory × Nat) : Memory := state.1.setClock (application.moment state.2)

/-- After a use of the outside time may have passed. -/
def left (state : Memory × Nat) (memory : Memory) : Memory × Nat := (memory, state.2 + 1)

/-- The services of the process. Their store is the one in memory, and their source is any that the
application assumes. -/
def services : Services (Memory × Nat) where
  configuration := application.configuration
  repository := Memory.repository.onPart application.present left
  clock := Memory.clock.onPart application.present left
  ask request := fun state => .ok (application.answer state.2 request) (left state state.1)
  depth := application.depth
  elapsed earlier later := application.elapsed earlier.2 later.2

/-- The process after one more operation, whatever became of it. -/
def after (engine : Engine (Memory × Nat)) (operation : Operation) : Engine (Memory × Nat) :=
  (operation.perform application.services).stateAfter engine

/-- The memory after some operations, nothing having been stored before. -/
def run (operations : List Operation) : Memory :=
  (operations.foldl application.after (Engine.start (Memory.start, 0))).outside.1

/-! ### The services are safe -/

variable {application} {fine : Metrics → Prop}

/-- The state between two uses. -/
def Keeping (fine : Metrics → Prop) (state : Memory × Nat) : Prop := state.1.Vetted fine

/-- Whatever the moment of a use, what it keeps of the memory is kept. -/
theorem used_keeps {α : Type} {gives : α → Prop} {action : Act Memory α}
    (kept : action.Keeps (Memory.InUse fine) gives) :
    (action.onPart application.present left).Keeps (Keeping fine) gives := by
  refine kept.on_part ?_ ?_
  · intro state vetted
    exact ⟨⟨vetted.numbered, vetted.sound, vetted.readings, vetted.created, vetted.logged,
      vetted.fineLogs⟩, rfl⟩
  · intro state memory _ inUse
    exact inUse.vetted

/-- The services keep what is stored vetted, whatever the source answers, as long as the readings
that come from it are fine. -/
theorem safe (fineReadings : ∀ snapshot : Snapshot, snapshot.Read → fine snapshot.metrics) :
    application.services.Safe (Keeping fine) fine where
  clock := used_keeps Memory.clock_keeps
  ask := fun _ _ kept => ⟨trivial, kept⟩
  upsert := fun _ read => used_keeps (Memory.upsert_keeps fineReadings read)
  latest := used_keeps (Memory.latest_keeps fineReadings)
  latestWithLogs := fun limit =>
    used_keeps (Memory.call_preserves (.latestCampaignWithLogs limit) rfl trivial)
  create := fun draft owner checked =>
    used_keeps (Memory.call_preserves (.createRule draft owner) rfl checked)
  rule := fun id limit => used_keeps (Memory.call_preserves (.rule id limit) rfl trivial)
  rules := used_keeps (Memory.call_preserves .rules rfl trivial)
  update := fun id change checked =>
    used_keeps (Memory.call_preserves (.updateRule id change) rfl checked)
  delete := fun id => used_keeps (Memory.call_preserves (.deleteRule id) rfl trivial)
  active := used_keeps (Memory.call_preserves .activeRules rfl trivial)
  find := fun ruleId campaignId action status => used_keeps
    (Memory.call_preserves (.findLog ruleId campaignId action status) rfl trivial)
  logs := fun ruleId limit =>
    used_keeps (Memory.call_preserves (.logs ruleId limit) rfl trivial)
  record := fun log naive isFine =>
    used_keeps (Memory.call_preserves (.record log) rfl ⟨naive, isFine⟩)

/-- What the services keep is kept by any operations, if the metrics that are handed over are fine.
By induction on the operations. -/
theorem operations_preserve {holds : Memory × Nat → Prop} {operations : List Operation}
    (safe : application.services.Safe holds fine)
    (handed : ∀ operation ∈ operations, ∀ metrics,
      operation.HandsOver application.depth metrics → fine metrics)
    {engine : Engine (Memory × Nat)} (begun : Engine.Holds holds engine) :
    Engine.Holds holds (operations.foldl application.after engine) := by
  induction operations generalizing engine with
  | nil => exact begun
  | cons operation rest inductionHypothesis =>
    have kept := operation.preserves safe (handed operation List.mem_cons_self)
    have later := fun other member => handed other (List.mem_cons_of_mem operation member)
    exact inductionHypothesis later (kept.state_after begun)

/-- After every run, what is stored is vetted, if the metrics that were handed over are fine. -/
theorem run_vetted (application : Application) (operations : List Operation)
    (fineReadings : ∀ snapshot : Snapshot, snapshot.Read → fine snapshot.metrics)
    (handed : ∀ operation ∈ operations, ∀ metrics,
      operation.HandsOver application.depth metrics → fine metrics) :
    (application.run operations).Vetted fine := by
  have begun : Engine.Holds (Keeping fine) (Engine.start (Memory.start, 0)) := Memory.start_vetted
  exact operations_preserve (application.safe fineReadings) handed begun

end Application

end AdRules
