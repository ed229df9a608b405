import AdRules.Http.Interface
import AdRules.Proofs.Keeping
import AdRules.Proofs.SoundRules

/-!
# What callers can do

Requests, synchronisations, the scheduler and the assistant reach the store, the clock and the
metrics source only through the services they are given. So what every single service keeps, as long
as it is handed what has been checked, all callers keep, whatever they ask for and however it ends.
-/

namespace AdRules

open Act

variable {σ α : Type}

/-! ## Readings -/

/-- The measured figures are finite. Counts are integers, of which nothing has to be said. -/
structure Metrics.Finite (metrics : Metrics) : Prop where
  spend : metrics.spend.isFinite = true
  cost : metrics.costPerInlineLinkClick.isFinite = true
  frequency : metrics.frequency.isFinite = true
  cpc : metrics.cpc.isFinite = true
  ctr : metrics.ctr.isFinite = true

/-- A snapshot as it is read from an answer of the metrics source: sound, with finite figures, and
synchronised at a time without an offset. -/
structure Snapshot.Read (snapshot : Snapshot) : Prop where
  sound : snapshot.Sound
  finite : snapshot.metrics.Finite
  naive : snapshot.syncedAt.isAware = false

namespace Insights

/-- What is read as a figure is finite, because infinities and not-a-number are refused when it is
read. -/
theorem figure_finite {raw : Value} {figure : Double} (given : figure? raw = some figure) :
    figure.isFinite = true := by
  unfold figure? at given
  split at given
  · cases given
    rfl
  · exact (Option.filter_eq_some_iff.mp given).2

/-- Every figure that is read is finite and stands under the name of its metric. -/
theorem figures_finite {record : Fields} {metrics : List Metric} {values : Fields}
    (given : figures record metrics = .ok values) :
    ∀ field ∈ values, ∃ metric figure, field = (Vocabulary.word metric, settle metric figure) ∧
      figure.isFinite = true := by
  induction metrics generalizing values with
  | nil =>
    cases given
    simp
  | cons metric rest inductionHypothesis =>
    unfold figures at given
    cases figured : figure? (record.getD (Vocabulary.word metric)) with
    | none => simp [figured] at given
    | some figure =>
      cases others : figures record rest with
      | error fault => simp [figured, others, bind, Except.bind] at given
      | ok fields =>
        simp only [figured, others, bind, Except.bind, pure, Except.pure, Except.ok.injEq] at given
        subst given
        intro field member
        rcases List.mem_cons.mp member with rfl | later
        · exact ⟨metric, figure, rfl, figure_finite figured⟩
        · exact inductionHypothesis others field later

/-- A measured figure that passes the check for amounts is the finite one that was read. -/
theorem amount_finite {identity values : Fields} {metric : Metric}
    (measured : metric.isCount = false) (apart : identity.get? (Vocabulary.word metric) = none)
    (figures : ∀ field ∈ values, ∃ metric figure,
      field = (Vocabulary.word metric, settle metric figure) ∧ figure.isFinite = true)
    {amount : Double} (passed : Checked.optional (identity ++ values) (Vocabulary.word metric) .zero
      Check.amount = .valid amount) : amount.isFinite = true := by
  have given : (identity ++ values).get? (Vocabulary.word metric) =
      values.get? (Vocabulary.word metric) := by
    rw [Fields.get?, List.find?_append]
    have missing := Option.map_eq_none_iff.mp apart
    rw [missing, Option.none_or, Fields.get?]
  rcases Checked.optional_found passed with ⟨_, rfl⟩ | ⟨input, found, checked⟩
  · rfl
  · rw [given] at found
    obtain ⟨field, listed, rfl⟩ := Option.map_eq_some_iff.mp found
    obtain ⟨other, figure, rfl, finite⟩ := figures field (List.mem_of_find?_eq_some listed)
    have sameWord : Vocabulary.word other = Vocabulary.word metric := by
      simpa using List.find?_some listed
    have same : other = metric := by
      have named := Vocabulary.Lawful.of_word other
      rw [sameWord, Vocabulary.Lawful.of_word] at named
      exact (Option.some.inj named).symm
    subst same
    simp only [settle, measured] at checked
    have isFigure := (amount_valid checked).1
    cases isFigure
    exact finite

/-- The measured figures are finite if all that were read are. -/
theorem metrics_finite {identity values : Fields} {metrics : Metrics}
    (apart : ∀ metric : Metric, identity.get? (Vocabulary.word metric) = none)
    (figures : ∀ field ∈ values, ∃ metric figure,
      field = (Vocabulary.word metric, settle metric figure) ∧ figure.isFinite = true)
    (valid : Metrics.ofFields (identity ++ values) = .valid metrics) : metrics.Finite := by
  obtain ⟨spend, cost, frequency, cpc, ctr⟩ := Metrics.amounts_given valid
  exact
    { spend := amount_finite rfl (apart .spend) figures spend
      cost := amount_finite rfl (apart .costPerInlineLinkClick) figures cost
      frequency := amount_finite rfl (apart .frequency) figures frequency
      cpc := amount_finite rfl (apart .cpc) figures cpc
      ctr := amount_finite rfl (apart .ctr) figures ctr }

/-- A snapshot that is read from an answer at a time without an offset is one that may be stored. -/
theorem read_sound {now : Timestamp} {campaignId name answer : Value} {snapshot : Snapshot}
    (naive : now.isAware = false) (given : read now campaignId name answer = .ok snapshot) :
    snapshot.Read := by
  unfold read at given
  split at given
  · next field fields _ =>
    cases figured : figures (field :: fields) Metric.all with
    | error fault => simp [figured, bind, Except.bind] at given
    | ok values =>
      simp only [figured, bind, Except.bind] at given
      split at given
      · next valid =>
        cases given
        obtain ⟨metrics, _, synced, _⟩ := Snapshot.parts_given valid
        have sameTime : now = snapshot.syncedAt := Checked.valid.inj synced
        exact ⟨Snapshot.checked_sound valid,
          metrics_finite (by intro metric; cases metric <;> rfl) (figures_finite figured) metrics,
          sameTime ▸ naive⟩
      · cases given
  · cases given

end Insights

/-! ## Services -/

open Memory (Call)

/-- Every service keeps what holds, as long as it is handed what has been checked: readings of the
metrics source, drafts and changes of rules, and logs with metrics that are `fine` and a time
without an offset. The metrics that are stored with a snapshot are fine, and the clock shows times
without an offset. -/
structure Services.Safe (services : Services σ) (holds : σ → Prop) (fine : Metrics → Prop) :
    Prop where
  clock : services.clock.Keeps holds fun now => now.isAware = false
  ask : ∀ request, (services.ask request).Preserves holds
  upsert : ∀ snapshot : Snapshot, snapshot.Read →
    (services.repository.upsertCampaign snapshot).Keeps holds fun stored => fine stored.metrics
  latest : services.repository.latestCampaign.Keeps holds fun found =>
    ∀ snapshot, found = some snapshot → fine snapshot.metrics
  latestWithLogs : ∀ limit, (services.repository.latestCampaignWithLogs limit).Preserves holds
  create : ∀ draft owner, (Call.createRule draft owner).Checked →
    (services.repository.createRule draft owner).Preserves holds
  rule : ∀ id limit, (services.repository.rule id limit).Preserves holds
  rules : services.repository.rules.Preserves holds
  update : ∀ id change, (Call.updateRule id change).Checked →
    (services.repository.updateRule id change).Preserves holds
  delete : ∀ id, (services.repository.deleteRule id).Preserves holds
  active : services.repository.activeRules.Preserves holds
  find : ∀ ruleId campaignId action status,
    (services.repository.findLog ruleId campaignId action status).Preserves holds
  logs : ∀ ruleId limit, (services.repository.logs ruleId limit).Preserves holds
  record : ∀ log : ActionLog, log.triggeredAt.isAware = false → fine log.metrics →
    (services.repository.record log).Preserves holds

namespace Services.Safe

variable {services : Services σ} {holds : σ → Prop} {fine : Metrics → Prop}
  (safe : services.Safe holds fine)

include safe

/-! ### Passes -/

/-- Looking whether a rule was executed preserves what the operations of the repository preserve. -/
theorem already_executed (rule : Rule) (campaignId : Value) :
    (Executor.alreadyExecuted services.repository rule campaignId).Preserves holds := by
  unfold Executor.alreadyExecuted
  split
  · exact .pure false
  · exact .bind (safe.find _ _ _ _) fun log => .pure _

/-- Executing a rule records a log of the metrics it is executed for, at a time of the clock. -/
theorem execute (rule : Rule) {metrics : Metrics} (isFine : fine metrics) (campaignId : Value) :
    (Executor.execute services.repository services.clock rule metrics campaignId).Preserves
      holds := by
  unfold Executor.execute
  refine .bind (safe.already_executed rule campaignId) fun done => ?_
  split
  · exact .pure none
  · refine Keeps.bind safe.clock fun now naive => ?_
    have logged : (ofChecked "ActionLog" (Executor.logOf rule metrics campaignId now) :
        Act σ ActionLog).Keeps holds fun log => log.triggeredAt = now ∧ log.metrics = metrics := by
      refine .of_checked fun log made => ?_
      obtain ⟨_, _, rfl⟩ := Checked.map_valid.mp made
      exact ⟨rfl, rfl⟩
    refine logged.bind ?_
    rintro log ⟨time, same⟩
    exact safe.record log (time ▸ naive) (same ▸ isFine)

/-- The turn of a rule preserves what the operations preserve, if the metrics are ones that logs may
carry. Where the turn fails, the failure is caught and nothing more is done. -/
theorem turn {metrics : Metrics} (isFine : fine metrics) (campaignId : Value) (rule : Rule) :
    (Executor.turn services.repository services.clock metrics campaignId rule).Preserves holds := by
  unfold Executor.turn
  refine .bind (.of_except _) fun triggered => ?_
  split
  · exact safe.execute rule isFine campaignId
  · exact .pure none

/-- So do the turns of any number of rules. By induction on the rules. -/
theorem turns {metrics : Metrics} (isFine : fine metrics) (campaignId : Value)
    (rules : List Rule) :
    (Executor.turns services.repository services.clock metrics campaignId rules).Preserves
      holds := by
  induction rules with
  | nil => exact .pure []
  | cons rule rest inductionHypothesis =>
    unfold Executor.turns
    refine .bind (safe.turn isFine campaignId rule).outcome fun outcome => ?_
    refine .bind inductionHypothesis fun logs => ?_
    split
    · exact .pure _
    · exact .pure _

/-- So does a pass: it lists the active rules and gives each its turn. -/
theorem pass {metrics : Metrics} (isFine : fine metrics) (campaignId : Value) :
    (Executor.pass services.repository services.clock metrics campaignId).Preserves holds :=
  .bind safe.active fun rules => safe.turns isFine campaignId rules

/-! ### Synchronisations -/

/-- What is fetched was read from an answer at a time of the clock. -/
theorem fetch (depth : Nat) (configuration : Configuration) (campaignId name : Value) :
    (MetricsSource.fetch depth configuration services.clock services.ask campaignId name).Keeps
      holds
      Snapshot.Read := by
  simp only [MetricsSource.fetch]
  split
  · exact .throw _
  · refine Keeps.bind (safe.ask _) fun answer _ => Keeps.bind safe.clock fun now naive => ?_
    refine .of_except fun snapshot given => ?_
    unfold MetricsSource.snapshot at given
    cases read : MetricsSource.body depth answer with
    | error failure => simp [read, bind, Except.bind] at given
    | ok value =>
      simp only [read, bind, Except.bind] at given
      split at given
      · next found =>
        cases given
        exact Insights.read_sound naive found
      · cases given

end Services.Safe

/-! ### Synchronisations -/

namespace Sync

variable {holds : σ → Prop}

/-- What is done outside a synchronisation keeps there what it keeps alone. -/
theorem outside_keeps {gives : α → Prop} {action : Act σ α} (kept : action.Keeps holds gives) :
    (onOutside action).Keeps (fun work => holds work.outside) gives :=
  kept.on_part (fun _ held => held) fun _ _ _ held => held

/-- Moving a cycle on touches nothing outside, whether the move is allowed or refused. -/
theorem move_preserves (target : SyncState) :
    (move target : Act (Work σ) Unit).Preserves fun work => holds work.outside := by
  intro work held
  unfold move
  cases work.cycle.transition target with
  | ok cycle => exact ⟨trivial, held⟩
  | error failure => exact held

/-- What the service remembers is its own, and no part of what is outside. -/
theorem remember_preserves (change : SyncMemory → SyncMemory) :
    (remember change : Act (Work σ) Unit).Preserves fun work => holds work.outside :=
  fun _ held => ⟨trivial, held⟩

/-- Entering a stage is a move that is remembered, so nothing outside changes either. -/
theorem enter_preserves (target : SyncState) :
    (enter target : Act (Work σ) Unit).Preserves fun work => holds work.outside :=
  .bind (move_preserves target) fun _ => remember_preserves _

/-- Giving a synchronisation up reads the clock and changes nothing else outside. It always ends in
a failure. -/
theorem abandon_preserves {services : Services σ} (clock : services.clock.Preserves holds)
    (startedAt : Timestamp) (failure : Failure) :
    (abandon services startedAt failure).Preserves fun work => holds work.outside := by
  unfold abandon
  refine .bind (move_preserves .error) fun _ => ?_
  refine .bind (remember_preserves _) fun _ => ?_
  refine .bind (enter_preserves .idle) fun _ => ?_
  refine .bind (outside_keeps clock) fun completedAt => ?_
  exact .bind (remember_preserves _) fun _ => .throw failure

end Sync

namespace Services.Safe

variable {services : Services σ} {holds : σ → Prop} {fine : Metrics → Prop}
  (safe : services.Safe holds fine)

include safe

/-- A synchronisation stores a reading and passes on the metrics that were stored. -/
theorem stages (campaignId : Value) :
    (Sync.stages services campaignId).Preserves fun work => holds work.outside := by
  unfold Sync.stages
  refine Preserves.bind (Sync.enter_preserves .fetching) fun _ => ?_
  refine Keeps.bind (Sync.outside_keeps (safe.fetch services.depth services.configuration campaignId
    .null))
    fun snapshot read => ?_
  refine Preserves.bind (Sync.enter_preserves .persisting) fun _ => ?_
  refine Keeps.bind (Sync.outside_keeps (safe.upsert snapshot read)) fun campaign isFine => ?_
  refine Preserves.bind (Sync.enter_preserves .evaluating) fun _ => ?_
  refine Preserves.bind (Sync.outside_keeps (safe.pass isFine _)) fun logs => ?_
  exact .bind (Sync.enter_preserves .idle) fun _ => .pure _

/-- A synchronisation keeps what holds, whether it succeeds or is abandoned. -/
theorem synchronise (campaignId : Value) :
    (Sync.synchronise services campaignId).Preserves fun state => holds state.2 := by
  have ran : (Sync.run services campaignId).Preserves fun work => holds work.outside := by
    unfold Sync.run
    refine .bind (Sync.outside_keeps safe.clock.preserves) fun startedAt => ?_
    refine .bind (safe.stages _).outcome fun ended => ?_
    split
    · exact Sync.abandon_preserves safe.clock.preserves startedAt _
    · refine .bind (Sync.outside_keeps safe.clock.preserves) fun completedAt => ?_
      exact .bind (Sync.remember_preserves _) fun _ => .pure _
  exact ran.on_part (fun _ held => held) fun _ _ _ held => held

/-- A manual run passes on the metrics it was handed, or those of the latest snapshot. -/
theorem run_rules {metrics : Option Metrics} (handed : ∀ given, metrics = some given → fine given)
    (campaignId : Value) : (Sync.runRules services metrics campaignId).Preserves holds := by
  unfold Sync.runRules
  refine Keeps.bind safe.latest fun latest stored => ?_
  have evaluated : ∀ figures campaignId, fine figures →
      (Executor.pass services.repository services.clock figures campaignId >>= fun logs =>
        ofChecked "RuleExecutionResult" (Sync.runResult campaignId logs)).Preserves holds :=
    fun _ campaignId isFine => .bind (safe.pass isFine campaignId) fun _ => .of_checked _ _
  cases metrics with
  | some given => exact evaluated given _ (handed given rfl)
  | none =>
    cases latest with
    | some snapshot => exact evaluated snapshot.metrics _ (stored snapshot rfl)
    | none => exact .throw _

end Services.Safe

/-! ### The scheduler -/

namespace Engine

/-- It holds of what is outside the process. -/
def Holds (holds : σ → Prop) (engine : Engine σ) : Prop := holds engine.outside

variable {holds : σ → Prop}

/-- An operation outside keeps in the whole process what it keeps outside, and gives the same. -/
theorem outside_keeps {gives : α → Prop} {action : Act σ α} (kept : action.Keeps holds gives) :
    (onOutside action).Keeps (Holds holds) gives :=
  kept.on_part (fun _ held => held) fun _ _ _ held => held

/-- Stopping the timer changes a flag of the scheduler and nothing outside. -/
theorem stop_preserves : (Scheduler.stop : Act (Engine σ) Bool).Preserves (Holds holds) := by
  refine .bind .get fun engine => ?_
  split
  · exact .bind (.modify fun _ held => held) fun _ => .pure true
  · exact .pure false

/-- When the process ends the timer is stopped, and that is all. -/
theorem go_down_preserves : (Scheduler.goDown : Act (Engine σ) Unit).Preserves (Holds holds) :=
  .bind stop_preserves fun _ => .pure ()

/-- A failure is part of the assistant's answer. -/
theorem answering_preserves {reason : String} {action : Act (Engine σ) Value}
    (kept : action.Preserves (Holds holds)) :
    (Assistant.answering reason action).Preserves (Holds holds) := by
  refine .bind kept.outcome fun outcome => ?_
  split
  · exact .pure _
  · exact .pure _

end Engine

namespace Services.Safe

variable {services : Services σ} {holds : σ → Prop} {fine : Metrics → Prop}
  (safe : services.Safe holds fine)

include safe

/-- A synchronisation that the scheduler or an assistant runs is the one of the sync service. -/
theorem engine_synchronise (campaignId : Value) :
    (Engine.synchronise services campaignId).Preserves (Engine.Holds holds) :=
  (safe.synchronise campaignId).on_part (fun _ held => held) fun _ _ _ held => held

/-- The scheduler reads the clock after a synchronisation, however it ended, and keeps its own
books. -/
theorem run_sync : (Scheduler.runSync services).Preserves (Engine.Holds holds) := by
  refine .bind (safe.engine_synchronise .null).outcome fun outcome => ?_
  refine .bind (Engine.outside_keeps safe.clock.preserves) fun now => ?_
  exact .bind (.modify fun _ held => held) fun _ => .pure outcome

/-- What the timer runs preserves it as well; its failure is only remembered. -/
theorem scheduled_run : (Scheduler.scheduledRun services).Preserves (Engine.Holds holds) := by
  refine .bind safe.run_sync fun outcome => ?_
  split
  · exact .pure _
  · exact .pure none

/-- So does what is run on request, where the failure is passed on. -/
theorem triggered_run : (Scheduler.triggeredRun services).Preserves (Engine.Holds holds) :=
  .bind safe.run_sync fun outcome => .of_except outcome

/-- So does the run at startup, which the second time is none. -/
theorem startup_run : (Scheduler.startupRun services).Preserves (Engine.Holds holds) := by
  refine .bind .get fun engine => ?_
  split
  · exact .pure none
  · exact .bind (.modify fun _ held => held) fun _ => safe.scheduled_run

/-- Starting the timer looks a zone up and reads the clock. It may fail, and even then nothing
outside has changed but by the clock. -/
theorem start : (Scheduler.start services).Preserves (Engine.Holds holds) := by
  refine .bind .get fun engine => ?_
  split
  · exact .pure false
  · refine .bind (.of_except _) fun _ => ?_
    refine .bind (Engine.outside_keeps safe.clock.preserves) fun now => ?_
    refine .bind (.of_except _) fun _ => ?_
    exact .bind (.modify fun _ held => held) fun _ => .pure true

/-- What happens when the process comes up: the timer may be started and a synchronisation run, each
of which preserves it. -/
theorem come_up : (Scheduler.comeUp services).Preserves (Engine.Holds holds) := by
  unfold Scheduler.comeUp
  split
  · refine .bind safe.start fun _ => ?_
    split
    · exact .bind safe.startup_run fun _ => .pure ()
    · exact .pure ()
  · exact .pure ()

/-! ### The assistant -/

/-- The assistant's tool for the latest reading only asks, and turns failures into an answer. -/
theorem campaign_data : (Assistant.campaignData services).Preserves (Engine.Holds holds) := by
  refine Engine.answering_preserves
    (.bind (Engine.outside_keeps safe.latest.preserves) fun latest => ?_)
  split
  · exact .pure _
  · exact .pure _

/-- The assistant's tool for the rules keeps what holds outside, though it asks for the logs of each
rule in turn. -/
theorem automation_rules :
    (Assistant.automationRules services).Preserves (Engine.Holds holds) := by
  refine Engine.answering_preserves (.bind (Engine.outside_keeps safe.rules) fun rules => ?_)
  refine .bind (.map_m fun rule => ?_) fun entries => .pure _
  exact .bind (Engine.outside_keeps (safe.logs _ _)) fun recent => .pure _

/-- So does the tool for the logs, whatever limit it is given. -/
theorem action_logs (limit : Value) :
    (Assistant.actionLogs services limit).Preserves (Engine.Holds holds) :=
  Engine.answering_preserves (.bind (Engine.outside_keeps (safe.logs .null limit)) fun _ => .pure _)

/-- The tool that synchronises runs a synchronisation and answers with its result or its failure. -/
theorem sync_campaign : (Assistant.syncCampaign services).Preserves (Engine.Holds holds) := by
  refine .bind (safe.engine_synchronise .null).outcome fun outcome => ?_
  split
  · exact .pure _
  · exact .pure _

end Services.Safe

end AdRules
