import AdRules.Proofs.Outcomes
import AdRules.Sync

/-!
# The course of a synchronisation

A synchronisation fetches, stores and evaluates, and the first of these operations that fails
decides how it ends. Every stage that the cycle is asked to go to may follow the one before it, also
on the way through the error stage, so no refusal ever takes the place of a failure. Stores,
configurations and metrics sources are arbitrary here; only the clock has to show a time whenever it
is asked.
-/

namespace AdRules

namespace Executor

variable {σ : Type} (repository : Repository σ) (clock : Act σ Timestamp) (metrics : Metrics)
  (campaignId : Value)

/-- The turns of some rules do not fail: a failure in one of them only costs its own log. -/
theorem turns_respond (rules : List Rule) :
    (turns repository clock metrics campaignId rules).Responds := by
  induction rules with
  | nil =>
    intro state
    exact ⟨[], state, rfl⟩
  | cons rule rest inductionHypothesis =>
    intro state
    cases taken : turn repository clock metrics campaignId rule state with
    | ok log between =>
      obtain ⟨logs, after, rested⟩ := inductionHypothesis between
      cases log with
      | none => exact ⟨logs, after, by simp [turns, taken, rested]⟩
      | some log => exact ⟨log :: logs, after, by simp [turns, taken, rested]⟩
    | error failure between =>
      obtain ⟨logs, after, rested⟩ := inductionHypothesis between
      exact ⟨logs, after, by simp [turns, taken, rested]⟩

end Executor

namespace Sync

variable {σ : Type} {services : Services σ} {campaignId : Value} {remembered : SyncMemory}
  {state left : σ} {history : List SyncState}

/-- What a synchronisation asks the metrics source for. -/
def fetch (services : Services σ) (campaignId : Value) : Act σ Snapshot :=
  MetricsSource.fetch services.depth services.configuration services.clock services.ask
    (MetricsSource.orDefault campaignId services.configuration.campaignId) .null

/-- The course of a synchronisation, by the first operation that fails: the stages it goes through,
what comes of it, and the state in which its last operation leaves everything outside. Rules are
evaluated only in the last course. -/
inductive Course (services : Services σ) (campaignId : Value) (state : σ) :
    List SyncState → Except Failure (Snapshot × List ActionLog) → σ → Prop where
  | unfetched (failure : Failure) (left : σ)
      (fetching : fetch services campaignId state = .error failure left) :
      Course services campaignId state [.idle, .fetching, .error, .idle] (.error failure) left
  | unstored (snapshot : Snapshot) (fetched : σ) (failure : Failure) (left : σ)
      (fetching : fetch services campaignId state = .ok snapshot fetched)
      (storing : services.repository.upsertCampaign snapshot fetched = .error failure left) :
      Course services campaignId state [.idle, .fetching, .persisting, .error, .idle]
        (.error failure) left
  | unloaded (snapshot : Snapshot) (fetched : σ) (campaign : Snapshot) (stored : σ)
      (failure : Failure) (left : σ)
      (fetching : fetch services campaignId state = .ok snapshot fetched)
      (storing : services.repository.upsertCampaign snapshot fetched = .ok campaign stored)
      (loading : services.repository.activeRules stored = .error failure left) :
      Course services campaignId state
        [.idle, .fetching, .persisting, .evaluating, .error, .idle] (.error failure) left
  | completed (snapshot : Snapshot) (fetched : σ) (campaign : Snapshot) (stored : σ)
      (active : List Rule) (loaded : σ) (logs : List ActionLog) (left : σ)
      (fetching : fetch services campaignId state = .ok snapshot fetched)
      (storing : services.repository.upsertCampaign snapshot fetched = .ok campaign stored)
      (loading : services.repository.activeRules stored = .ok active loaded)
      (evaluating : Executor.turns services.repository services.clock campaign.metrics
        (.text campaign.campaignId) active loaded = .ok logs left) :
      Course services campaignId state [.idle, .fetching, .persisting, .evaluating, .idle]
        (.ok (campaign, logs)) left

/-- How a synchronisation ends. A failure is passed on and remembered; a success is remembered with
its result and no error. Either way the cycle is idle again, and after its last operation only the
clock is read. -/
def Ends (services : Services σ) (campaignId : Value) (remembered : SyncMemory) (state : σ)
    (history : List SyncState) (left : σ) : Except Failure (Snapshot × List ActionLog) → Prop
  | .error failure => ∃ work result completedAt,
      run services campaignId ⟨.start, remembered, state⟩ = .error failure work ∧
      synchronise services campaignId (remembered, state) =
        .error failure (work.memory, work.outside) ∧
      work.cycle = ⟨.idle, history⟩ ∧
      work.memory = ⟨.idle, some result, some failure.message⟩ ∧ result.success = false ∧
      services.clock left = .ok completedAt work.outside
  | .ok (campaign, logs) => ∃ work result completedAt,
      run services campaignId ⟨.start, remembered, state⟩ = .ok result work ∧
      synchronise services campaignId (remembered, state) =
        .ok result (work.memory, work.outside) ∧
      work.cycle = ⟨.idle, history⟩ ∧
      work.memory = ⟨.idle, some result, none⟩ ∧ result.success = true ∧
      result.campaign = some campaign ∧ result.logs = logs ∧
      result.executedActions = logs.length ∧
      services.clock left = .ok completedAt work.outside

/-- A stage that may follow is gone to. -/
theorem move_allowed {present target : SyncState} (allowed : target ∈ present.successors)
    (past : List SyncState) (memory : SyncMemory) (outside : σ) :
    move target ⟨⟨present, past⟩, memory, outside⟩ =
      .ok () ⟨⟨target, past ++ [target]⟩, memory, outside⟩ := by
  simp only [move, Cycle.transition, if_pos allowed]

/-- A stage that may follow is gone to and remembered. -/
theorem enter_allowed {present target : SyncState} (allowed : target ∈ present.successors)
    (past : List SyncState) (memory : SyncMemory) (outside : σ) :
    enter target ⟨⟨present, past⟩, memory, outside⟩ =
      .ok () ⟨⟨target, past ++ [target]⟩, { memory with lastState := target }, outside⟩ := by
  simp only [enter, Act.bind_apply, move_allowed allowed, remember]

/-- An operation of the outside world leaves the cycle and what is remembered as they are. -/
theorem outside_apply {α : Type} (action : Act σ α) (work : Work σ) :
    onOutside action work =
      match action work.outside with
      | .ok value outside => .ok value { work with outside := outside }
      | .error failure outside => .error failure { work with outside := outside } := rfl

/-- A failure in a stage that the error stage may follow leads back to idle and is passed on. -/
theorem abandon_from {present : SyncState} (allowed : .error ∈ present.successors)
    (past : List SyncState) (memory : SyncMemory) (startedAt : Timestamp) (failure : Failure)
    {completedAt : Timestamp} {final : σ}
    (ticked : services.clock left = .ok completedAt final) :
    abandon services startedAt failure ⟨⟨present, past⟩, memory, left⟩ =
      .error failure ⟨⟨.idle, past ++ [.error] ++ [.idle]⟩,
        ⟨.idle, some ⟨false, none, 0, [], some startedAt, some completedAt⟩,
          some failure.message⟩, final⟩ := by
  have back : SyncState.idle ∈ SyncState.successors .error := by decide
  simp only [abandon, Act.bind_apply, move_allowed allowed, remember, enter_allowed back,
    outside_apply, ticked, Act.throw_apply]

/-- Every synchronisation takes one of the courses. -/
theorem course_exists (services : Services σ) (campaignId : Value) (state : σ) :
    ∃ history outcome left, Course services campaignId state history outcome left := by
  cases fetching : fetch services campaignId state with
  | error failure left => exact ⟨_, _, _, .unfetched failure left fetching⟩
  | ok snapshot fetched =>
    cases storing : services.repository.upsertCampaign snapshot fetched with
    | error failure left =>
      exact ⟨_, _, _, .unstored snapshot fetched failure left fetching storing⟩
    | ok campaign stored =>
      cases loading : services.repository.activeRules stored with
      | error failure left =>
        exact ⟨_, _, _, .unloaded snapshot fetched campaign stored failure left fetching storing
          loading⟩
      | ok active loaded =>
        obtain ⟨logs, left, evaluating⟩ := Executor.turns_respond services.repository
          services.clock campaign.metrics (.text campaign.campaignId) active loaded
        exact ⟨_, _, _, .completed snapshot fetched campaign stored active loaded logs left fetching
          storing loading evaluating⟩

/-- A synchronisation whose stages end in a failure ends with it. -/
theorem ends_abandoned (ticking : services.clock.Responds) {started : σ} {startedAt : Timestamp}
    (ticked : services.clock state = .ok startedAt started) {failure : Failure}
    {present : SyncState} {past : List SyncState} {memory : SyncMemory}
    (failed : stages services (MetricsSource.orDefault campaignId services.configuration.campaignId)
      ⟨.start, remembered, started⟩ = .error failure ⟨⟨present, past⟩, memory, left⟩)
    (allowed : .error ∈ present.successors) :
    Ends services campaignId remembered state (past ++ [.error] ++ [.idle]) left
      (.error failure) := by
  obtain ⟨completedAt, final, finished⟩ := ticking left
  have abandoned := abandon_from allowed past memory startedAt failure finished
  have ran : run services campaignId ⟨.start, remembered, state⟩ =
      abandon services startedAt failure ⟨⟨present, past⟩, memory, left⟩ := by
    simp only [run, Act.bind_apply, outside_apply, ticked, Act.outcome_apply, failed]
  refine ⟨_, _, completedAt, ran.trans abandoned, ?_, rfl, rfl, rfl, finished⟩
  simp only [synchronise, Act.on_part_apply, ran, abandoned]

/-- A synchronisation whose stages are all passed ends with their result. -/
theorem ends_completed (ticking : services.clock.Responds) {started : σ} {startedAt : Timestamp}
    (ticked : services.clock state = .ok startedAt started) {campaign : Snapshot}
    {logs : List ActionLog} {result : Option SyncResult} {error : Option String}
    (passed : stages services (MetricsSource.orDefault campaignId services.configuration.campaignId)
      ⟨.start, remembered, started⟩ =
        .ok (campaign, logs) ⟨⟨.idle, history⟩, ⟨.idle, result, error⟩, left⟩) :
    Ends services campaignId remembered state history left (.ok (campaign, logs)) := by
  obtain ⟨completedAt, final, finished⟩ := ticking left
  have ran : run services campaignId ⟨.start, remembered, state⟩ =
      let result : SyncResult :=
        ⟨true, some campaign, logs.length, logs, some startedAt, some completedAt⟩
      .ok result ⟨⟨.idle, history⟩, ⟨.idle, some result, none⟩, final⟩ := by
    simp only [run, Act.bind_apply, outside_apply, ticked, Act.outcome_apply, passed, finished,
      remember, Act.pure_apply]
  refine ⟨_, _, completedAt, ran, ?_, rfl, rfl, rfl, rfl, rfl, rfl, finished⟩
  simp only [synchronise, Act.on_part_apply, ran]

/-- The course of a synchronisation decides how it ends, which stages it has been through, and what
is remembered of it. -/
theorem course_ends (remembered : SyncMemory) (ticking : services.clock.Responds) {started : σ}
    {startedAt : Timestamp}
    (ticked : services.clock state = .ok startedAt started)
    {outcome : Except Failure (Snapshot × List ActionLog)}
    (course : Course services campaignId started history outcome left) :
    Ends services campaignId remembered state history left outcome := by
  let asked := MetricsSource.orDefault campaignId services.configuration.campaignId
  have asks : MetricsSource.fetch services.depth services.configuration services.clock
      services.ask asked .null =
      fetch services campaignId := rfl
  have fetchable : SyncState.fetching ∈ SyncState.successors .idle := by decide
  have storable : SyncState.persisting ∈ SyncState.successors .fetching := by decide
  have evaluable : SyncState.evaluating ∈ SyncState.successors .persisting := by decide
  have closable : SyncState.idle ∈ SyncState.successors .evaluating := by decide
  cases course with
  | unfetched failure _ fetching =>
    have failed : stages services asked ⟨.start, remembered, started⟩ =
        .error failure
          ⟨⟨.fetching, [.idle, .fetching]⟩, { remembered with lastState := .fetching }, left⟩ := by
      simp only [stages, Act.bind_apply, Cycle.start, enter_allowed fetchable, outside_apply,
        asks, fetching, List.singleton_append]
    exact ends_abandoned ticking ticked failed (by decide)
  | unstored snapshot fetched failure _ fetching storing =>
    have failed : stages services asked ⟨.start, remembered, started⟩ =
        .error failure ⟨⟨.persisting, [.idle, .fetching, .persisting]⟩,
          { remembered with lastState := .persisting }, left⟩ := by
      simp only [stages, Act.bind_apply, Cycle.start, enter_allowed fetchable, outside_apply,
        asks, fetching, enter_allowed storable, storing, List.cons_append, List.nil_append]
    exact ends_abandoned ticking ticked failed (by decide)
  | unloaded snapshot fetched campaign stored failure _ fetching storing loading =>
    have failed : stages services asked ⟨.start, remembered, started⟩ =
        .error failure ⟨⟨.evaluating, [.idle, .fetching, .persisting, .evaluating]⟩,
          { remembered with lastState := .evaluating }, left⟩ := by
      simp only [stages, Act.bind_apply, Cycle.start, enter_allowed fetchable, outside_apply,
        asks, fetching, enter_allowed storable, storing, enter_allowed evaluable, Executor.pass,
        loading, List.cons_append, List.nil_append]
    exact ends_abandoned ticking ticked failed (by decide)
  | completed snapshot fetched campaign stored active loaded logs _ fetching storing loading
      evaluating =>
    have passed : stages services asked ⟨.start, remembered, started⟩ =
        .ok (campaign, logs) ⟨⟨.idle, [.idle, .fetching, .persisting, .evaluating, .idle]⟩,
          { remembered with lastState := .idle }, left⟩ := by
      simp only [stages, Act.bind_apply, Cycle.start, enter_allowed fetchable, outside_apply,
        asks, fetching, enter_allowed storable, storing, enter_allowed evaluable, Executor.pass,
        loading, evaluating, enter_allowed closable, List.cons_append, List.nil_append,
        Act.pure_apply]
    exact ends_completed ticking ticked passed

end Sync

end AdRules
