import AdRules.Proofs.Parts
import AdRules.Proofs.Refusals
import AdRules.Proofs.RuleTurn
import AdRules.Proofs.SyncCourse

/-!
# How a synchronisation ends

The course of a synchronisation decides how it ends, for every store, configuration and source. With
the store in memory only fetching can fail, because storing a reading always succeeds, the active
rules are dated and all stored rules are readable; and fetching does not touch the store.

The metrics source has a state of its own and may answer anything. In memory the synchronisation is
the only user of the store, while the clock may show another time at each use, earlier or later.
Synchronisations that overlap, and the threads they would run on, are left outside.
-/

namespace AdRules

variable {σ ω : Type}

/-- A failed synchronisation failed with what its first failing operation failed with, so it is
never refused by the cycle unless one of these operations is. -/
theorem Sync.synchronise_unrefused (services : Services σ) (ticking : services.clock.Responds)
    (source : SourceUnrefused services.ask) (unrefused : services.repository.Unrefused)
    (campaignId : Value) : (Sync.synchronise services campaignId).Unrefused := by
  rintro ⟨remembered, state⟩ failure after failed
  have ticks : services.clock.Unrefused := by
    intro before cause later stopped
    obtain ⟨time, next, shown⟩ := ticking before
    rw [shown] at stopped
    cases stopped
  have fetched : (fetch services campaignId).Unrefused :=
    MetricsSource.fetch_unrefused services.depth services.configuration ticks source _ _
  obtain ⟨startedAt, started, ticked⟩ := ticking state
  obtain ⟨history, outcome, left, course⟩ := course_exists services campaignId started
  cases outcome with
  | ok value =>
    obtain ⟨work, result, completedAt, _, ended, _⟩ := course_ends remembered ticking ticked course
    rw [ended] at failed
    cases failed
  | error cause =>
    obtain ⟨work, result, completedAt, _, ended, _⟩ := course_ends remembered ticking ticked course
    rw [ended] at failed
    cases failed
    cases course with
    | unfetched _ _ fetching => exact fetched started failure left fetching
    | unstored snapshot between _ _ _ storing =>
      exact unrefused.storing snapshot between failure left storing
    | unloaded _ _ _ stored _ _ _ _ loading => exact unrefused.loading stored failure left loading

/-- The services of a process whose store and clock are given. The metrics source has a state of its
own beside them, and nothing is timed. -/
def Services.withSource (repository : Repository σ) (clock : Act σ Timestamp) (depth : Nat)
    (configuration : Configuration) (ask : InsightsRequest → Act ω SourceAnswer) :
    Services (σ × ω) where
  configuration := configuration
  repository := repository.onPart Prod.fst fun whole part => (part, whole.2)
  clock := clock.onPart Prod.fst fun whole part => (part, whole.2)
  ask request := (ask request).onPart Prod.snd fun whole world => (whole.1, world)
  depth := depth
  elapsed _ _ := 0

section Supplied

variable [IdSupply]

namespace Memory

/-- The services of a process that keeps its store in memory, at one moment. -/
def services (depth : Nat) (configuration : Configuration)
    (ask : InsightsRequest → Act ω SourceAnswer) :
    Services (Memory × ω) :=
  .withSource repository clock depth configuration ask

/-- The clock shows the moment the memory is used at. -/
theorem services_tick (depth : Nat) (configuration : Configuration)
    (ask : InsightsRequest → Act ω SourceAnswer) (state : Memory × ω) :
    (services depth configuration ask).clock state = .ok state.1.now state := rfl

/-- The clock in memory always shows a time. -/
theorem services_ticking {depth : Nat} {configuration : Configuration}
    {ask : InsightsRequest → Act ω SourceAnswer} :
    (services depth configuration ask).clock.Responds :=
  fun state => ⟨_, _, services_tick depth configuration ask state⟩

namespace Shared

/-- The services of such a process, with an interlude before each use of its memory. -/
def services (depth : Nat) (configuration : Configuration)
    (ask : InsightsRequest → Act ω SourceAnswer) :
    Services (Shared × ω) :=
  .withSource repository clock depth configuration ask

variable (depth : Nat) (configuration : Configuration) (ask : InsightsRequest → Act ω SourceAnswer)
  (campaignId : Value) (shared : Shared) (world : ω)

/-- The clock shows the moment at which the next interlude ends. -/
theorem services_tick (state : Shared × ω) :
    (services depth configuration ask).clock state =
      .ok state.1.next.memory.now (state.1.next, state.2) := by
  simp only [services, Services.withSource, Act.on_part_apply, clock_apply]

/-- A shared clock always shows a time. -/
theorem services_ticking {depth : Nat} {configuration : Configuration}
    {ask : InsightsRequest → Act ω SourceAnswer} :
    (services depth configuration ask).clock.Responds :=
  fun state => ⟨_, _, services_tick depth configuration ask state⟩

/-- While fetching only time passes, whether it succeeds or fails. The clock is read once if the
source answers, and not at all otherwise. -/
theorem fetch_waits (alone : shared.Alone) :
    match Sync.fetch (services depth configuration ask) campaignId (shared, world) with
    | .ok _ after => shared.Waited after.1
    | .error _ after => shared.Waited after.1 := by
  cases requested : MetricsSource.request? configuration
      (MetricsSource.orDefault (MetricsSource.orDefault campaignId configuration.campaignId)
        configuration.campaignId) with
  | none =>
    simp only [Sync.fetch, MetricsSource.fetch, services, Services.withSource, requested,
      Act.throw_apply]
    exact alone.still
  | some request =>
    simp only [Sync.fetch, MetricsSource.fetch, services, Services.withSource, requested,
      Act.bind_apply, Act.on_part_apply]
    cases asked : ask request world with
    | error failure after => exact alone.still
    | ok answer after =>
      simp only [clock_apply]
      cases MetricsSource.snapshot depth shared.next.memory.now _ _ answer <;> exact alone.waited

variable {depth configuration ask campaignId shared world}

/-- Loading the active rules does not fail where they are dated, and only time passes. -/
theorem services_load (alone : shared.Alone)
    (numbered : shared.memory.store.Numbered shared.memory.issued) :
    ∃ active, (services depth configuration ask).repository.activeRules (shared, world) =
        .ok active (shared.next, world) ∧ ∀ rule ∈ active, rule ∈ shared.memory.store.rules := by
  obtain ⟨active, listed⟩ := numbered.listed
  have loaded : repository.activeRules shared = .ok active shared.next := by
    simp only [repository, interrupted_apply, Memory.repository, query, alone.waited.store, listed,
      leave_same]
  refine ⟨active, ?_, fun rule member => ((Store.mem_active listed rule).mp member).1⟩
  simp only [services, Services.withSource, Repository.onPart, Act.on_part_apply, loaded]

/-- Storing a reading does not fail. Its campaign has it then; no rule and no log has changed, so
that the rules can still be loaded. -/
theorem services_store (world : ω) (alone : shared.Alone)
    (numbered : shared.memory.store.Numbered shared.memory.issued) (snapshot : Snapshot) :
    ∃ row between, (services depth configuration ask).repository.upsertCampaign snapshot
        (shared, world) = .ok row (between, world) ∧
      between.Alone ∧ between.memory.store.Numbered between.memory.issued ∧
      between.memory.store.rules = shared.memory.store.rules ∧
      between.memory.store.logs = shared.memory.store.logs ∧
      between.memory.store.campaign? snapshot.campaignId = some row ∧
      row.metrics = snapshot.metrics := by
  let ready := shared.next
  let stored := ready.memory.store.upsert ready.memory.now ready.memory.issued snapshot
  let between := ready.leave (ready.memory.keep stored.2.1 stored.2.2)
  have storing :
      (services depth configuration ask).repository.upsertCampaign snapshot (shared, world) =
        .ok stored.1 (between, world) := by
    simp only [services, Services.withSource, Repository.onPart, Act.on_part_apply, repository,
      interrupted_apply]
    rfl
  obtain ⟨sameRules, sameLogs, more⟩ :=
    Store.upsert_frame ready.memory.store ready.memory.now ready.memory.issued snapshot
  obtain ⟨found, metrics⟩ :=
    Store.upsert_stored ready.memory.store ready.memory.now ready.memory.issued snapshot
  have loadable : between.memory.store.Numbered between.memory.issued := by
    rw [← alone.waited.store, ← alone.waited.issued] at numbered
    exact (numbered.of_rules sameRules).more more
  exact ⟨stored.1, between, storing, alone.waited.alone.leave _, loadable,
    sameRules.trans (congrArg Store.rules alone.waited.store),
    sameLogs.trans (congrArg Store.logs alone.waited.store), found, metrics⟩

/-- The turns of some readable rules return the logs that they add. -/
theorem services_evaluate (alone : shared.Alone) (metrics : Metrics) (recordedFor : String)
    {active : List Rule} (readable : ∀ rule ∈ active, rule.Readable) :
    ∃ logs after,
      Executor.turns (services depth configuration ask).repository
        (services depth configuration ask).clock
        metrics (.text recordedFor) active (shared, world) = .ok logs (after, world) ∧
      shared.Adds logs after := by
  obtain ⟨logs, after, taken, turns⟩ := turns_interrupted metrics recordedFor active readable shared
  have whole := Executor.turns_on_part (Act.first_is_part (τ := ω)) repository clock metrics
    (.text recordedFor) active
  refine ⟨logs, after, ?_, turns.adds alone⟩
  simp only [services, Services.withSource, whole, Act.on_part_apply, taken]

/-- A failure to fetch is the failure of the synchronisation, and leaves the store as it is. -/
theorem synchronise_unfetched (alone : shared.Alone) (remembered : SyncMemory) {failure : Failure}
    {left : Shared × ω}
    (fetching : Sync.fetch (services depth configuration ask) campaignId (shared.next, world) =
      .error failure left) :
    ∃ noted after,
      Sync.synchronise (services depth configuration ask) campaignId (remembered, shared, world) =
        .error failure (noted, after) ∧ after.1.memory.store = shared.memory.store := by
  have waited := fetch_waits depth configuration ask campaignId shared.next world alone.waited.alone
  rw [fetching] at waited
  obtain ⟨work, result, completedAt, _, ended, _, _, _, finished⟩ :=
    Sync.course_ends remembered services_ticking
      (services_tick depth configuration ask (shared, world))
      (.unfetched failure left fetching)
  obtain ⟨_, still⟩ := EStateM.Result.ok.inj ((services_tick _ _ _ left).symm.trans finished)
  refine ⟨_, _, ended, ?_⟩
  rw [← still]
  exact waited.next.store.trans alone.waited.store

/-- Once a reading is fetched the synchronisation succeeds: the reading is stored under its
campaign, the active rules can be loaded, and the logs of their turns are those that are added. -/
theorem synchronise_fetched (alone : shared.Alone)
    (numbered : shared.memory.store.Numbered shared.memory.issued)
    (readable : ∀ rule ∈ shared.memory.store.rules, rule.Readable) (remembered : SyncMemory)
    {snapshot : Snapshot} {fetched : Shared × ω}
    (fetching : Sync.fetch (services depth configuration ask) campaignId (shared.next, world) =
      .ok snapshot fetched) :
    ∃ result noted after row added,
      Sync.synchronise (services depth configuration ask) campaignId (remembered, shared, world) =
        .ok result (noted, after) ∧
      after.1.memory.store.campaign? snapshot.campaignId = some row ∧
      row.metrics = snapshot.metrics ∧ result.campaign = some row ∧
      after.1.memory.store.logs = shared.memory.store.logs ++ added ∧
      result.logs = added.map after.1.memory.store.decorate := by
  obtain ⟨left, world'⟩ := fetched
  have waited := fetch_waits depth configuration ask campaignId shared.next world alone.waited.alone
  rw [fetching] at waited
  have same : left.memory.store = shared.memory.store := waited.store.trans alone.waited.store
  have leftNumbered : left.memory.store.Numbered left.memory.issued := by
    rw [same, waited.issued, alone.waited.issued]
    exact numbered
  obtain ⟨row, between, storing, nobody, loadable, sameRules, sameLogs, found, metrics⟩ :=
    services_store world' waited.alone leftNumbered snapshot
  obtain ⟨active, loading, members⟩ := services_load nobody loadable
  have activeReadable : ∀ rule ∈ active, rule.Readable := by
    intro rule member
    refine readable rule ?_
    rw [← same, ← sameRules]
    exact members rule member
  obtain ⟨logs, final, evaluating, adds⟩ :=
    services_evaluate nobody.waited.alone row.metrics row.campaignId activeReadable
  obtain ⟨added, shown, appended⟩ := adds.added
  obtain ⟨work, result, completedAt, _, ended, _, _, _, campaign, returned, _, finished⟩ :=
    Sync.course_ends remembered services_ticking
      (services_tick depth configuration ask (shared, world))
      (.completed snapshot _ row _ active _ _ _ fetching storing loading evaluating)
  obtain ⟨_, still⟩ := EStateM.Result.ok.inj ((services_tick _ _ _ _).symm.trans finished)
  rw [← still] at ended
  have last : final.next.memory.store = final.memory.store := adds.alone.waited.store
  have loaded : between.next.memory.store = between.memory.store := nobody.waited.store
  have stays : final.next.memory.store.campaign? snapshot.campaignId = some row := by
    rw [last, Store.campaign?, adds.campaigns, loaded]
    exact found
  refine ⟨_, _, _, row, added, ended, stays, metrics, campaign, ?_, ?_⟩
  · rw [last, appended, loaded, sameLogs, same]
  · rw [returned, shown, last, adds.names]

/-- How a synchronisation ends with the store in memory. It begins by reading the clock, and fails
exactly if the fetching that follows does; then the store is as before. Otherwise the reading is
stored under its campaign, and the logs that are returned are the ones that were added, under the
names the store shows. -/
structure Synchronises (depth : Nat) (configuration : Configuration)
    (ask : InsightsRequest → Act ω SourceAnswer) (campaignId : Value) (remembered : SyncMemory)
    (shared : Shared) (world : ω) : Prop where
  raises : (∃ failure after,
      Sync.synchronise (services depth configuration ask) campaignId (remembered, shared, world) =
        .error failure after) ↔
    ∃ failure after, Sync.fetch (services depth configuration ask) campaignId (shared.next, world) =
      .error failure after
  unchanged : ∀ failure noted after,
    Sync.synchronise (services depth configuration ask) campaignId (remembered, shared, world) =
      .error failure (noted, after) → after.1.memory.store = shared.memory.store
  updated : ∀ result noted after,
    Sync.synchronise (services depth configuration ask) campaignId (remembered, shared, world) =
      .ok result (noted, after) →
    ∃ snapshot fetched row added,
      Sync.fetch (services depth configuration ask) campaignId (shared.next, world) =
        .ok snapshot fetched ∧
      after.1.memory.store.campaign? snapshot.campaignId = some row ∧
      row.metrics = snapshot.metrics ∧ result.campaign = some row ∧
      after.1.memory.store.logs = shared.memory.store.logs ++ added ∧
      result.logs = added.map after.1.memory.store.decorate

/-- Where the stored rules are dated and readable, a synchronisation ends as fetching does. -/
theorem synchronises (alone : shared.Alone)
    (numbered : shared.memory.store.Numbered shared.memory.issued)
    (readable : ∀ rule ∈ shared.memory.store.rules, rule.Readable) (remembered : SyncMemory) :
    Synchronises depth configuration ask campaignId remembered shared world := by
  cases fetching :
      Sync.fetch (services depth configuration ask) campaignId (shared.next, world) with
  | error failure left =>
    obtain ⟨noted, after, failed, same⟩ := synchronise_unfetched alone remembered fetching
    refine ⟨⟨fun _ => ⟨failure, left, fetching⟩, fun _ => ⟨failure, _, failed⟩⟩, ?_, ?_⟩
    · intro cause noted' after' ended
      rw [failed] at ended
      cases ended
      exact same
    · intro result noted' after' ended
      rw [failed] at ended
      cases ended
  | ok snapshot fetched =>
    obtain ⟨result, noted, after, row, added, succeeded, found, metrics, shown, logs, returned⟩ :=
      synchronise_fetched alone numbered readable remembered fetching
    refine ⟨⟨?_, ?_⟩, ?_, ?_⟩
    · rintro ⟨failure, after', ended⟩
      rw [succeeded] at ended
      cases ended
    · rintro ⟨failure, left, failed⟩
      rw [fetching] at failed
      cases failed
    · intro cause noted' after' ended
      rw [succeeded] at ended
      cases ended
    · intro result' noted' after' ended
      rw [succeeded] at ended
      cases ended
      exact ⟨snapshot, fetched, row, added, fetching, found, metrics, shown, logs, returned⟩

end Shared

end Memory

/-- How a synchronisation ends, for every store, configuration and metrics source. It takes one of
the courses, and the course decides what is passed on, what is remembered and which stages the cycle
has been in. Where neither the store nor the source is refused by a cycle, as neither of the
two stores ever is, the synchronisation is not refused either. With the store in memory, after every
history and with a clock that shows any moment at any of its uses, it fails exactly if fetching
does. -/
theorem synchronisation_ends :
    (∀ (σ : Type) (services : Services σ) (campaignId : Value) (remembered : SyncMemory)
      (state : σ), services.clock.Responds →
      ∃ startedAt started, services.clock state = .ok startedAt started ∧
        (∃ history outcome left,
          Sync.Course services campaignId started history outcome left) ∧
        ∀ history outcome left,
          Sync.Course services campaignId started history outcome left →
            Sync.Ends services campaignId remembered state history left outcome) ∧
      (∀ (σ : Type) (services : Services σ) (campaignId : Value), services.clock.Responds →
        SourceUnrefused services.ask → services.repository.Unrefused →
          (Sync.synchronise services campaignId).Unrefused) ∧
      (∀ (σ : Type) (get : σ → Memory) (set : σ → Memory → σ),
        (Memory.repository.onPart get set).Unrefused) ∧
      (∀ (σ : Type) (address : String) (get : σ → Database.Link) (set : σ → Database.Link → σ),
        ((Database.repository address).onPart get set).Unrefused) ∧
      ∀ (ω : Type) (depth : Nat) (configuration : Configuration)
        (ask : InsightsRequest → Act ω SourceAnswer) (campaignId : Value)
        (remembered : SyncMemory) (history : List Memory.Event)
        (moments : List Int) (world : ω),
        Memory.Shared.Synchronises depth configuration ask campaignId remembered
          (Memory.Shared.alone (Memory.run history) moments) world := by
  refine ⟨?_, ?_, ?_, ?_, ?_⟩
  · intro σ services campaignId remembered state ticking
    obtain ⟨startedAt, started, ticked⟩ := ticking state
    refine ⟨startedAt, started, ticked, Sync.course_exists services campaignId started, ?_⟩
    intro history outcome left course
    exact Sync.course_ends remembered ticking ticked course
  · intro σ services campaignId ticking source unrefused
    exact Sync.synchronise_unrefused services ticking source unrefused campaignId
  · intro σ get set
    exact Memory.repository_unrefused.on_part
  · intro σ address get set
    exact (Database.repository_unrefused address).on_part
  · intro ω depth configuration ask campaignId remembered history moments world
    exact Memory.Shared.synchronises (Memory.Shared.alone_is_alone _ moments)
      (Memory.run_numbered history) (Memory.run_readable history) remembered

end Supplied

namespace Memory

/-- A configuration with a token, so that the metrics source is asked. -/
def sampleConfiguration : Configuration :=
  ⟨"", "memory", some "token", "insights", "summer", "Summer", 10, 60, "UTC",
    "test", false, false, none, 50, 500⟩

/-- A metrics source that answers every request with the same insights. -/
def sampleSource (_ : InsightsRequest) : Act Unit SourceAnswer :=
  pure (.reply 200 "OK" "\x7b\"data\": \x7b\"spend\": 3\x7d\x7d")

/-- Services with a store in memory and that source. -/
def sampleServices : Services (Memory × Unit) :=
  services Json.usualDepth sampleConfiguration sampleSource

/-- The source answers, whatever it is asked, and its answer is no refusal. -/
theorem sample_source_unrefused :
    SourceUnrefused sampleServices.ask where
  asking := by
    intro request
    exact Act.Unrefused.on_part (.pure _)
  answering := by
    rintro request state failure after ⟨⟩

end Memory

/-- A synchronisation of the campaign of the configuration after the sample: it takes a course, and
is never refused by its cycle. -/
theorem sample_synchronisation :
    Memory.sampleServices.clock.Responds ∧
      (Sync.synchronise Memory.sampleServices .null).Unrefused ∧
      ∃ startedAt started,
        Memory.sampleServices.clock (Memory.run Memory.sample, ()) = .ok startedAt started ∧
        (∃ history outcome left,
          Sync.Course Memory.sampleServices .null started history outcome left) ∧
        ∀ history outcome left,
          Sync.Course Memory.sampleServices .null started history outcome left →
          Sync.Ends Memory.sampleServices .null .start (Memory.run Memory.sample, ()) history left
            outcome :=
  ⟨Memory.services_ticking,
    synchronisation_ends.2.1 _ _ _ Memory.services_ticking Memory.sample_source_unrefused
      Memory.repository_unrefused.on_part,
    synchronisation_ends.1 _ _ _ _ _ Memory.services_ticking⟩

end AdRules
