import AdRules.Proofs.Synchronisation
import AdRules.Scheduler

/-!
# What the scheduler keeps of its runs

The timer, a request and the startup all run synchronisations through one record and differ in what
becomes of a failure. A history of a scheduler is a list of calls. Between two of them anything may
happen outside, to the sync service too: what the scheduler keeps is changed by its own calls alone.
What one call can do is said once, by `Effect`; that the books are right follows by induction.
-/

namespace AdRules.Scheduler

variable {σ : Type}

/-- A call of the scheduler. When a running timer fires next is decided outside. -/
inductive Call where
  | start
  | stop
  | status (upcoming : Value)
  | triggered
  | scheduled
  | startup

/-- What a call gives, in the kinds that the calls of a scheduler have. -/
inductive Reply where
  | switched (flag : Bool)
  | shown (status : Value)
  | result (result : SyncResult)
  | attempt (result : Option SyncResult)

/-- Makes a call. -/
def Call.perform (services : Services σ) : Call → Act (Engine σ) Reply
  | .start => .switched <$> Scheduler.start services
  | .stop => .switched <$> Scheduler.stop
  | .status upcoming =>
    (fun engine => .shown (Scheduler.status services.configuration upcoming engine.scheduler)) <$>
      get
  | .triggered => .result <$> triggeredRun services
  | .scheduled => .attempt <$> scheduledRun services
  | .startup => .attempt <$> startupRun services

/-- A call, and what it finds outside and in the sync service. Both may have changed in any way
since the call before. -/
structure Event (σ : Type) where
  outside : σ
  sync : SyncMemory
  call : Call

/-- The process in which the call of an event is made. -/
def Event.engine (event : Event σ) (memory : SchedulerMemory) : Engine σ :=
  ⟨event.outside, event.sync, memory⟩

/-- The result of the call of an event. -/
def Event.reply (services : Services σ) (event : Event σ) (memory : SchedulerMemory) :
    Except Failure Reply :=
  (event.call.perform services).result (event.engine memory)

/-- The process after the call of an event. -/
def Event.after (services : Services σ) (event : Event σ) (memory : SchedulerMemory) : Engine σ :=
  (event.call.perform services).stateAfter (event.engine memory)

/-- What the scheduler keeps after a history. -/
def run (services : Services σ) (history : List (Event σ)) : SchedulerMemory :=
  history.foldl (fun memory event => (event.after services memory).scheduler) .start

/-- The last call of a history meets what the scheduler kept after the others. -/
theorem run_snoc (services : Services σ) (history : List (Event σ)) (event : Event σ) :
    run services (history ++ [event]) = (event.after services (run services history)).scheduler :=
  List.foldl_append

/-! ## What one call can do -/

/-- A synchronisation by the sync service, after which the clock is read and how it ended is
recorded. -/
inductive Attempt (services : Services σ) (engine : Engine σ) :
    Except Failure SyncResult → Engine σ → Prop where
  | recorded {outcome : Except Failure SyncResult} (sync : SyncMemory) (left : σ) (now : Timestamp)
      (final : σ)
      (ran : (Sync.synchronise services .null).outcome (engine.sync, engine.outside) =
        .ok outcome (sync, left))
      (ticked : services.clock left = .ok now final) :
      Attempt services engine outcome ⟨final, sync, engine.scheduler.record now outcome⟩

/-- The process with the timer switched on or off. -/
def switched (engine : Engine σ) (isRunning : Bool) : Engine σ :=
  { engine with scheduler := { engine.scheduler with isRunning := isRunning } }

/-- The process in which the synchronisation at startup has been begun. -/
def begun (engine : Engine σ) : Engine σ :=
  { engine with scheduler := { engine.scheduler with startupDone := true } }

/-- Why the timer cannot be started, and the process that the attempt leaves: the zone is looked up
first, and the interval is counted from the moment that the clock shows then. -/
inductive Unstartable (services : Services σ) (engine : Engine σ) : Failure → Engine σ → Prop where
  | zone {failure : Failure}
      (unknown : Zone.find services.configuration.timezone = .error failure) :
      Unstartable services engine failure engine
  | interval {failure : Failure} (now : Timestamp) (final : σ)
      (known : Zone.find services.configuration.timezone = .ok ())
      (ticked : services.clock engine.outside = .ok now final)
      (endless : checkInterval services.configuration.intervalMinutes now = .error failure) :
      Unstartable services engine failure { engine with outside := final }

/-- What a call does: the result that it has, the synchronisation that it runs, and the process that
it leaves. -/
inductive Effect (services : Services σ) (engine : Engine σ) :
    Call → Except Failure Reply → Option (Except Failure SyncResult) → Engine σ → Prop where
  | scheduled {outcome : Except Failure SyncResult} {after : Engine σ}
      (attempt : Attempt services engine outcome after) :
      Effect services engine .scheduled (.ok (.attempt outcome.toOption)) (some outcome) after
  | triggered {outcome : Except Failure SyncResult} {after : Engine σ}
      (attempt : Attempt services engine outcome after) :
      Effect services engine .triggered (outcome.map .result) (some outcome) after
  | startupFirst (first : engine.scheduler.startupDone = false)
      {outcome : Except Failure SyncResult} {after : Engine σ}
      (attempt : Attempt services (begun engine) outcome after) :
      Effect services engine .startup (.ok (.attempt outcome.toOption)) (some outcome) after
  | startupAgain (done : engine.scheduler.startupDone = true) :
      Effect services engine .startup (.ok (.attempt none)) none engine
  | started (stopped : engine.scheduler.isRunning = false) (now : Timestamp) (final : σ)
      (ticked : services.clock engine.outside = .ok now final) :
      Effect services engine .start (.ok (.switched true)) none
        (switched { engine with outside := final } true)
  | unstartable (stopped : engine.scheduler.isRunning = false) {failure : Failure}
      {after : Engine σ} (reason : Unstartable services engine failure after) :
      Effect services engine .start (.error failure) none after
  | startedAgain (running : engine.scheduler.isRunning = true) :
      Effect services engine .start (.ok (.switched false)) none engine
  | stopped (running : engine.scheduler.isRunning = true) :
      Effect services engine .stop (.ok (.switched true)) none (switched engine false)
  | stoppedAgain (stopped : engine.scheduler.isRunning = false) :
      Effect services engine .stop (.ok (.switched false)) none engine
  | shown (upcoming : Value) :
      Effect services engine (.status upcoming)
        (.ok (.shown (status services.configuration upcoming engine.scheduler))) none engine

variable {services : Services σ}

/-- Where the clock can be read, a synchronisation by the scheduler ends, and it does not fail. -/
theorem run_sync_attempt (ticking : services.clock.Responds) (engine : Engine σ) :
    ∃ outcome after, Attempt services engine outcome after ∧
      runSync services engine = .ok outcome after := by
  have attempted : ∃ outcome sync left,
      (Sync.synchronise services .null).outcome (engine.sync, engine.outside) =
        .ok outcome (sync, left) := by
    rw [Act.outcome_apply]
    cases Sync.synchronise services .null (engine.sync, engine.outside) <;> exact ⟨_, _, _, rfl⟩
  obtain ⟨outcome, sync, left, ran⟩ := attempted
  obtain ⟨now, final, ticked⟩ := ticking left
  refine ⟨outcome, _, .recorded sync left now final ran ticked, ?_⟩
  have synchronised : (Engine.synchronise services .null).outcome engine =
      .ok outcome { engine with sync := sync, outside := left } := by
    rw [Act.outcome_apply] at ran ⊢
    rw [Engine.synchronise, Act.on_part_apply]
    cases ended : Sync.synchronise services .null (engine.sync, engine.outside) <;>
      (rw [ended] at ran; cases ran; rfl)
  simp only [runSync, Act.bind_apply, synchronised, Engine.onOutside, Act.on_part_apply, ticked]
  rfl

/-- A run by the timer gives the result of its synchronisation, if that has one. -/
theorem scheduled_attempt (ticking : services.clock.Responds) (engine : Engine σ) :
    ∃ outcome after, Attempt services engine outcome after ∧
      scheduledRun services engine = .ok outcome.toOption after := by
  obtain ⟨outcome, after, attempt, ran⟩ := run_sync_attempt ticking engine
  refine ⟨outcome, after, attempt, ?_⟩
  simp only [scheduledRun, Act.bind_apply, ran]
  cases outcome <;> rfl

/-- The call has an effect, from which its result and the process after it come. -/
def Acts (services : Services σ) (engine : Engine σ) (call : Call) : Prop :=
  ∃ sync, Effect services engine call ((call.perform services).result engine) sync
    ((call.perform services).stateAfter engine)

variable {engine after : Engine σ} {call : Call} {sync : Option (Except Failure SyncResult)}

/-- A call that ran to its end acts by the effect that fits. -/
theorem acts_of_ok {reply : Reply} (ran : call.perform services engine = .ok reply after)
    (effect : Effect services engine call (.ok reply) sync after) : Acts services engine call := by
  refine ⟨sync, ?_⟩
  rw [Act.state_after_ok ran, Act.result, ran]
  exact effect

/-- A call that failed acts by the effect that fits its failure. -/
theorem acts_of_error {failure : Failure}
    (ran : call.perform services engine = .error failure after)
    (effect : Effect services engine call (.error failure) sync after) :
    Acts services engine call := by
  refine ⟨sync, ?_⟩
  rw [Act.state_after_error ran, Act.result, ran]
  exact effect

/-- Looking at the process changes nothing. -/
@[simp] theorem get_apply (engine : Engine σ) :
    (get : Act (Engine σ) (Engine σ)) engine = .ok engine engine := rfl

/-- A change of the process takes effect at once. -/
@[simp] theorem modify_apply (change : Engine σ → Engine σ) (engine : Engine σ) :
    (modify change : Act (Engine σ) PUnit) engine = .ok () (change engine) := rfl

/-- An operation outside changes the outside of the process and nothing else. -/
theorem outside_apply {α : Type} (action : Act σ α) (engine : Engine σ) :
    Engine.onOutside action engine =
      match action engine.outside with
      | .ok value outside => .ok value { engine with outside := outside }
      | .error failure outside => .error failure { engine with outside := outside } := rfl

/-- Starting the timer does nothing where it runs. Otherwise it is started, unless the zone or the
interval cannot be used. -/
theorem start_acts (ticking : services.clock.Responds) (engine : Engine σ) :
    Acts services engine .start := by
  cases running : engine.scheduler.isRunning with
  | true =>
    apply acts_of_ok _ (.startedAgain running)
    simp [Call.perform, Scheduler.start, running]
  | false =>
    cases zone : Zone.find services.configuration.timezone with
    | error failure =>
      apply acts_of_error _ (.unstartable running (.zone zone))
      simp [Call.perform, Scheduler.start, running, zone, Act.ofExcept]
    | ok known =>
      obtain ⟨now, final, ticked⟩ := ticking engine.outside
      cases interval : checkInterval services.configuration.intervalMinutes now with
      | error failure =>
        apply acts_of_error _ (.unstartable running (.interval now final zone ticked interval))
        simp [Call.perform, Scheduler.start, running, zone, Act.ofExcept, outside_apply, ticked,
          interval]
      | ok finite =>
        apply acts_of_ok _ (.started running now final ticked)
        simp [Call.perform, Scheduler.start, running, zone, Act.ofExcept, outside_apply, ticked,
          interval, switched]

/-- Every call has one of the effects. It is assumed that the clock can be read; all else that a
service uses may fail. -/
theorem call_acts (ticking : services.clock.Responds) (engine : Engine σ) (call : Call) :
    Acts services engine call := by
  cases call with
  | scheduled =>
    obtain ⟨outcome, after, attempt, ran⟩ := scheduled_attempt ticking engine
    apply acts_of_ok _ (.scheduled attempt)
    rw [Call.perform, Act.map_apply, ran]
  | triggered =>
    obtain ⟨outcome, after, attempt, ran⟩ := run_sync_attempt ticking engine
    have effect : Effect services engine .triggered _ _ _ := .triggered attempt
    cases outcome with
    | ok result =>
      apply acts_of_ok _ effect
      simp only [Call.perform, Act.map_apply, triggeredRun, Act.bind_apply, ran]
      rfl
    | error failure =>
      apply acts_of_error _ effect
      simp only [Call.perform, Act.map_apply, triggeredRun, Act.bind_apply, ran]
      rfl
  | startup =>
    cases done : engine.scheduler.startupDone with
    | true =>
      apply acts_of_ok _ (.startupAgain done)
      simp [Call.perform, startupRun, done]
    | false =>
      -- It is noted as done before it is begun, so a failure makes no room for another one.
      obtain ⟨outcome, after, attempt, ran⟩ := scheduled_attempt ticking (begun engine)
      apply acts_of_ok _ (.startupFirst done attempt)
      rw [begun] at ran
      simp [Call.perform, startupRun, done, ran]
  | start => exact start_acts ticking engine
  | stop =>
    cases running : engine.scheduler.isRunning with
    | true =>
      apply acts_of_ok _ (.stopped running)
      simp [Call.perform, Scheduler.stop, running, switched]
    | false =>
      apply acts_of_ok _ (.stoppedAgain running)
      simp [Call.perform, Scheduler.stop, running]
  | status upcoming => exact acts_of_ok rfl (.shown upcoming)

/-! ## The books -/

/-- What one call of a history did. -/
structure Turn where
  call : Call
  reply : Except Failure Reply
  /-- How the synchronisation ended that the call ran, if it ran one. -/
  sync : Option (Except Failure SyncResult)

/-- The turns are those of a history, and the last argument is what the scheduler keeps then. -/
inductive Transcript (services : Services σ) :
    List (Event σ) → List Turn → SchedulerMemory → Prop where
  | nothing : Transcript services [] [] .start
  | next {history : List (Event σ)} {turns : List Turn} {memory : SchedulerMemory}
      (earlier : Transcript services history turns memory) (event : Event σ)
      {sync : Option (Except Failure SyncResult)}
      (effect : Effect services (event.engine memory) event.call (event.reply services memory) sync
        (event.after services memory)) :
      Transcript services (history ++ [event])
        (turns ++ [⟨event.call, event.reply services memory, sync⟩])
        (event.after services memory).scheduler

/-- By induction on the history from its end. -/
theorem transcript_exists (ticking : services.clock.Responds) (history : List (Event σ)) :
    ∃ turns, Transcript services history turns (run services history) := by
  induction history using List.reverseRecOn with
  | nil => exact ⟨[], .nothing⟩
  | append_singleton history event inductionHypothesis =>
    obtain ⟨turns, earlier⟩ := inductionHypothesis
    obtain ⟨sync, effect⟩ := call_acts ticking (event.engine (run services history)) event.call
    rw [run_snoc]
    exact ⟨_, .next earlier event effect⟩

/-- The synchronisations that some turns ran, by how they ended. -/
def syncsOf (turns : List Turn) : List (Except Failure SyncResult) := turns.filterMap (·.sync)

/-- The text of the error of a synchronisation that failed. -/
def errorText? : Except Failure SyncResult → Option String
  | .ok _ => none
  | .error failure => some failure.message

/-- The call synchronises at startup. -/
def Turn.startsUp (turn : Turn) : Bool :=
  match turn.call with
  | .startup => turn.sync.isSome
  | _ => false

/-- What the turn switched the timer to, if it did. -/
def Turn.switch? (turn : Turn) : Option Bool :=
  match turn.call, turn.reply with
  | .start, .ok (.switched true) => some true
  | .stop, .ok (.switched true) => some false
  | _, _ => none

/-- What the scheduler keeps agrees with what was done: every count and every remembered result can
be read off the turns. -/
structure Books (turns : List Turn) (memory : SchedulerMemory) : Prop where
  runs : memory.runCount = (syncsOf turns).length
  failures : memory.failureCount = ((syncsOf turns).filter fun outcome => !outcome.isOk).length
  lastError : memory.lastError = (syncsOf turns).getLast?.bind errorText?
  lastResult : memory.lastResult = ((syncsOf turns).filterMap Except.toOption).getLast?
  startup : (turns.filter (·.startsUp)).length = memory.startupDone.toNat
  running : memory.isRunning = (turns.filterMap (·.switch?)).getLast?.getD false

variable {turns : List Turn} {memory : SchedulerMemory} {turn : Turn}

/-- A turn with a synchronisation is recorded; that at startup is remembered beside it. -/
theorem Books.recorded (books : Books turns memory) {outcome : Except Failure SyncResult}
    (ran : turn.sync = some outcome) (unswitched : turn.switch? = none) {done : Bool}
    (startup : memory.startupDone.toNat + turn.startsUp.toNat = done.toNat) (now : Timestamp) :
    Books (turns ++ [turn]) ({ memory with startupDone := done }.record now outcome) := by
  have syncs : syncsOf (turns ++ [turn]) = syncsOf turns ++ [outcome] := by simp [syncsOf, ran]
  have startups : ((turns ++ [turn]).filter (·.startsUp)).length = done.toNat := by
    rw [← startup, ← books.startup]
    cases started : turn.startsUp <;> simp [started]
  cases outcome with
  | ok result =>
    constructor
    · simp [SchedulerMemory.record, syncs, books.runs]
    · simp [SchedulerMemory.record, syncs, books.failures, Except.isOk, Except.toBool]
    · simp [SchedulerMemory.record, syncs, errorText?]
    · simp [SchedulerMemory.record, syncs, Except.toOption]
    · exact startups
    · simp [SchedulerMemory.record, unswitched, books.running]
  | error failure =>
    constructor
    · simp [SchedulerMemory.record, syncs, books.runs]
    · simp [SchedulerMemory.record, syncs, books.failures, Except.isOk, Except.toBool]
    · simp [SchedulerMemory.record, syncs, errorText?]
    · simp [SchedulerMemory.record, syncs, Except.toOption, books.lastResult]
    · exact startups
    · simp [SchedulerMemory.record, unswitched, books.running]

/-- A turn without a synchronisation leaves the records, and may switch the timer. -/
theorem Books.unrecorded (books : Books turns memory) (silent : turn.sync = none) {isRunning : Bool}
    (running : turn.switch?.getD memory.isRunning = isRunning) :
    Books (turns ++ [turn]) { memory with isRunning := isRunning } := by
  have syncs : syncsOf (turns ++ [turn]) = syncsOf turns := by simp [syncsOf, silent]
  have unstarted : turn.startsUp = false := by
    unfold Turn.startsUp
    split <;> simp [silent]
  constructor
  · rw [syncs]
    exact books.runs
  · rw [syncs]
    exact books.failures
  · rw [syncs]
    exact books.lastError
  · rw [syncs]
    exact books.lastResult
  · simpa [unstarted] using books.startup
  · rw [← running]
    cases switched : turn.switch? <;> simp [switched, books.running]

/-- What a call does keeps the books right. The cases are the effects; only the synchronisations
that were run are entered. -/
theorem Books.step {services : Services σ} {engine after : Engine σ} {call : Call}
    {reply : Except Failure Reply} {sync : Option (Except Failure SyncResult)}
    (books : Books turns engine.scheduler) (effect : Effect services engine call reply sync after) :
    Books (turns ++ [⟨call, reply, sync⟩]) after.scheduler := by
  cases effect with
  | scheduled attempt =>
    cases attempt with
    | recorded sync left now final ran ticked => exact books.recorded rfl rfl rfl now
  | triggered attempt =>
    cases attempt with
    | recorded sync left now final ran ticked => exact books.recorded rfl rfl rfl now
  | startupFirst first attempt =>
    cases attempt with
    | recorded sync left now final ran ticked =>
      exact books.recorded rfl rfl (by rw [first]; rfl) now
  | startupAgain done => exact books.unrecorded rfl rfl
  | started stopped now final ticked => exact books.unrecorded rfl rfl
  | unstartable stopped reason =>
    cases reason with
    | zone unknown => exact books.unrecorded rfl rfl
    | interval now final known ticked endless => exact books.unrecorded rfl rfl
  | startedAgain running => exact books.unrecorded rfl rfl
  | stopped running => exact books.unrecorded rfl rfl
  | stoppedAgain stopped => exact books.unrecorded rfl rfl
  | shown upcoming => exact books.unrecorded rfl rfl

/-- By induction on the transcript, of which every turn is an effect. -/
theorem Transcript.books {services : Services σ} {history : List (Event σ)}
    (transcript : Transcript services history turns memory) : Books turns memory := by
  induction transcript with
  | nothing => exact ⟨rfl, rfl, rfl, rfl, rfl, rfl⟩
  | next earlier event effect inductionHypothesis =>
    refine Books.step ?_ effect
    exact inductionHypothesis

/-! ## The answers -/

/-- How the synchronisation ends that the sync service would run next. -/
def nextOutcome (services : Services σ) (engine : Engine σ) : Except Failure SyncResult :=
  (Sync.synchronise services .null).result (engine.sync, engine.outside)

/-- An attempt ends as the next synchronisation does; recording it adds nothing to that. -/
theorem Attempt.outcome_eq {services : Services σ} {engine after : Engine σ}
    {outcome : Except Failure SyncResult} (attempt : Attempt services engine outcome after) :
    outcome = nextOutcome services engine := by
  cases attempt with
  | recorded sync left now final ran ticked =>
    rw [Act.outcome_apply] at ran
    unfold nextOutcome Act.result
    cases ended : Sync.synchronise services .null (engine.sync, engine.outside) with
    | ok result _ =>
      rw [ended] at ran
      cases ran
      rfl
    | error failure _ =>
      rw [ended] at ran
      cases ran
      rfl

/-- What calls answer in a process. The timer and the startup never fail; a request fails with what
its synchronisation failed with. The timer is started exactly if it was stopped, and stopped exactly
if it was running; a start that fails leaves it stopped. Of what the scheduler keeps, starting,
stopping and asking for the status change nothing else. -/
structure Answers (services : Services σ) (engine : Engine σ) : Prop where
  scheduled : (Call.scheduled.perform services).result engine =
    .ok (.attempt (nextOutcome services engine).toOption)
  startup : (Call.startup.perform services).result engine =
    .ok (.attempt (if engine.scheduler.startupDone then none
      else (nextOutcome services engine).toOption))
  triggered : (Call.triggered.perform services).result engine =
    (nextOutcome services engine).map .result
  started : ∀ reply, (Call.start.perform services).result engine = .ok reply →
    reply = .switched (!engine.scheduler.isRunning) ∧
      ((Call.start.perform services).stateAfter engine).scheduler =
        { engine.scheduler with isRunning := true }
  unstartable : ∀ failure, (Call.start.perform services).result engine = .error failure →
    engine.scheduler.isRunning = false ∧
      ((Call.start.perform services).stateAfter engine).scheduler = engine.scheduler
  stopped : (Call.stop.perform services).result engine =
      .ok (.switched engine.scheduler.isRunning) ∧
    ((Call.stop.perform services).stateAfter engine).scheduler =
      { engine.scheduler with isRunning := false }
  shown : ∀ upcoming, ((Call.status upcoming).perform services).result engine =
      .ok (.shown (status services.configuration upcoming engine.scheduler)) ∧
    ((Call.status upcoming).perform services).stateAfter engine = engine

/-- The answers follow from what the calls do. -/
theorem answers {services : Services σ} (ticking : services.clock.Responds) (engine : Engine σ) :
    Answers services engine where
  scheduled := by
    obtain ⟨sync, effect⟩ := call_acts ticking engine .scheduled
    generalize (Call.scheduled.perform services).result engine = reply at effect ⊢
    cases effect with
    | scheduled attempt => rw [attempt.outcome_eq]
  startup := by
    obtain ⟨sync, effect⟩ := call_acts ticking engine .startup
    generalize (Call.startup.perform services).result engine = reply,
      (Call.startup.perform services).stateAfter engine = after at effect ⊢
    cases effect with
    | startupFirst first attempt =>
      rw [attempt.outcome_eq, first]
      rfl
    | startupAgain done =>
      rw [done]
      rfl
  triggered := by
    obtain ⟨sync, effect⟩ := call_acts ticking engine .triggered
    generalize (Call.triggered.perform services).result engine = reply at effect ⊢
    cases effect with
    | triggered attempt => rw [attempt.outcome_eq]
  started := by
    intro reply given
    obtain ⟨sync, effect⟩ := call_acts ticking engine .start
    rw [given] at effect
    generalize (Call.start.perform services).stateAfter engine = after at effect ⊢
    cases effect with
    | started stopped now final ticked => exact ⟨by rw [stopped]; rfl, rfl⟩
    | startedAgain running => exact ⟨by rw [running]; rfl, by rw [← running]⟩
  unstartable := by
    intro failure given
    obtain ⟨sync, effect⟩ := call_acts ticking engine .start
    rw [given] at effect
    generalize (Call.start.perform services).stateAfter engine = after at effect ⊢
    cases effect with
    | unstartable stopped reason => exact ⟨stopped, by cases reason <;> rfl⟩
  stopped := by
    obtain ⟨sync, effect⟩ := call_acts ticking engine .stop
    generalize (Call.stop.perform services).result engine = reply,
      (Call.stop.perform services).stateAfter engine = after at effect ⊢
    cases effect with
    | stopped running => exact ⟨by rw [running], rfl⟩
    | stoppedAgain stopped => exact ⟨by rw [stopped], by rw [← stopped]⟩
  shown := fun upcoming => ⟨rfl, rfl⟩

/-- Whatever a scheduler is called for, in whatever order and however each synchronisation ends, it
keeps the books of what it did, and every call answers as it should. -/
theorem scheduler_keeps_books (services : Services σ) (ticking : services.clock.Responds)
    (history : List (Event σ)) :
    (∃ turns, Transcript services history turns (run services history) ∧
        Books turns (run services history)) ∧
      ∀ outside sync, Answers services ⟨outside, sync, run services history⟩ := by
  obtain ⟨turns, transcript⟩ := transcript_exists ticking history
  exact ⟨⟨turns, transcript, transcript.books⟩, fun outside sync => answers ticking _⟩

/-- The calls that are made in one process are such a history: each of them finds what the one
before it left. -/
theorem process_history (services : Services σ) (engine : Engine σ)
    (fresh : engine.scheduler = .start) (calls : List Call) :
    ∃ history : List (Event σ), history.map (·.call) = calls ∧
      run services history = (calls.foldl
        (fun engine call => (call.perform services).stateAfter engine) engine).scheduler := by
  induction calls using List.reverseRecOn with
  | nil => exact ⟨[], rfl, fresh.symm⟩
  | append_singleton calls call inductionHypothesis =>
    obtain ⟨history, sameCalls, kept⟩ := inductionHypothesis
    let between := calls.foldl (fun engine call => (call.perform services).stateAfter engine) engine
    refine ⟨history ++ [⟨between.outside, between.sync, call⟩], by simp [sameCalls], ?_⟩
    rw [run_snoc, kept, List.foldl_append]
    rfl

/-- A metrics source that answers when it can be reached, which its state says. -/
def patchySource (_ : InsightsRequest) : Act Bool SourceAnswer := fun reachable =>
  .ok (if reachable then .reply 200 "OK" "\x7b\"data\": \x7b\"spend\": 3\x7d\x7d"
    else .unreachable "timed out") reachable

/-- Services with a store in memory and such a source. -/
def patchyServices : Services (Memory × Bool) :=
  Memory.services Json.usualDepth Memory.sampleConfiguration patchySource

/-- A call that finds one rule stored, and the source within reach or not. -/
def sampleEvent (reachable : Bool) (call : Call) : Event (Memory × Bool) :=
  ⟨(Memory.run (Memory.sample.take 1), reachable), .start, call⟩

/-- The scheduler is started, fails to synchronise on request, synchronises at startup, once though
it is asked twice, is started again, and fails to synchronise when its timer fires. -/
def sampleCalls : List (Event (Memory × Bool)) :=
  [sampleEvent true .start, sampleEvent false .triggered, sampleEvent true .startup,
    sampleEvent true .startup, sampleEvent true .start, sampleEvent false .scheduled]

/-- Of three synchronisations the second one succeeds. Its result is kept beside the error of the
third, and the failures that are counted are two. -/
theorem sample_books :
    patchyServices.clock.Responds ∧
      (run patchyServices sampleCalls).runCount = 3 ∧
      (run patchyServices sampleCalls).failureCount = 2 ∧
      (run patchyServices sampleCalls).lastResult.isSome = true ∧
      (run patchyServices sampleCalls).lastError.isSome = true ∧
      (run patchyServices sampleCalls).isRunning = true ∧
      (∃ turns, Transcript patchyServices sampleCalls turns (run patchyServices sampleCalls) ∧
        Books turns (run patchyServices sampleCalls)) ∧
      ∀ outside sync, Answers patchyServices ⟨outside, sync, run patchyServices sampleCalls⟩ :=
  ⟨Memory.services_ticking, by decide +kernel, by decide +kernel, by decide +kernel,
    by decide +kernel, by decide +kernel,
    scheduler_keeps_books patchyServices Memory.services_ticking sampleCalls⟩

end AdRules.Scheduler
