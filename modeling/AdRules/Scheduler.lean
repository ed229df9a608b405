import AdRules.Sync
import AdRules.Zone

/-!
# The scheduler

The scheduler runs synchronisations at an interval, on request, and once at startup. It keeps count
of them and remembers how the latest ended. When the timer fires is outside the library; starting
and stopping are not.

The timer is that of a scheduling library, of its major version 3 from 3.10 on. Assumed of it is
what `checkInterval` says: it looks the zone up, then counts the first run from the moment at hand
in that arithmetic of dates, and starting it fails in no other way. Its worker threads, runs that it
delays, skips or joins, and how soon it is at rest after it was stopped are left out.
-/

namespace AdRules

/-- What a scheduler keeps: whether its timer runs, whether the first run is done, and its books.
    The timer itself is outside. -/
structure SchedulerMemory where
  isRunning : Bool
  startupDone : Bool
  lastRun : Option Timestamp
  lastResult : Option SyncResult
  lastError : Option String
  runCount : Nat
  failureCount : Nat

/-- A scheduler that has not done anything. -/
def SchedulerMemory.start : SchedulerMemory := ⟨false, false, none, none, none, 0, 0⟩

/-- The state of a running process: the outside world, the sync service and the scheduler. -/
structure Engine (σ : Type) where
  outside : σ
  sync : SyncMemory
  scheduler : SchedulerMemory

namespace Engine

variable {σ α : Type}

/-- A process that has just come up. -/
def start (outside : σ) : Engine σ := ⟨outside, .start, .start⟩

/-- An operation of the outside world. -/
def onOutside (action : Act σ α) : Act (Engine σ) α :=
  action.onPart (·.outside) fun engine outside => { engine with outside := outside }

/-- A synchronisation by the sync service. The scheduler's books are left as they are. -/
def synchronise (services : Services σ) (campaignId : Value) : Act (Engine σ) SyncResult :=
  (Sync.synchronise services campaignId).onPart (fun engine => (engine.sync, engine.outside))
    fun engine (sync, outside) => { engine with sync := sync, outside := outside }

end Engine

/-- Counts a synchronisation and keeps its result or error. A failure leaves the last result as it
    was, a success takes the last error away. -/
def SchedulerMemory.record (memory : SchedulerMemory) (now : Timestamp)
    (outcome : Except Failure SyncResult) : SchedulerMemory :=
  match outcome with
  | .ok result =>
    { memory with
      lastRun := some now
      runCount := memory.runCount + 1
      lastResult := some result
      lastError := none }
  | .error failure =>
    { memory with
      lastRun := some now
      runCount := memory.runCount + 1
      failureCount := memory.failureCount + 1
      lastError := some failure.message }

namespace Scheduler

variable {σ : Type}

/-- A synchronisation run by the scheduler, which is entered in the books however it ends. -/
def runSync (services : Services σ) : Act (Engine σ) (Except Failure SyncResult) := do
  let outcome ← (Engine.synchronise services .null).outcome
  let now ← Engine.onOutside services.clock
  modify fun engine => { engine with scheduler := engine.scheduler.record now outcome }
  pure outcome

/-- What the timer does: a synchronisation whose failure is only remembered. -/
def scheduledRun (services : Services σ) : Act (Engine σ) (Option SyncResult) := do
  match ← runSync services with
  | .ok result => pure (some result)
  | .error _ => pure none

/-- A synchronisation on request, whose failure is passed on. -/
def triggeredRun (services : Services σ) : Act (Engine σ) SyncResult := do
  Act.ofExcept (← runSync services)

/-- The synchronisation at startup, which is run at most once. -/
def startupRun (services : Services σ) : Act (Engine σ) (Option SyncResult) := do
  if (← get).scheduler.startupDone then pure none
  else
    modify fun engine => { engine with scheduler := { engine.scheduler with startupDone := true } }
    scheduledRun services

/-- The longest interval in days that can be written down. -/
def longestInterval : Nat := 999999999

/-- The longest count of days that is looked at: a larger one does not fit into the integers that an
    interval is built from. -/
def longestCount : Nat := 2147483647

/-- The last day of the calendar, counted from the start of 1970. -/
def lastDay : Int := Civil.daysOf 9999 12 31

/-- An interval of some minutes has a first end, counted from now. -/
def checkInterval (minutes : Int) (now : Timestamp) : Except Failure Unit :=
  let days := minutes.fdiv 1440
  if days.natAbs > longestCount then
    .error (.badInterval "Python int too large to convert to C int")
  else if days.natAbs > longestInterval then
    .error (.badInterval
      ("days=" ++ toString days ++ "; must have magnitude <= " ++ toString longestInterval))
  else
    let first := Civil.ofMicroseconds (now.wall + minutes * 60000000)
    if first.year < 1 ∨ 9999 < first.year then
      .error (.badInterval "date value out of range")
    else .ok ()

/-- Starts the timer, unless it is running. A zone or interval that cannot be used leaves it
    stopped. -/
def start (services : Services σ) : Act (Engine σ) Bool := do
  if (← get).scheduler.isRunning then pure false
  else
    Act.ofExcept (Zone.find services.configuration.timezone)
    let now ← Engine.onOutside services.clock
    Act.ofExcept (checkInterval services.configuration.intervalMinutes now)
    modify fun engine => { engine with scheduler := { engine.scheduler with isRunning := true } }
    pure true

/-- Stops the timer, unless it is stopped. A run under way is not waited for here. -/
def stop : Act (Engine σ) Bool := do
  if (← get).scheduler.isRunning then
    modify fun engine => { engine with scheduler := { engine.scheduler with isRunning := false } }
    pure true
  else pure false

/-- What happens when the process comes up: where the scheduler is to start by itself it is started,
    and where that is wanted, a first synchronisation follows. -/
def comeUp (services : Services σ) : Act (Engine σ) Unit := do
  if services.configuration.startsScheduler then
    let _ ← start services
    if services.configuration.syncOnStartup then
      let _ ← startupRun services

/-- What happens when the process goes down: the timer is stopped, if it runs. -/
def goDown : Act (Engine σ) Unit := do
  let _ ← stop

/-- A summary without its logs, as a status shows it. -/
def briefResult (result : SyncResult) : Value :=
  match result.toValue with
  | .record fields => .record (fields.filter fun field => field.1 != "action_logs")
  | value => value

/-- The status of a scheduler. When a running timer fires next is given only as `upcoming`. -/
def status (configuration : Configuration) (upcoming : Value) (memory : SchedulerMemory) : Value :=
  .record
    [("is_running", .bool memory.isRunning),
     ("next_run", if memory.isRunning then upcoming else .null),
     ("interval_minutes", .int configuration.intervalMinutes),
     ("timezone", .text configuration.timezone),
     ("last_run", (memory.lastRun.map fun time => Value.text time.isoText).getD .null),
     ("last_result", (memory.lastResult.map briefResult).getD .null),
     ("last_error", .ofText? memory.lastError),
     ("run_count", .int memory.runCount), ("failure_count", .int memory.failureCount)]

end Scheduler

end AdRules
