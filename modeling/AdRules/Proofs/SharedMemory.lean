import AdRules.Proofs.Histories

/-!
# A memory that is used call by call

The store is reached one call at a time, so what other callers do between two calls is a history of
its own. An interlude is such a history together with the moment at which the next call is made. The
store and the clock are given here as they are reached through interludes: each call, and each look
at the clock, takes place after the next one. Where nobody else uses the memory the interludes are
only moments, and every use has one of its own. Calls are taken to be whole, as the lock of the
store makes them; what threads do inside a call is left outside.
-/

namespace AdRules.Memory

/-- The clock of a memory shows the moment it is used at. -/
def clock : Act Memory Timestamp := fun memory => .ok memory.now memory

/-- What others do between two calls, and the moment it is then. Nothing is assumed of either. -/
structure Interlude where
  events : List Event
  moment : Int

/-- Nothing is done and only time passes, be it forwards or backwards. -/
def Interlude.wait (moment : Int) : Interlude := ⟨[], moment⟩

/-- A memory and the interludes that are still to come. When there are none left, no one else uses
the memory any more and its clock stands still. -/
structure Shared where
  memory : Memory
  upcoming : List Interlude

namespace Shared

/-- The memory was changed, the interludes are the same. -/
def leave (shared : Shared) (memory : Memory) : Shared := { shared with memory := memory }

/-- Leaving the memory as it was found is leaving everything as it was. -/
@[simp] theorem leave_same (shared : Shared) : shared.leave shared.memory = shared := rfl

/-- Nobody else uses the memory: every interlude is only a moment. Time may still pass between any
two uses, forwards or backwards. -/
def Alone (shared : Shared) : Prop := ∀ interlude ∈ shared.upcoming, interlude.events = []

/-- A memory that nobody else uses, with the moments of its next uses. -/
def alone (memory : Memory) (moments : List Int) : Shared := ⟨memory, moments.map Interlude.wait⟩

/-- The interludes of such a memory are waits. -/
theorem alone_is_alone (memory : Memory) (moments : List Int) : (alone memory moments).Alone := by
  intro interlude listed
  obtain ⟨moment, _, rfl⟩ := List.mem_map.mp listed
  rfl

/-- Changing a memory does not bring anyone else to it. -/
theorem Alone.leave {shared : Shared} (alone : shared.Alone) (memory : Memory) :
    (shared.leave memory).Alone := alone

/-- Only time has passed between two states: nothing was stored, no identifier was issued, and
nobody else will use the memory. -/
structure Waited (before after : Shared) : Prop where
  store : after.memory.store = before.memory.store
  issued : after.memory.issued = before.memory.issued
  alone : after.Alone

variable {before between after : Shared}

/-- No time at all may have passed. -/
theorem Alone.still (alone : before.Alone) : before.Waited before := ⟨rfl, rfl, alone⟩

/-- Some logs were added to a memory that nobody else uses, and are given under the names the store
shows. Readings and the names of rules are as before; counts and times of rules are not spoken
of. -/
structure Adds (before : Shared) (logs : List ActionLog) (after : Shared) : Prop where
  added : ∃ added, logs = added.map before.memory.store.decorate ∧
    after.memory.store.logs = before.memory.store.logs ++ added
  campaigns : after.memory.store.campaigns = before.memory.store.campaigns
  names : after.memory.store.decorate = before.memory.store.decorate
  alone : after.Alone

/-- Where only time has passed no log was added. -/
theorem Waited.adds (waited : before.Waited after) : before.Adds [] after where
  added := ⟨[], rfl, by rw [waited.store, List.append_nil]⟩
  campaigns := by rw [waited.store]
  names := by rw [waited.store]
  alone := waited.alone

/-- What is added first and what is added then is added together. -/
theorem Adds.trans {first rest : List ActionLog} (adds : before.Adds first between)
    (further : between.Adds rest after) : before.Adds (first ++ rest) after := by
  obtain ⟨earlier, shown, stored⟩ := adds.added
  obtain ⟨later, furtherShown, furtherStored⟩ := further.added
  refine ⟨⟨earlier ++ later, ?_, ?_⟩, further.campaigns.trans adds.campaigns,
    further.names.trans adds.names, further.alone⟩
  · rw [shown, furtherShown, adds.names, List.map_append]
  · rw [furtherStored, stored, List.append_assoc]

end Shared

variable [IdSupply]

/-- The memory after an interlude. -/
def Interlude.pass (interlude : Interlude) (memory : Memory) : Memory :=
  (runFrom memory interlude.events).setClock interlude.moment

namespace Shared

/-- After the next interlude. -/
def next (shared : Shared) : Shared :=
  match shared.upcoming with
  | [] => shared
  | interlude :: rest => ⟨interlude.pass shared.memory, rest⟩

/-- An operation on the memory that others may have used just before it, but do not use
meanwhile. -/
def interrupted {α : Type} (action : Act Memory α) : Act Shared α := fun shared =>
  action.onPart Shared.memory leave shared.next

/-- The store in memory, interrupted before every operation. No operation is interrupted within
itself, because each holds a lock. -/
def repository : Repository Shared where
  upsertCampaign snapshot := interrupted (Memory.repository.upsertCampaign snapshot)
  latestCampaign := interrupted Memory.repository.latestCampaign
  latestCampaignWithLogs limit := interrupted (Memory.repository.latestCampaignWithLogs limit)
  createRule draft owner := interrupted (Memory.repository.createRule draft owner)
  rule id limit := interrupted (Memory.repository.rule id limit)
  rules := interrupted Memory.repository.rules
  updateRule id change := interrupted (Memory.repository.updateRule id change)
  deleteRule id := interrupted (Memory.repository.deleteRule id)
  activeRules := interrupted Memory.repository.activeRules
  findLog ruleId campaignId action status :=
    interrupted (Memory.repository.findLog ruleId campaignId action status)
  logs ruleId limit := interrupted (Memory.repository.logs ruleId limit)
  record log := interrupted (Memory.repository.record log)
  prepare := interrupted Memory.repository.prepare

/-- The clock, on which time may have passed since the last use. Looking at it is a use too. -/
def clock : Act Shared Timestamp := interrupted Memory.clock

variable {shared : Shared}

/-- An interrupted operation is run on the memory as the interlude has left it, and what it leaves
is kept whether it has a result or fails. -/
@[simp] theorem interrupted_apply {α : Type} (action : Act Memory α) (shared : Shared) :
    interrupted action shared =
      match action shared.next.memory with
      | .ok value after => .ok value (shared.next.leave after)
      | .error failure after => .error failure (shared.next.leave after) := by
  cases ran : action shared.next.memory <;> simp only [interrupted, Act.on_part_apply, ran]

/-- The clock shows the moment at which the interlude before it ended. -/
theorem clock_apply (shared : Shared) : clock shared = .ok shared.next.memory.now shared.next := by
  simp only [clock, interrupted_apply, Memory.clock]
  rfl

/-- What an operation comes to is what it comes to after the interlude. -/
theorem outcome_interrupted {α : Type} {action : Act Memory α} {outcome : Except Failure α}
    {after : Memory} (ran : action.outcome shared.next.memory = .ok outcome after) :
    (interrupted action).outcome shared = .ok outcome (shared.next.leave after) := by
  simp only [Act.outcome_apply, interrupted_apply] at ran ⊢
  cases ended : action shared.next.memory with
  | ok value memory =>
    simp only [ended, EStateM.Result.ok.injEq] at ran ⊢
    exact ⟨ran.1, congrArg shared.next.leave ran.2⟩
  | error failure memory =>
    simp only [ended, EStateM.Result.ok.injEq] at ran ⊢
    exact ⟨ran.1, congrArg shared.next.leave ran.2⟩

/-! ## Times -/

/-- What the clock shows at a use from now on, the present being use zero. -/
def timeAt (shared : Shared) : Nat → Timestamp
  | 0 => shared.memory.now
  | use + 1 => shared.next.timeAt use

/-- What the clock will show depends on the present moment and on what is to come, and not on what
is stored. -/
theorem time_at_leave {memory : Memory} (now : memory.now = shared.memory.now) (use : Nat) :
    (shared.leave memory).timeAt use = shared.timeAt use := by
  induction use generalizing shared memory with
  | zero => exact now
  | succ use inductionHypothesis =>
    obtain ⟨present, upcoming⟩ := shared
    cases upcoming with
    | nil =>
      exact @inductionHypothesis ⟨present, []⟩ memory now
    | cons interlude rest =>
      exact @inductionHypothesis ⟨interlude.pass present, rest⟩ (interlude.pass memory) rfl

/-- Moments are of universal time, so the clock shows no offset unless the present has one. -/
theorem time_at_naive (naive : shared.memory.now.isAware = false) (use : Nat) :
    (shared.timeAt use).isAware = false := by
  induction use generalizing shared with
  | zero => exact naive
  | succ use inductionHypothesis =>
    obtain ⟨memory, upcoming⟩ := shared
    cases upcoming with
    | nil => exact @inductionHypothesis ⟨memory, []⟩ naive
    | cons interlude rest => exact @inductionHypothesis ⟨interlude.pass memory, rest⟩ rfl

/-! ## Memories that nobody else uses -/

/-- Between two uses of a memory that nobody else uses only time passes. -/
theorem Alone.waited (alone : shared.Alone) : shared.Waited shared.next := by
  obtain ⟨memory, upcoming⟩ := shared
  cases upcoming with
  | nil => exact ⟨rfl, rfl, alone⟩
  | cons interlude rest =>
    have silent : interlude.events = [] := alone interlude List.mem_cons_self
    have passed : interlude.pass memory = memory.setClock interlude.moment := by
      rw [Interlude.pass, silent]
      rfl
    refine ⟨?_, ?_, fun other listed => alone other (List.mem_cons_of_mem _ listed)⟩
    · simp only [next, passed, setClock]
    · simp only [next, passed, setClock]

/-- After one more use still only time has passed. -/
theorem Waited.next {after : Shared} (waited : shared.Waited after) : shared.Waited after.next where
  store := waited.alone.waited.store.trans waited.store
  issued := waited.alone.waited.issued.trans waited.issued
  alone := waited.alone.waited.alone

end Shared

/-- What others do after a history continues it. -/
theorem next_store (history : List Event) (upcoming : List Interlude) :
    ∃ longer, (Shared.next ⟨run history, upcoming⟩).memory.store = (run longer).store := by
  cases upcoming with
  | nil => exact ⟨history, rfl⟩
  | cons interlude rest =>
    have continued : run (history ++ interlude.events) =
        runFrom (run history) interlude.events := run_from_append start history interlude.events
    exact ⟨history ++ interlude.events, continued ▸ rfl⟩

end AdRules.Memory
