import AdRules.Proofs.RuleTurn
import Mathlib.Data.List.Forall2

/-!
# A pass over the active rules

A pass loads the active rules and takes their turns one after the other, each in the store that the
turns before it have left and at moments of its own. Turns do not get in each other's way: a turn
appends a log of its own rule and counts it there, and the rules of a pass have distinct
identifiers. So what a pass does can be read off the store it starts from and the moments of its
uses of the memory, provided that nobody else uses the memory meanwhile and that the times of all
logs can be put in order. A pass among other callers is the subject of a module of its own.
-/

namespace AdRules

/-- The log says what has to be said of an execution of a rule at a moment. -/
structure Records (metrics : Metrics) (campaignId : String) (now : Timestamp) (rule : Rule)
    (log : ActionLog) : Prop where
  ofRule : log.ruleId = rule.id
  ofCampaign : log.campaignId = campaignId
  sameAction : log.action = rule.action
  defaultValue : rule.actionValue = none ∨ rule.actionValue = some "" → log.actionValue = "default"
  givenValue : ∀ value, rule.actionValue = some value → value ≠ "" → log.actionValue = value
  succeeded : log.status = .success
  sameMetrics : log.metrics = metrics
  triggered : log.triggeredAt = now
  completed : log.completedAt = some now

/-- An execution of a rule is dated by a use of the clock, and recorded at the next use of the
memory. The uses are counted from the start of a pass. -/
abbrev Execution : Type := Rule × Nat

/-- Some executions take place at later and later uses, all of them after the first use, at which
the rules are loaded, and the logs say of each what has to be said. -/
structure RecordsEach (metrics : Metrics) (campaignId : String) (timeAt : Nat → Timestamp)
    (executions : List Execution) (logs : List ActionLog) : Prop where
  inTurn : (1 :: executions.map Prod.snd).Pairwise (· < ·)
  each : List.Forall₂
    (fun execution log => Records metrics campaignId (timeAt execution.2) execution.1 log)
    executions logs

/-- A rule that is triggered is due, unless its action may not be repeated and has succeeded on the
campaign. -/
def Store.isDue (store : Store) (metrics : Metrics) (campaignId : String) (rule : Rule) : Bool :=
  rule.triggers metrics &&
    (rule.action == .sendNotification || !store.succeeded rule.id campaignId rule.action)

/-- The rule as it is counted once more where it is one of those executed. -/
def Rule.countedIn (rule : Rule) (executions : List Execution) (timeAt : Nat → Timestamp) : Rule :=
  match executions.find? (·.1.id == rule.id) with
  | some execution => rule.triggered (timeAt execution.2) (timeAt (execution.2 + 1))
  | none => rule

/-- Notifications are the actions that may be repeated. -/
theorem Action.repeatable_iff (action : Action) :
    action.isRepeatable = (action == .sendNotification) := by
  cases action <;> rfl

namespace Rule

variable (rule : Rule) (executions : List Execution) (timeAt : Nat → Timestamp)

/-- Counting executions changes only what being triggered changes. -/
theorem counted_in_keeps {α : Type} (field : Rule → α)
    (kept : ∀ time now, field (rule.triggered time now) = field rule) :
    field (rule.countedIn executions timeAt) = field rule := by
  unfold countedIn
  split
  · exact kept _ _
  · rfl

/-- Counting executions leaves the identifier of a rule. -/
@[simp] theorem counted_in_id : (rule.countedIn executions timeAt).id = rule.id :=
  rule.counted_in_keeps executions timeAt (·.id) fun _ _ => rfl

/-- It does not switch the rule. -/
@[simp] theorem counted_in_isActive :
    (rule.countedIn executions timeAt).isActive = rule.isActive :=
  rule.counted_in_keeps executions timeAt (·.isActive) fun _ _ => rfl

/-- It leaves the moment of its creation, and so its place among the rules. -/
@[simp] theorem counted_in_createdAt :
    (rule.countedIn executions timeAt).createdAt = rule.createdAt :=
  rule.counted_in_keeps executions timeAt (·.createdAt) fun _ _ => rfl

/-- It leaves the action. -/
@[simp] theorem counted_in_action : (rule.countedIn executions timeAt).action = rule.action :=
  rule.counted_in_keeps executions timeAt (·.action) fun _ _ => rfl

/-- It leaves the value that belongs to the action. -/
@[simp] theorem counted_in_actionValue :
    (rule.countedIn executions timeAt).actionValue = rule.actionValue :=
  rule.counted_in_keeps executions timeAt (·.actionValue) fun _ _ => rfl

/-- It leaves the groups. -/
@[simp] theorem counted_in_groups : (rule.countedIn executions timeAt).groups = rule.groups :=
  rule.counted_in_keeps executions timeAt (·.groups) fun _ _ => rfl

/-- So whether a rule is triggered does not depend on what has been counted in the pass before it.
-/
@[simp] theorem counted_in_triggers (metrics : Metrics) :
    (rule.countedIn executions timeAt).triggers metrics = rule.triggers metrics := by
  rw [triggers, counted_in_groups, triggers]

/-- Counting executions does not change when a rule was created. -/
theorem counted_in_creation :
    Store.creation (rule.countedIn executions timeAt) = Store.creation rule :=
  rule.counted_in_keeps executions timeAt Store.creation fun _ _ => rfl

end Rule

/-- What is said of a counted rule is said of the rule before it was counted. -/
theorem Records.uncounted {metrics : Metrics} {campaignId : String} {now : Timestamp}
    {rule : Rule} {executions : List Execution} {timeAt : Nat → Timestamp} {log : ActionLog}
    (records : Records metrics campaignId now (rule.countedIn executions timeAt) log) :
    Records metrics campaignId now rule log where
  ofRule := by simpa using records.ofRule
  ofCampaign := records.ofCampaign
  sameAction := by simpa using records.sameAction
  defaultValue := by simpa using records.defaultValue
  givenValue := by simpa using records.givenValue
  succeeded := records.succeeded
  sameMetrics := records.sameMetrics
  triggered := records.triggered
  completed := records.completed

/-! ## Stores and their active rules -/

namespace Store

variable {store : Store} {rule : Rule} {log : ActionLog} {timeAt : Nat → Timestamp}
  {metrics : Metrics} {campaignId : String} {active : List Rule}

/-- An appended log is one more success where it is one. -/
theorem succeeded_append (now : Timestamp) (ruleId campaignId : String) (action : Action) :
    (store.append now rule log).succeeded ruleId campaignId action =
      (store.succeeded ruleId campaignId action || log.isSuccessOf ruleId campaignId action) := by
  simp [succeeded]

/-- An executed rule does not make another one due, nor keep it from being due. -/
theorem due_append (others : List Rule) (log : ActionLog) (now : Timestamp)
    (apart : ∀ other ∈ others, log.ruleId ≠ other.id) :
    others.filter ((store.append now rule log).isDue metrics campaignId) =
      others.filter (store.isDue metrics campaignId) := by
  apply List.filter_congr
  intro other member
  have unnamed : (log.ruleId == other.id) = false := by simpa using apart other member
  simp [isDue, succeeded_append, ActionLog.isSuccessOf, unnamed]

/-- Counting one rule and then others is counting them together, since no two have one identifier.
-/
theorem counted_append {use : Nat} (log : ActionLog) (distinct : (store.rules.map (·.id)).Nodup)
    (found : store.rule? rule.id = some rule) (dated : log.triggeredAt = timeAt use)
    (executions : List Execution) (apart : rule.id ∉ executions.map (·.1.id)) :
    (store.append (timeAt (use + 1)) rule log).rules.map (·.countedIn executions timeAt) =
      store.rules.map (·.countedIn ((rule, use) :: executions) timeAt) := by
  simp only [append, putRule, List.map_map]
  apply List.map_congr_left
  intro stored member
  by_cases same : stored.id = rule.id
  · have own : store.rule? stored.id = some stored := rule?_of_mem distinct member
    have equal : stored = rule := by
      rw [same, found] at own
      exact (Option.some.inj own).symm
    subst equal
    have uncounted : executions.find? (·.1.id == stored.id) = none := by
      simp only [List.find?_eq_none, beq_iff_eq]
      intro execution listed named
      exact apart (named ▸ List.mem_map_of_mem listed)
    simp [Rule.triggered, Rule.countedIn, uncounted, dated]
  · have other : (rule.id == stored.id) = false := by simpa using fun equal => same equal.symm
    simp [Rule.countedIn, Rule.triggered, same, other]

/-- The store is such that passes over it go well, as far as it is concerned: the times of its logs
show no offset, so that they can be put in order, whatever is logged next, and no two of its rules
have one identifier. -/
structure Orderly (store : Store) : Prop where
  naive : ∀ log ∈ store.logs, log.triggeredAt.isAware = false
  distinct : (store.rules.map (·.id)).Nodup

/-- The logs of such a store can be put in order. -/
theorem Orderly.uniform (orderly : store.Orderly) :
    Timestamp.uniform (store.logs.map (·.triggeredAt)) = true := by
  apply Timestamp.uniform_of_naive
  simpa using orderly.naive

/-- Recording an execution keeps a store orderly, if the log is dated without an offset. -/
theorem Orderly.append (orderly : store.Orderly) (now : Timestamp) (rule : Rule)
    (naive : log.triggeredAt.isAware = false) : (store.append now rule log).Orderly where
  naive := by
    intro stored member
    rcases List.mem_append.mp member with before | new
    · exact orderly.naive stored before
    · rw [List.mem_singleton.mp new]
      exact naive
  distinct := by simpa [Store.append] using orderly.distinct

/-- Rules of a listing are told apart by their identifiers where the stored ones are. -/
theorem active_distinct (distinct : (store.rules.map (·.id)).Nodup)
    (listed : store.activeRules = .ok active) : (active.map (·.id)).Nodup := by
  rw [((active_perm listed).map (·.id)).nodup_iff]
  exact (List.filter_sublist.map _).nodup distinct

end Store

namespace Memory

variable {metrics : Metrics} {campaignId : String} {rule : Rule}

/-- Where the logs can be put in order, a rule is due exactly if it is triggered and nothing
withholds its execution. -/
theorem due_iff (metrics : Metrics) (campaignId : String) (rule : Rule) {memory : Memory}
    (ordered : Timestamp.uniform (memory.store.logs.map (·.triggeredAt)) = true) :
    memory.store.isDue metrics campaignId rule = true ↔
      rule.triggers metrics = true ∧ ¬ memory.Withholds rule campaignId := by
  simp only [Store.isDue, Withholds, ordered, ← Action.repeatable_iff, Bool.and_eq_true,
    Bool.or_eq_true, Bool.not_eq_true', Bool.true_eq_false, false_or, not_and, Bool.not_eq_true]
  cases rule.action.isRepeatable <;> simp

/-- Whether an execution is withheld depends on the store alone. -/
theorem withholds_congr {memory other : Memory} (same : other.store = memory.store) :
    other.Withholds rule campaignId ↔ memory.Withholds rule campaignId := by
  rw [Withholds, same, Withholds]

/-- The uses of the memory that come before the clock is read for a rule's log, that one included.
-/
def looks (rule : Rule) : Nat := if rule.action.isRepeatable then 1 else 2

/-- The clock is never read at the first use. -/
theorem looks_pos (rule : Rule) : 0 < looks rule := by
  unfold looks
  split <;> decide

/-- Uses that come after a moment come after every earlier one. -/
theorem in_turn_from {elapsed begun : Nat} {uses : List Nat} (earlier : elapsed ≤ begun)
    (inTurn : (begun :: uses).Pairwise (· < ·)) : (elapsed :: uses).Pairwise (· < ·) := by
  rw [List.pairwise_cons] at inTurn ⊢
  exact ⟨fun use member => Nat.lt_of_le_of_lt earlier (inTurn.1 use member), inTurn.2⟩

/-- A use goes before those that come after the next one. -/
theorem in_turn_cons {elapsed use : Nat} {uses : List Nat} (after : elapsed < use)
    (inTurn : ((use + 1) :: uses).Pairwise (· < ·)) :
    (elapsed :: use :: uses).Pairwise (· < ·) := by
  have own : (use :: uses).Pairwise (· < ·) := in_turn_from (Nat.le_succ use) inTurn
  refine List.pairwise_cons.mpr ⟨fun other member => ?_, own⟩
  rcases List.mem_cons.mp member with rfl | behind
  · exact after
  · exact Nat.lt_trans after ((List.pairwise_cons.mp own).1 other behind)

/-- Executions of counted rules are executions of the rules, counted. -/
theorem executions_of_counted {count : Rule → Rule} {executions : List Execution}
    {rules : List Rule} (same : executions.map Prod.fst = rules.map count) :
    ∃ uncounted : List Execution, uncounted.map Prod.fst = rules ∧
      executions = uncounted.map (Prod.map count fun use => use) := by
  induction rules generalizing executions with
  | nil => exact ⟨[], rfl, by simpa using same⟩
  | cons rule rest inductionHypothesis =>
    cases executions with
    | nil => simp at same
    | cons execution others =>
      simp only [List.map_cons, List.cons.injEq] at same
      obtain ⟨uncounted, restRules, rfl⟩ := inductionHypothesis same.2
      refine ⟨(rule, execution.2) :: uncounted, by simp [restRules], ?_⟩
      simp [← same.1]

end Memory

section Supplied

variable [IdSupply]

/-! ## The logs of executions -/

/-- The logs of some executions, under the identifiers issued one after the other. -/
def Executor.entries (metrics : Metrics) (campaignId : String) (timeAt : Nat → Timestamp) :
    Nat → List Execution → List ActionLog
  | _, [] => []
  | issued, (rule, use) :: rest =>
    entry rule metrics campaignId (timeAt use) issued ::
      entries metrics campaignId timeAt (issued + 1) rest

namespace Executor

variable {metrics : Metrics} {campaignId : String} {timeAt : Nat → Timestamp} {store : Store}

/-- The log made for an execution says what has to be said of it, whatever names are shown in it. -/
theorem entry_records (rule : Rule) (now : Timestamp) (issued : Nat) :
    Records metrics campaignId now rule
      (store.decorate (entry rule metrics campaignId now issued)) where
  ofRule := rfl
  ofCampaign := rfl
  sameAction := rfl
  defaultValue := by
    rintro (missing | empty) <;> simp [Store.decorate, entry, defaultActionValue, Option.filter, *]
  givenValue := by
    intro value given filled
    have kept : value.isEmpty = false := by simpa using filled
    simp [Store.decorate, entry, given, Option.filter, kept]
  succeeded := rfl
  sameMetrics := rfl
  triggered := rfl
  completed := rfl

/-- There is one log for each execution, in their order. -/
theorem entries_record (timeAt : Nat → Timestamp) (store : Store) (executions : List Execution)
    (issued : Nat) :
    List.Forall₂
      (fun execution log => Records metrics campaignId (timeAt execution.2) execution.1 log)
      executions ((entries metrics campaignId timeAt issued executions).map store.decorate) := by
  induction executions generalizing issued with
  | nil => exact .nil
  | cons execution rest inductionHypothesis =>
    exact .cons (entry_records execution.1 _ issued) (inductionHypothesis (issued + 1))

/-- The logs of executions are dated by a clock that shows no offset. -/
theorem entries_naive (naive : ∀ use, (timeAt use).isAware = false) (executions : List Execution)
    (issued : Nat) :
    ∀ log ∈ entries metrics campaignId timeAt issued executions,
      log.triggeredAt.isAware = false := by
  induction executions generalizing issued with
  | nil => simp [entries]
  | cons execution rest inductionHypothesis =>
    intro log member
    rcases List.mem_cons.mp member with rfl | later
    · exact naive execution.2
    · exact inductionHypothesis (issued + 1) log later

/-- Each of the executed rules has a success among the logs. -/
theorem entries_success {executions : List Execution} {rule : Rule}
    (executed : rule ∈ executions.map Prod.fst) (issued : Nat) :
    (entries metrics campaignId timeAt issued executions).any
      (·.isSuccessOf rule.id campaignId rule.action) = true := by
  induction executions generalizing issued with
  | nil => simp at executed
  | cons execution rest inductionHypothesis =>
    rcases List.mem_cons.mp executed with rfl | later
    · simp [entries, entry, ActionLog.isSuccessOf]
    · simp [entries, inductionHypothesis later (issued + 1)]

end Executor

/-! ## Stores after executions -/

namespace Store

variable {store : Store} {rule : Rule} {log : ActionLog} {timeAt : Nat → Timestamp}
  {metrics : Metrics} {campaignId : String} {active : List Rule}

/-- The store after some executions, the logs taking identifiers from a count on. -/
def executed (store : Store) (metrics : Metrics) (campaignId : String) (timeAt : Nat → Timestamp)
    (issued : Nat) (executions : List Execution) : Store :=
  ⟨store.campaigns, store.rules.map (·.countedIn executions timeAt),
    store.logs ++ Executor.entries metrics campaignId timeAt issued executions⟩

/-- Without executions the store stays as it is. -/
theorem executed_nothing (issued : Nat) :
    store.executed metrics campaignId timeAt issued [] = store := by
  simp [executed, Rule.countedIn, Executor.entries]

/-- Executing one rule and then others is executing them together. -/
theorem executed_append {use issued : Nat} (orderly : store.Orderly)
    (found : store.rule? rule.id = some rule) {executions : List Execution}
    (apart : rule.id ∉ executions.map (·.1.id)) :
    (store.append (timeAt (use + 1)) rule
        (Executor.entry rule metrics campaignId (timeAt use) issued)).executed metrics campaignId
          timeAt (issued + 1) executions =
      store.executed metrics campaignId timeAt issued ((rule, use) :: executions) := by
  simp only [executed, counted_append (Executor.entry rule metrics campaignId (timeAt use) issued)
    orderly.distinct found rfl executions apart, Executor.entries, append_logs, append_campaigns,
    List.append_assoc, List.singleton_append]

/-- Executions at times without an offset keep a store orderly. -/
theorem Orderly.executed (orderly : store.Orderly) (naive : ∀ use, (timeAt use).isAware = false)
    (issued : Nat) (executions : List Execution) :
    (store.executed metrics campaignId timeAt issued executions).Orderly where
  naive := by
    intro log member
    rcases List.mem_append.mp member with before | new
    · exact orderly.naive log before
    · exact Executor.entries_naive naive executions issued log new
  distinct := by simpa [Store.executed, Function.comp_def] using orderly.distinct

/-- Counting executions does not change which rules are active, nor their order. -/
theorem active_counted (listed : store.activeRules = .ok active) (executions : List Execution)
    (issued : Nat) :
    (store.executed metrics campaignId timeAt issued executions).activeRules =
      .ok (active.map (·.countedIn executions timeAt)) := by
  have kept : (store.rules.map (·.countedIn executions timeAt)).filter (·.isActive) =
      (store.rules.filter (·.isActive)).map (·.countedIn executions timeAt) := by
    simp [List.filter_map, Function.comp_def]
  have dates : ((store.rules.filter (·.isActive)).map
      (·.countedIn executions timeAt)).filterMap (·.createdAt) =
      (store.rules.filter (·.isActive)).filterMap (·.createdAt) := by
    simp [List.filterMap_map]
  unfold activeRules sortedRules at listed ⊢
  split at listed
  · next uniform =>
    simp only [executed, kept, dates, uniform, if_true, ← Except.ok.inj listed]
    rw [List.map_mergeSort]
    intro first _ second _
    rw [Rule.counted_in_creation, Rule.counted_in_creation]
  · cases listed

end Store

/-! ## Turns -/

namespace Memory

variable {metrics : Metrics} {campaignId : String} {rule : Rule} {shared between : Shared}

/-- What a memory shows at its uses is what another one showed at uses that many later, and nobody
else uses it either. -/
structure Shared.Later (shared : Shared) (timeAt : Nat → Timestamp) (elapsed : Nat) : Prop where
  alone : shared.Alone
  times : ∀ use, shared.timeAt use = timeAt (elapsed + use)

/-- After one more use. -/
theorem Shared.Later.next {timeAt : Nat → Timestamp} {elapsed : Nat}
    (later : shared.Later timeAt elapsed) : shared.next.Later timeAt (elapsed + 1) where
  alone := later.alone.waited.alone
  times := by
    intro use
    have same := later.times (use + 1)
    rw [Shared.timeAt] at same
    rw [same, Nat.add_assoc, Nat.add_comm use 1]

/-- What is stored does not change what the clock shows, if it shows the same now. -/
theorem Shared.Later.leave {timeAt : Nat → Timestamp} {elapsed : Nat}
    (later : shared.Later timeAt elapsed) {memory : Memory}
    (now : memory.now = shared.memory.now) : (shared.leave memory).Later timeAt elapsed where
  alone := later.alone.leave memory
  times := fun use => (Shared.time_at_leave now use).trans (later.times use)

/-- A turn in which nothing is recorded leaves the store as it is. -/
structure Rests (timeAt : Nat → Timestamp) (elapsed : Nat) (shared between : Shared) : Prop where
  sameStore : between.memory.store = shared.memory.store
  sameCount : between.memory.issued = shared.memory.issued
  later : ∃ uses, elapsed ≤ uses ∧ between.Later timeAt uses

/-- A turn in which a rule is executed, dated by a use of the clock, appends the log of the
execution at the next use and counts it. -/
structure ExecutesAt (metrics : Metrics) (campaignId : String) (timeAt : Nat → Timestamp)
    (rule : Rule) (use : Nat) (shared between : Shared) : Prop where
  stored : between.memory.store = shared.memory.store.append (timeAt (use + 1)) rule
    (Executor.entry rule metrics campaignId (timeAt use) shared.memory.issued)
  counted : between.memory.issued = shared.memory.issued + 1
  later : between.Later timeAt (use + 1)

/-- When the clock is read for a rule's log, the uses that come before it are over. -/
theorem Shared.Later.dated {timeAt : Nat → Timestamp} {elapsed : Nat}
    (later : shared.Later timeAt elapsed) (rule : Rule) :
    (shared.dated rule).Later timeAt (elapsed + looks rule) := by
  by_cases repeatable : rule.action.isRepeatable = true
  · simp only [Shared.dated, looks, if_pos repeatable]
    exact later.next
  · simp only [Shared.dated, looks, if_neg repeatable]
    exact later.next.next

/-- What becomes of a rule that is stored as it is, when nobody else uses the memory: a rule that is
due is executed, and any other one leaves the store as it is. -/
theorem Turn.alone {timeAt : Nat → Timestamp} {elapsed : Nat} {log : Option ActionLog}
    (turn : Turn metrics campaignId rule shared log between) (later : shared.Later timeAt elapsed)
    (orderly : shared.memory.store.Orderly)
    (found : shared.memory.store.rule? rule.id = some rule) :
    (shared.memory.store.isDue metrics campaignId rule = false ∧ log = none ∧
        Rests timeAt elapsed shared between) ∨
      (shared.memory.store.isDue metrics campaignId rule = true ∧ ∃ use, elapsed < use ∧
        log = some (shared.memory.store.decorate
          (Executor.entry rule metrics campaignId (timeAt use) shared.memory.issued)) ∧
        ExecutesAt metrics campaignId timeAt rule use shared between) := by
  have dueIff := due_iff metrics campaignId rule orderly.uniform
  obtain ⟨nextStore, nextIssued, _⟩ := later.alone.waited
  obtain ⟨sameStore, sameCount, _⟩ := later.alone.ready rule
  cases turn with
  | idle quiet =>
    have notDue : ¬ shared.memory.store.isDue metrics campaignId rule = true := by
      rw [dueIff, quiet]
      simp
    exact .inl ⟨Bool.eq_false_iff.mpr notDue, rfl, rfl, rfl, elapsed, Nat.le_refl _, later⟩
  | withheld due withheld =>
    have notDue : ¬ shared.memory.store.isDue metrics campaignId rule = true := by
      rw [dueIff]
      exact fun allowed => allowed.2 ((withholds_congr nextStore).mp withheld)
    exact .inl ⟨Bool.eq_false_iff.mpr notDue, rfl, nextStore, nextIssued, elapsed + 1,
      Nat.le_succ _, later.next⟩
  | gone due allowed deleted =>
    rw [sameStore, found] at deleted
    cases deleted
  | refused due allowed present late =>
    exact (allowed ((withholds_congr nextStore).mpr ((withholds_congr sameStore).mp late))).elim
  | @recorded entry after due allowed still called made appends =>
    have isDue : shared.memory.store.isDue metrics campaignId rule = true :=
      dueIff.mpr ⟨due, fun withheld => allowed ((withholds_congr nextStore).mpr withheld)⟩
    obtain ⟨current, present, logged, left⟩ := record_called called
    obtain rfl : rule = current := by
      rw [sameStore, found] at present
      exact Option.some.inj present
    have readyLater := (later.dated rule).next
    have dated : (shared.dated rule).memory.now = timeAt (elapsed + looks rule) :=
      (later.dated rule).times 0
    have recordedAt : (shared.ready rule).memory.now = timeAt (elapsed + looks rule + 1) :=
      readyLater.times 0
    have positive : 0 < looks rule := looks_pos rule
    simp only [sameStore, dated, recordedAt, sameCount] at logged left
    refine .inr ⟨isDue, elapsed + looks rule, by omega, ?_, ?_, ?_, ?_⟩
    · rw [logged, Store.decorate_append _ _ found]
    · rw [left]
      rfl
    · rw [left]
      rfl
    · refine readyLater.leave ?_
      rw [left]
      rfl

/-- The turns of some rules execute exactly those that are due when the first one begins, each at
later uses than the one before it. By induction on the rules: where the first is due, its execution
leaves the store such that the same of the others are due, shows the same names, and can be taken
together with theirs. -/
theorem Turns.alone {timeAt : Nat → Timestamp} {rules : List Rule} {logs : List ActionLog}
    {after : Shared} (turns : Turns metrics campaignId rules shared logs after) {elapsed : Nat}
    (naive : ∀ use, (timeAt use).isAware = false) (later : shared.Later timeAt elapsed)
    (orderly : shared.memory.store.Orderly)
    (stored : ∀ rule ∈ rules, shared.memory.store.rule? rule.id = some rule)
    (separate : (rules.map (·.id)).Nodup) :
    ∃ executions : List Execution,
      executions.map Prod.fst = rules.filter (shared.memory.store.isDue metrics campaignId) ∧
      (elapsed :: executions.map Prod.snd).Pairwise (· < ·) ∧
      logs = (Executor.entries metrics campaignId timeAt shared.memory.issued executions).map
        shared.memory.store.decorate ∧
      after.memory.store = shared.memory.store.executed metrics campaignId timeAt
        shared.memory.issued executions ∧
      ∃ uses, after.Later timeAt uses := by
  induction turns generalizing elapsed with
  | done shared =>
    exact ⟨[], rfl, by simp, rfl, (Store.executed_nothing _).symm, elapsed, later⟩
  | @next rule rest shared between after log logs first further inductionHypothesis =>
    have found := stored rule List.mem_cons_self
    have restStored : ∀ other ∈ rest, shared.memory.store.rule? other.id = some other :=
      fun other member => stored other (List.mem_cons_of_mem _ member)
    simp only [List.map_cons, List.nodup_cons] at separate
    obtain ⟨apart, restSeparate⟩ := separate
    rcases first.alone later orderly found with
      ⟨idle, rfl, sameStore, sameCount, uses, more, afterwards⟩ |
        ⟨due, use, more, rfl, appended, counted, afterwards⟩
    · obtain ⟨executions, others, inTurn, shown, left, ended⟩ := inductionHypothesis afterwards
        (sameStore ▸ orderly) (sameStore ▸ restStored) restSeparate
      rw [sameStore] at others shown left
      rw [sameCount] at shown left
      refine ⟨executions, ?_, in_turn_from more inTurn, ?_, left, ended⟩
      · rw [others, List.filter_cons_of_neg (by simp [idle])]
      · rw [shown]
        rfl
    · have others : ∀ other ∈ rest, rule.id ≠ other.id := by
        intro other member same
        exact apart (same ▸ List.mem_map_of_mem member)
      have nextOrderly : between.memory.store.Orderly := by
        rw [appended]
        exact orderly.append _ _ (naive use)
      have nextStored : ∀ other ∈ rest, between.memory.store.rule? other.id = some other := by
        intro other member
        rw [appended]
        simp [Store.rule?_append, others other member, restStored other member]
      obtain ⟨executions, restDue, inTurn, shown, left, ended⟩ :=
        inductionHypothesis afterwards nextOrderly nextStored restSeparate
      have unnamed : rule.id ∉ executions.map (·.1.id) := by
        intro listed
        obtain ⟨execution, member, same⟩ := List.mem_map.mp listed
        have among : execution.1 ∈ executions.map Prod.fst := List.mem_map_of_mem member
        rw [restDue] at among
        exact others execution.1 (List.mem_filter.mp among).1 same.symm
      refine ⟨(rule, use) :: executions, ?_, in_turn_cons more inTurn, ?_, ?_, ended⟩
      · rw [List.map_cons, restDue, List.filter_cons_of_pos due, appended,
          Store.due_append rest _ _ others]
      · rw [shown, counted, appended, Store.decorate_append _ _ found]
        rfl
      · rw [left, appended, counted, Store.executed_append orderly found unnamed]

/-! ## Passes -/

/-- A pass that nobody interrupts executes exactly those of the active rules that are due when it
begins. -/
theorem pass_alone (metrics : Metrics) (campaignId : String) {active : List Rule}
    (alone : shared.Alone) (orderly : shared.memory.store.Orderly)
    (clocked : shared.memory.now.isAware = false)
    (readable : ∀ rule ∈ shared.memory.store.rules, rule.Readable)
    (listed : shared.memory.store.activeRules = .ok active) :
    Shared.repository.activeRules shared = .ok active shared.next ∧
      ∃ (executions : List Execution) (after : Shared),
        executions.map Prod.fst = active.filter (shared.memory.store.isDue metrics campaignId) ∧
        (1 :: executions.map Prod.snd).Pairwise (· < ·) ∧
        Executor.pass Shared.repository Shared.clock metrics (.text campaignId) shared =
          .ok ((Executor.entries metrics campaignId shared.timeAt shared.memory.issued
            executions).map shared.memory.store.decorate) after ∧
        after.memory.store = shared.memory.store.executed metrics campaignId shared.timeAt
          shared.memory.issued executions ∧
        after.memory.now.isAware = false := by
  obtain ⟨sameStore, sameCount, nextAlone⟩ := alone.waited
  have loading : Shared.repository.activeRules shared = .ok active shared.next := by
    simp only [Shared.repository, Shared.interrupted_apply, repository, query, sameStore, listed,
      Shared.leave_same]
  have naive : ∀ use, (shared.timeAt use).isAware = false := Shared.time_at_naive clocked
  have later : shared.next.Later shared.timeAt 1 :=
    ⟨nextAlone, fun use => by rw [Nat.add_comm]; rfl⟩
  have stored : ∀ rule ∈ active, shared.next.memory.store.rule? rule.id = some rule := by
    intro rule member
    rw [sameStore]
    exact Store.rule?_of_mem orderly.distinct ((Store.mem_active listed rule).mp member).1
  obtain ⟨logs, after, taken, turns⟩ := turns_interrupted metrics campaignId active
    (fun rule member => readable rule ((Store.mem_active listed rule).mp member).1) shared.next
  obtain ⟨executions, due, inTurn, shown, left, uses, ended⟩ := turns.alone naive later
    (sameStore ▸ orderly) stored (Store.active_distinct orderly.distinct listed)
  rw [sameStore] at due shown left
  rw [sameCount] at shown left
  refine ⟨loading, executions, after, due, inTurn, ?_, left, ?_⟩
  · simp only [Executor.pass, Act.bind_apply, loading, taken, shown]
  · have now : after.memory.now = shared.timeAt (uses + 0) := ended.times 0
    exact now ▸ naive _

/-- After a pass the rules that are due are those that may be repeated: every other one that is
triggered has succeeded, before the pass or in it. -/
theorem due_again {store : Store} {timeAt : Nat → Timestamp} {issued : Nat} {active : List Rule}
    {executions : List Execution}
    (due : executions.map Prod.fst = active.filter (store.isDue metrics campaignId)) :
    (active.map (·.countedIn executions timeAt)).filter
        ((store.executed metrics campaignId timeAt issued executions).isDue metrics campaignId) =
      (active.filter fun rule => rule.triggers metrics && rule.action == .sendNotification).map
        (·.countedIn executions timeAt) := by
  rw [List.filter_map]
  congr 1
  apply List.filter_congr
  intro rule member
  simp only [Function.comp_apply, Store.isDue, Rule.counted_in_triggers, Rule.counted_in_action,
    Rule.counted_in_id]
  cases triggers : rule.triggers metrics with
  | false => rfl
  | true =>
    by_cases repeatable : (rule.action == Action.sendNotification) = true
    · simp [repeatable]
    · have succeeded : (store.executed metrics campaignId timeAt issued executions).succeeded
          rule.id campaignId rule.action = true := by
        simp only [Store.executed, Store.succeeded, List.any_append, Bool.or_eq_true]
        by_cases before : store.succeeded rule.id campaignId rule.action = true
        · exact .inl before
        · have fires : rule ∈ executions.map Prod.fst := by
            rw [due]
            refine List.mem_filter.mpr ⟨member, ?_⟩
            simp [Store.isDue, triggers, before]
          exact .inr (Executor.entries_success fires issued)
      simp [repeatable, succeeded]

/-- What a pass over the active rules does. It executes the active rules that are triggered, save
those whose action may not be repeated and has succeeded on the campaign before, one after the
other, each at moments of its own; the logs it returns are the ones it appends, with the names
shown; it counts the executed rules and changes nothing else. A pass that follows at any moments
executes the triggered rules that only notify. -/
structure Passes (before : Shared) (metrics : Metrics) (campaignId : String) (active : List Rule)
    (executions : List Execution) (logs added : List ActionLog) (after : Shared) : Prop where
  listed : Shared.repository.activeRules before = .ok active before.next
  members : ∀ rule, rule ∈ active ↔ rule ∈ before.memory.store.rules ∧ rule.isActive = true
  passed : Executor.pass Shared.repository Shared.clock metrics (.text campaignId) before =
    .ok logs after
  due : executions.map Prod.fst =
    active.filter (before.memory.store.isDue metrics campaignId)
  recorded : RecordsEach metrics campaignId before.timeAt executions logs
  shown : logs = added.map before.memory.store.decorate
  appended : after.memory.store.logs = before.memory.store.logs ++ added
  counted : after.memory.store.rules = before.memory.store.rules.map fun rule =>
    match executions.find? (·.1.id == rule.id) with
    | some (_, use) =>
      { rule with
        triggerCount := rule.triggerCount + 1
        lastTriggered := some (before.timeAt use)
        updatedAt := some (before.timeAt (use + 1)) }
    | none => rule
  unread : after.memory.store.campaigns = before.memory.store.campaigns
  again : ∀ moments, ∃ (repetitions : List Execution) (repeated : List ActionLog) (final : Shared),
    Executor.pass Shared.repository Shared.clock metrics (.text campaignId)
      (Shared.alone after.memory moments) = .ok repeated final ∧
    repetitions.map Prod.fst =
      (active.filter fun rule => rule.triggers metrics && rule.action == .sendNotification) ∧
    RecordsEach metrics campaignId (Shared.alone after.memory moments).timeAt repetitions repeated

/-- A pass that follows one executes the triggered rules that only notify: all others that are
triggered have a success by then. -/
theorem pass_again {active : List Rule} {executions : List Execution} {after : Memory}
    {timeAt : Nat → Timestamp}
    (naive : ∀ use, (timeAt use).isAware = false) (orderly : shared.memory.store.Orderly)
    (readable : ∀ rule ∈ shared.memory.store.rules, rule.Readable)
    (listed : shared.memory.store.activeRules = .ok active)
    (due : executions.map Prod.fst =
      active.filter (shared.memory.store.isDue metrics campaignId))
    (left : after.store = shared.memory.store.executed metrics campaignId timeAt
      shared.memory.issued executions)
    (clocked : after.now.isAware = false) (moments : List Int) :
    ∃ (repetitions : List Execution) (repeated : List ActionLog) (final : Shared),
      Executor.pass Shared.repository Shared.clock metrics (.text campaignId)
        (Shared.alone after moments) = .ok repeated final ∧
      repetitions.map Prod.fst =
        (active.filter fun rule => rule.triggers metrics && rule.action == .sendNotification) ∧
      RecordsEach metrics campaignId (Shared.alone after moments).timeAt repetitions repeated := by
  have nextOrderly : after.store.Orderly := by
    rw [left]
    exact orderly.executed naive _ executions
  have nextReadable : ∀ rule ∈ after.store.rules, rule.Readable := by
    intro rule member
    rw [left] at member
    obtain ⟨stored, before, rfl⟩ := List.mem_map.mp member
    intro group inRule
    rw [Rule.counted_in_groups] at inRule
    exact readable stored before group inRule
  have nextListed : after.store.activeRules = .ok (active.map (·.countedIn executions timeAt)) := by
    rw [left]
    exact Store.active_counted listed executions _
  obtain ⟨_, counted, final, countedDue, inTurn, passed, _, _⟩ :=
    pass_alone metrics campaignId (Shared.alone_is_alone after moments) nextOrderly clocked
      nextReadable nextListed
  have sameRules : counted.map Prod.fst =
      (active.filter fun rule => rule.triggers metrics && rule.action == .sendNotification).map
        (·.countedIn executions timeAt) := by
    rw [countedDue]
    have stored : (Shared.alone after moments).memory.store = after.store := rfl
    rw [stored, left]
    exact due_again due
  obtain ⟨repetitions, rules, rfl⟩ := executions_of_counted sameRules
  refine ⟨repetitions, _, final, passed, rules, ?_, ?_⟩
  · simpa [Function.comp_def] using inTurn
  · have each := @Executor.entries_record _ metrics campaignId
      (Shared.alone after moments).timeAt (Shared.alone after moments).memory.store
      (repetitions.map (Prod.map (·.countedIn executions timeAt) fun use => use))
      (Shared.alone after moments).memory.issued
    rw [List.forall₂_map_left_iff] at each
    exact each.imp fun execution log records => records.uncounted

/-- After every history that has left only logs at times without an offset, a pass that nobody
interrupts, over any metrics and for any campaign, does exactly what is said of it. Each use of the
memory in it may take place at another moment, earlier or later than the one before; where the
moments run out the clock stands still. -/
theorem pass_executes_due (history : List Event) (moments : List Int) (metrics : Metrics)
    (campaignId : String)
    (naive : ∀ log ∈ (run history).store.logs, log.triggeredAt.isAware = false) :
    ∃ active executions logs added after,
      Passes (Shared.alone (run history) moments) metrics campaignId active executions logs added
        after := by
  have orderly : (run history).store.Orderly := ⟨naive, (run_numbered history).distinct⟩
  obtain ⟨active, listed⟩ := (run_numbered history).listed
  have clocked : (run history).now.isAware = false := run_naive history
  have alone := Shared.alone_is_alone (run history) moments
  obtain ⟨loading, executions, after, due, inTurn, passed, left, nowNaive⟩ :=
    pass_alone metrics campaignId alone orderly clocked (run_readable history) listed
  have times : ∀ use, ((Shared.alone (run history) moments).timeAt use).isAware = false :=
    Shared.time_at_naive clocked
  refine ⟨active, executions, _, _, after,
    { listed := loading
      members := Store.mem_active listed
      passed := passed
      due := due
      recorded := ⟨inTurn, Executor.entries_record _ _ _ _⟩
      shown := rfl
      appended := by rw [left]; rfl
      counted := by
        rw [left]
        refine List.map_congr_left fun rule _ => ?_
        unfold Rule.countedIn
        cases executions.find? (·.1.id == rule.id) <;> rfl
      unread := by rw [left]; rfl
      again := pass_again times orderly (run_readable history) listed due left nowNaive }⟩

end Memory

end Supplied

namespace Memory

/-- After the sample, a pass over its two rules on the campaign that the first one has paused, with
a clock that goes on and back. -/
theorem sample_pass :
    (∀ log ∈ (run sample).store.logs, log.triggeredAt.isAware = false) ∧
      ∃ active executions logs added after,
        Passes (Shared.alone (run sample) [5, 7, 6]) unspent "summer" active executions logs added
          after :=
  ⟨by decide +kernel, pass_executes_due sample [5, 7, 6] unspent "summer" (by decide +kernel)⟩

end Memory

end AdRules
