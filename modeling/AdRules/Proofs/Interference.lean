import AdRules.Proofs.RulePass

/-!
# A pass among other callers

A pass that is interrupted before each of its calls still comes to an end: every rule of the list it
started with has its turn, and a turn either leaves the store to the others or appends one log and
counts it in the same call. The rules are those of the start, so the check for an earlier success
and the recording may each meet a store in which the rule was changed, executed or deleted since.
-/

namespace AdRules.Memory

variable [IdSupply] {campaignId : String} {rule : Rule} {shared : Shared}

/-- A rule that is not stored when its log would be recorded records none. -/
theorem Turn.of_deleted {metrics : Metrics} {log : Option ActionLog} {between : Shared}
    (turn : Turn metrics campaignId rule shared log between)
    (deleted : (shared.ready rule).memory.store.rule? rule.id = none) : log = none := by
  cases turn with
  | idle _ | withheld _ _ | gone _ _ _ | refused _ _ _ _ => rfl
  | recorded due allowed still called made appends =>
    obtain ⟨current, present, _⟩ := appends.counted
    have named := (Turn.recorded due allowed still called made appends).ruleId_eq
    rw [named, deleted] at present
    cases present

/-- Every rule has at most one log, and the logs come in the order of the rules. -/
theorem Turns.ids_sublist {metrics : Metrics} {rules : List Rule} {logs : List ActionLog}
    {after : Shared} (turns : Turns metrics campaignId rules shared logs after) :
    (logs.map (·.ruleId)).Sublist (rules.map (·.id)) := by
  induction turns with
  | done shared => exact .slnil
  | @next rule rest shared between after log logs first later inductionHypothesis =>
    cases log with
    | none => exact inductionHypothesis.cons rule.id
    | some log =>
      simp only [Option.toList_some, List.singleton_append, List.map_cons, first.ruleId_eq]
      exact inductionHypothesis.cons_cons rule.id

/-- Every log was recorded in the turn of one of the rules. -/
theorem Turns.log_recorded {metrics : Metrics} {rules : List Rule} {logs : List ActionLog}
    {after : Shared} (turns : Turns metrics campaignId rules shared logs after) :
    ∀ log ∈ logs, ∃ rule ∈ rules, ∃ before between,
      Turn metrics campaignId rule before (some log) between := by
  induction turns with
  | done shared => simp
  | @next rule rest shared between after log logs first later inductionHypothesis =>
    intro other member
    rcases List.mem_append.mp member with own | further
    · obtain rfl : log = some other := Option.mem_toList.mp own
      exact ⟨rule, List.mem_cons_self, shared, between, first⟩
    · obtain ⟨owner, listed, recorded⟩ := inductionHypothesis other further
      exact ⟨owner, List.mem_cons_of_mem rule listed, recorded⟩

/-- A turn that records a log does so by one call, which appends and counts it. -/
theorem Turn.appends {metrics : Metrics} {log : ActionLog} {between : Shared}
    (turn : Turn metrics campaignId rule shared (some log) between) :
    ∃ given after, repository.record given (shared.ready rule).memory = .ok (some log) after ∧
      (shared.ready rule).memory.Appends log after ∧ between = (shared.ready rule).leave after := by
  cases turn with
  | recorded due allowed still called made appends => exact ⟨_, _, called, appends, rfl⟩

/-- The turns of some rules are those of the first ones, of one rule and of those after it. -/
theorem Turns.split {metrics : Metrics} {earlier later : List Rule} {logs : List ActionLog}
    {after : Shared}
    (turns : Turns metrics campaignId (earlier ++ rule :: later) shared logs after) :
    ∃ before between earlierLogs log laterLogs, logs = earlierLogs ++ log.toList ++ laterLogs ∧
      Turns metrics campaignId earlier shared earlierLogs before ∧
      Turn metrics campaignId rule before log between ∧
      Turns metrics campaignId later between laterLogs after := by
  induction earlier generalizing shared logs with
  | nil =>
    cases turns with
    | @next _ _ _ between _ log laterLogs turn further =>
      exact ⟨shared, between, [], log, laterLogs, rfl, .done shared, turn, further⟩
  | cons first rest inductionHypothesis =>
    cases turns with
    | next turn further =>
      obtain ⟨before, between, earlierLogs, log, laterLogs, rfl, ahead, own, behind⟩ :=
        inductionHypothesis further
      exact ⟨before, between, _, log, laterLogs, by simp only [List.append_assoc],
        .next turn ahead, own, behind⟩

/-- A pass that others interrupt before any of its calls ends without failing. It takes the active
rules as they are when it loads them, and each has its turn: at most one log is returned for each,
and none for one that is deleted before its log would be recorded, after which the others still have
their turns. Every log that is returned was appended and counted for its rule by one call. -/
theorem interrupted_pass_ends (history : List Event) (upcoming : List Interlude)
    (metrics : Metrics) (campaignId : String) :
    let loaded := Shared.next ⟨run history, upcoming⟩
    ∃ active logs after,
      loaded.memory.store.activeRules = .ok active ∧
      Executor.pass Shared.repository Shared.clock metrics (.text campaignId)
        ⟨run history, upcoming⟩ = .ok logs after ∧
      Turns metrics campaignId active loaded logs after ∧
      (active.map (·.id)).Nodup ∧ (logs.map (·.ruleId)).Sublist (active.map (·.id)) ∧
      (∀ earlier rule later, active = earlier ++ rule :: later →
        ∃ before between earlierLogs log laterLogs, logs = earlierLogs ++ log.toList ++ laterLogs ∧
          Turns metrics campaignId earlier loaded earlierLogs before ∧
          Turn metrics campaignId rule before log between ∧
          Turns metrics campaignId later between laterLogs after ∧
          ((before.ready rule).memory.store.rule? rule.id = none → log = none)) ∧
      ∀ log ∈ logs, ∃ rule ∈ active, ∃ before between given recorded,
        Turn metrics campaignId rule before (some log) between ∧
        repository.record given (before.ready rule).memory = .ok (some log) recorded ∧
        (before.ready rule).memory.Appends log recorded ∧
        between = (before.ready rule).leave recorded := by
  intro loaded
  obtain ⟨longer, sameStore⟩ := next_store history upcoming
  have numbered : loaded.memory.store.Numbered (run longer).issued :=
    sameStore ▸ run_numbered longer
  obtain ⟨active, listed⟩ := numbered.listed
  have readable : ∀ rule ∈ active, rule.Readable := by
    intro rule member
    have stored := ((Store.mem_active listed rule).mp member).1
    rw [sameStore] at stored
    exact run_readable longer rule stored
  obtain ⟨logs, after, ended, turns⟩ :=
    turns_interrupted metrics campaignId active readable loaded
  have loading : Shared.repository.activeRules ⟨run history, upcoming⟩ = .ok active loaded := by
    simp only [Shared.repository, Shared.interrupted_apply, repository, query]
    have found : (Shared.next ⟨run history, upcoming⟩).memory.store.activeRules = .ok active :=
      listed
    rw [found]
    rfl
  refine ⟨active, logs, after, listed, ?_, turns,
    Store.active_distinct numbered.distinct listed, turns.ids_sublist, ?_, ?_⟩
  · simp only [Executor.pass, Act.bind_apply, loading, ended]
  · rintro earlier rule later rfl
    obtain ⟨before, between, earlierLogs, log, laterLogs, joined, ahead, own, behind⟩ := turns.split
    exact ⟨before, between, earlierLogs, log, laterLogs, joined, ahead, own, behind,
      own.of_deleted⟩
  · intro log member
    obtain ⟨rule, inActive, before, between, turn⟩ := turns.log_recorded log member
    obtain ⟨given, recorded, called, appends, left⟩ := turn.appends
    exact ⟨rule, inActive, before, between, given, recorded, turn, called, appends, left⟩

end AdRules.Memory
