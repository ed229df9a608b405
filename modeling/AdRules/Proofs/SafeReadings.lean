import AdRules.Proofs.Applications
import AdRules.Proofs.Readings

/-!
# Readings that never fail

Several readings put everything that is stored in the order of time, and some check once more what
they show. A single stored time with an offset, or a record that does not pass the check again,
would make all of them fail from then on. Applications store neither, so in every state that a run
reaches every reading has an answer, and what is checked again is shown as it is stored.
-/

namespace AdRules

namespace Memory

/-- No stored time that readings are ordered by has an offset. So all of them can be put in order,
and no listing fails. -/
structure Naive (memory : Memory) : Prop where
  synced : ∀ snapshot ∈ memory.store.campaigns, snapshot.syncedAt.isAware = false
  begun : ∀ snapshot ∈ memory.store.campaigns, ∀ time ∈ snapshot.createdAt, time.isAware = false
  created : ∀ rule ∈ memory.store.rules, ∀ time ∈ rule.createdAt, time.isAware = false
  triggered : ∀ log ∈ memory.store.logs, log.triggeredAt.isAware = false

/-- Every reading has an answer, and rules and snapshots that are shown with logs are the stored
ones. -/
structure Readable [IdSupply] (memory : Memory) : Prop where
  latest : ∃ found, repository.latestCampaign.result memory = .ok found
  latestWithLogs : ∀ limit, (limit? limit).isSome = true → ∃ latest logs,
    repository.latestCampaign.result memory = .ok latest ∧
      (repository.latestCampaignWithLogs limit).result memory =
        .ok (latest.map fun snapshot => ⟨snapshot, logs⟩)
  rule : ∀ id limit, (limit? limit).isSome = true → ∃ recent,
    (repository.rule (.text id) limit).result memory =
      .ok ((memory.store.rule? id).map fun rule => ⟨memory.store.withCount rule, recent⟩)
  rules : ∃ listed, repository.rules.result memory = .ok listed
  active : ∃ listed, repository.activeRules.result memory = .ok listed
  find : ∀ ruleId campaignId action status, ∃ found,
    (repository.findLog ruleId campaignId action status).result memory = .ok found
  logs : ∀ ruleId limit, (limit? limit).isSome = true → ∃ listed,
    (repository.logs ruleId limit).result memory = .ok listed

/-! ## Reading what applications store -/

section Vetted

variable [IdSupply] {fine : Metrics → Prop} {memory : Memory} (vetted : memory.Vetted fine)

include vetted

/-- The stored times have no offset. -/
theorem Vetted.times : memory.Naive where
  synced := fun snapshot stored => (vetted.readings snapshot stored).naive
  begun := vetted.created
  created := by
    intro rule stored time created
    obtain ⟨dated, given, naive⟩ := vetted.numbered.dated rule stored
    have same : dated = time := Option.some.inj (given.symm.trans created)
    exact same ▸ naive
  triggered := vetted.logged

/-- In a vetted store the logs can be put in order, as no time in it has an offset. -/
theorem Vetted.newest_logs : ∃ logs, memory.store.newestLogs = .ok logs := by
  have ordered : Timestamp.uniform (memory.store.logs.map (·.triggeredAt)) = true := by
    apply Timestamp.uniform_of_naive
    intro time listed
    obtain ⟨log, stored, rfl⟩ := List.mem_map.mp listed
    exact vetted.logged log stored
  exact ⟨_, if_pos ordered⟩

/-- So the logs of any kind can be listed, within any limit. -/
theorem Vetted.logs_where (keep : ActionLog → Bool) (bound : Limit) :
    ∃ logs, memory.store.logsWhere keep bound = .ok logs := by
  obtain ⟨logs, newest⟩ := vetted.newest_logs
  exact ⟨_, by rw [Store.logsWhere, newest]; rfl⟩

/-- The latest reading can be found for the same reason. -/
theorem Vetted.latest_campaign : ∃ latest, memory.store.latestCampaign = .ok latest :=
  Store.latest_exists fun snapshot stored => (vetted.readings snapshot stored).naive

/-- A sound snapshot is shown with its logs as it is stored. -/
theorem Vetted.latest_with_logs {limit : Value} (bounded : (limit? limit).isSome = true) :
    ∃ latest logs, repository.latestCampaign.result memory = .ok latest ∧
      (repository.latestCampaignWithLogs limit).result memory =
        .ok (latest.map fun snapshot => ⟨snapshot, logs⟩) := by
  obtain ⟨bound, isBound⟩ := Option.isSome_iff_exists.mp bounded
  obtain ⟨latest, isLatest⟩ := vetted.latest_campaign
  have unchecked : (limited limit Option.isSome fun bound store =>
      store.latestCampaignWithLogs bound).result memory =
        memory.store.latestCampaignWithLogs bound := by
    simp only [limited, isBound, query_result]
  cases latest with
  | none =>
    have nothing : memory.store.latestCampaignWithLogs bound = .ok none := by
      simp [Store.latestCampaignWithLogs, isLatest, bind, Except.bind, pure, Except.pure]
    rw [nothing] at unchecked
    refine ⟨none, [], isLatest ▸ query_result _, ?_⟩
    refine (rechecked_result ?_).trans unchecked
    intro shown given
    rw [unchecked] at given
    cases given
  | some snapshot =>
    obtain ⟨logs, listed⟩ := vetted.logs_where (·.campaignId == snapshot.campaignId) bound
    have found : memory.store.latestCampaignWithLogs bound = .ok (some ⟨snapshot, logs⟩) := by
      simp [Store.latestCampaignWithLogs, isLatest, listed, bind, Except.bind, pure, Except.pure]
    rw [found] at unchecked
    refine ⟨some snapshot, logs, isLatest ▸ query_result _, ?_⟩
    refine (rechecked_result ?_).trans unchecked
    intro shown given
    rw [unchecked] at given
    cases given
    exact SnapshotWithLogs.recheck_sound
      (vetted.readings snapshot (Store.latest_mem isLatest)).sound

/-- A rule with a sound name is shown with its logs as it is stored. -/
theorem Vetted.rule_with_logs (id : String) {limit : Value}
    (bounded : (limit? limit).isSome = true) :
    ∃ recent, (repository.rule (.text id) limit).result memory =
      .ok ((memory.store.rule? id).map fun rule => ⟨memory.store.withCount rule, recent⟩) := by
  obtain ⟨bound, isBound⟩ := Option.isSome_iff_exists.mp bounded
  obtain ⟨recent, listed⟩ := vetted.logs_where (·.ruleId == id) bound
  refine ⟨recent, ?_⟩
  rw [rule_result fun rule stored => (vetted.sound.rules rule stored).name]
  simp only [limited, isBound, query_result, withId, id?, bind, Except.bind, Store.ruleWithLogs]
  cases memory.store.rule? id with
  | none => rfl
  | some rule => simp [listed, Except.map]

/-- Every reading of what applications store has an answer. What could fail is putting times in
order and checking an answer once more, and the invariant rules out both. -/
theorem Vetted.readable : memory.Readable where
  latest := by
    obtain ⟨latest, found⟩ := vetted.latest_campaign
    exact ⟨latest, found ▸ query_result _⟩
  latestWithLogs := fun _ bounded => vetted.latest_with_logs bounded
  rule := fun id _ bounded => vetted.rule_with_logs id bounded
  rules := by
    obtain ⟨rules, listed⟩ := vetted.numbered.newest
    exact ⟨rules, listed ▸ query_result _⟩
  active := by
    obtain ⟨active, listed⟩ := vetted.numbered.listed
    exact ⟨active, listed ▸ query_result _⟩
  find := by
    intro ruleId campaignId action status
    obtain ⟨logs, newest⟩ := vetted.newest_logs
    have found : ∃ log, findLog ruleId campaignId action status memory.store = .ok log :=
      ⟨_, by rw [findLog, newest]; rfl⟩
    obtain ⟨log, found⟩ := found
    exact ⟨log, found ▸ query_result _⟩
  logs := by
    intro ruleId limit bounded
    obtain ⟨bound, isBound⟩ := Option.isSome_iff_exists.mp bounded
    obtain ⟨logs, listed⟩ := vetted.logs_where (ofRule ruleId) bound
    exact ⟨logs, by simp only [repository, limited, isBound, query_result, listed]⟩

end Vetted

end Memory

namespace Application

/-- Whatever is asked of an application, whatever its clock shows and whatever the metrics source
answers: no stored time has an offset, and no reading fails. -/
theorem readings_never_fail [IdSupply] (application : Application) (operations : List Operation) :
    (application.run operations).Naive ∧ (application.run operations).Readable := by
  have vetted : (application.run operations).Vetted fun _ => True :=
    application.run_vetted operations (fun _ _ => trivial) fun _ _ _ _ => trivial
  exact ⟨vetted.times, vetted.readable⟩

end Application

end AdRules
