import AdRules.Proofs.AppendOnly
import AdRules.Proofs.CampaignRows
import AdRules.Proofs.LogConstraints
import AdRules.Proofs.RuleTurn
import Mathlib.Data.List.DropRight

/-!
# The order of the logs

There is one order of the stored logs: the newest first, of one time the one that was recorded last.
Every query of logs gives a part of the one list in this order, with the names that rules and
campaigns have when it is asked. Where the times are mixed there is no order, and the queries fail.
-/

namespace AdRules

/-! ## The one order -/

/-- Of two logs with their places in the store, the first one was triggered later, or at the same
time and was recorded later. -/
def Newer (first second : ActionLog × Nat) : Prop :=
  second.1.triggeredAt.instant < first.1.triggeredAt.instant ∨
    second.1.triggeredAt.instant = first.1.triggeredAt.instant ∧ second.2 < first.2

/-- The entries are the logs of a store, each with its place there, the newest first. -/
structure NewestFirst (store : Store) (entries : List (ActionLog × Nat)) : Prop where
  stored : entries.Perm store.logs.zipIdx
  ordered : entries.Pairwise Newer

/-- The first log was not triggered before the second one. -/
def notOlder (first second : ActionLog) : Bool :=
  decide (second.triggeredAt.instant ≤ first.triggeredAt.instant)

namespace Store

/-- Sorting by time only puts the logs in the one order. Where they stand in the store is not looked
at: their places go down before they are sorted, and sorting keeps that between logs of one time. -/
theorem sorted_newest_first (store : Store) :
    ∃ entries, NewestFirst store entries ∧
      entries.map Prod.fst = store.logs.reverse.mergeSort notOlder := by
  let before (first second : ActionLog × Nat) : Bool := notOlder first.1 second.1
  have places : store.logs.zipIdx.reverse.Pairwise fun first second => second.2 < first.2 := by
    rw [List.pairwise_reverse]
    apply List.Pairwise.of_map Prod.snd fun _ _ less => less
    rw [List.zipIdx_map_snd]
    exact List.pairwise_lt_range' 1
  have sorted : (store.logs.zipIdx.reverse.mergeSort before).Pairwise fun first second =>
      before first second = true ∧ (before second first = true → second.2 < first.2) := by
    apply sorted_stably _ _ places <;> simp only [before, notOlder, Bool.or_eq_true,
      decide_eq_true_eq] <;> omega
  refine ⟨store.logs.zipIdx.reverse.mergeSort before, ⟨?_, ?_⟩, ?_⟩
  · exact (List.mergeSort_perm _ _).trans (List.reverse_perm _)
  · refine sorted.imp ?_
    rintro first second ⟨notLater, ofOneTime⟩
    simp only [before, notOlder, decide_eq_true_eq] at notLater ofOneTime
    rcases Int.lt_or_eq_of_le notLater with later | same
    · exact .inl later
    · exact .inr ⟨same, ofOneTime (Int.le_of_eq same.symm)⟩
  · rw [List.map_mergeSort (s := notOlder) fun _ _ _ _ => rfl, List.map_reverse,
      List.zipIdx_map_fst]

/-- The logs of a store with the names that they are shown with. -/
def shown (store : Store) (entries : List (ActionLog × Nat)) : List ActionLog :=
  entries.map fun entry => store.decorate entry.1

/-- The newest logs come in the one order, unless their times are mixed. -/
theorem newest_course (store : Store) :
    (Timestamp.Mixed (store.logs.map (·.triggeredAt)) ∧ store.newestLogs = .error .mixedTimes) ∨
      (¬ Timestamp.Mixed (store.logs.map (·.triggeredAt)) ∧
        ∃ entries, NewestFirst store entries ∧ store.newestLogs = .ok (store.shown entries)) := by
  by_cases uniform : Timestamp.uniform (store.logs.map (·.triggeredAt)) = true
  · right
    obtain ⟨entries, inOrder, sorted⟩ := store.sorted_newest_first
    refine ⟨Timestamp.uniform_iff.mp uniform, entries, inOrder, ?_⟩
    have shown : store.shown entries =
        (store.logs.reverse.mergeSort notOlder).map store.decorate := by
      rw [← sorted, List.map_map]
      rfl
    rw [shown, newestLogs, if_pos uniform]
    rfl
  · left
    exact ⟨Timestamp.uniform_eq_false_iff.mp (Bool.eq_false_iff.mpr uniform), if_neg uniform⟩

end Store

namespace Memory

/-! ## Failing readers -/

section Failing

variable {memory : Memory} {α : Type} {failure : Failure}

/-- Where a query fails within every limit, it fails within what a caller gives as one. -/
theorem limited_fails {limit : Value} {applies : α → Bool} {ask : Limit → Store → Except Failure α}
    (fails : ∀ bound, ask bound memory.store = .error failure) :
    (limited limit applies ask).result memory = .error failure := by
  unfold limited
  cases limit? limit with
  | some bound => rw [query_result, fails]
  | none =>
    simp only [query_result, fails]
    rfl

/-- An answer that is not there is not checked again, and its failure stays the same. -/
theorem rechecked_fails {model : String} {recheck : α → Checked α}
    {asked : Act Memory (Option α)} (fails : asked.result memory = .error failure) :
    (rechecked model recheck asked).result memory = .error failure := by
  cases ran : asked memory with
  | error other after =>
    simp only [Act.result, ran] at fails
    simp only [Act.result, rechecked, Act.bind_apply, ran, fails]
  | ok found after => simp [Act.result, ran] at fails

variable [IdSupply]

/-- The times of the logs are found to be mixed, whatever is asked of the logs. -/
structure Disordered (memory : Memory) : Prop where
  logs : ∀ ruleId limit, (repository.logs ruleId limit).result memory = .error .mixedTimes
  found : ∀ ruleId campaignId action status,
    (repository.findLog ruleId campaignId action status).result memory = .error .mixedTimes
  ofRule : ∀ rule ∈ memory.store.rules, ∀ limit,
    (repository.rule (.text rule.id) limit).result memory = .error .mixedTimes

/-- Where the times of the logs are mixed, every operation that lists logs fails for that reason. A
rule is shown with its logs, so showing one fails as well. -/
theorem disordered (numbered : memory.store.Numbered memory.issued)
    (fails : memory.store.newestLogs = .error .mixedTimes) : Disordered memory where
  logs := by
    intro ruleId limit
    apply limited_fails
    intro bound
    rw [Store.logsWhere, fails]
    rfl
  found := by
    intro ruleId campaignId action status
    simp only [repository, query_result, findLog, fails]
    rfl
  ofRule := by
    intro rule stored limit
    apply rechecked_fails
    apply limited_fails
    intro bound
    simp only [withId, id?, bind, Except.bind, Store.ruleWithLogs,
      Store.rule?_of_mem numbered.distinct stored, Store.logsWhere, fails, Except.map]

end Failing

/-! ## Agreeing readers -/

section Agreeing

variable {memory : Memory} {logs : List ActionLog}

/-- A number that is not negative is a limit to as many entries. -/
theorem limited_first {α : Type} (count : Nat) (applies : α → Bool)
    (ask : Limit → Store → Except Failure α) :
    (limited (.int count) applies ask).result memory = ask (.before count) memory.store :=
  query_result (ask (.before count))

/-- A limit that is not negative takes so many of the first entries. -/
theorem take_before {α : Type} (count : Nat) (entries : List α) :
    (Limit.before count).take entries = entries.take count := by
  rw [Limit.take, if_neg (Int.not_lt.mpr (Int.natCast_nonneg count)), Int.toNat_natCast]

/-- A negative limit leaves so many of the last entries out. -/
theorem take_before_neg {α : Type} {count : Nat} (positive : 0 < count) (entries : List α) :
    (Limit.before (-count)).take entries = entries.rdrop count := by
  rw [Limit.take, if_pos (by omega), Int.natAbs_neg, Int.natAbs_natCast, List.rdrop]

/-- The logs of some kind are those of the one order that are of the kind, up to the limit. The
limit counts after the choice. -/
theorem logs_where_eq (newest : memory.store.newestLogs = .ok logs) (keep : ActionLog → Bool)
    (bound : Limit) : memory.store.logsWhere keep bound = .ok (bound.take (logs.filter keep)) := by
  rw [Store.logsWhere, newest]
  rfl

variable [IdSupply]

/-- Every query of logs gives a part of one list: all of it, or the logs of one rule; of these the
first ones, or all but the last ones; the first logs of a rule with the rule, and of the latest
campaign with its snapshot; or the first log of a rule, campaign, action and status. All logs have
the names of their rules and campaigns. -/
structure Agreeing (logs : List ActionLog) (memory : Memory) : Prop where
  all : (repository.logs .null .null).result memory = .ok logs
  ofRule : ∀ ruleId, ruleId ≠ "" → (repository.logs (.text ruleId) .null).result memory =
    .ok (logs.filter (·.ruleId == ruleId))
  first : ∀ ruleId (count : Nat), (repository.logs ruleId (.int count)).result memory =
    ((repository.logs ruleId .null).result memory).map (·.take count)
  butLast : ∀ ruleId (count : Nat), 0 < count →
    (repository.logs ruleId (.int (-count))).result memory =
      ((repository.logs ruleId .null).result memory).map (·.rdrop count)
  withRule : ∀ rule ∈ memory.store.rules, ∀ count : Nat,
    (repository.rule (.text rule.id) (.int count)).result memory =
      .ok (some ⟨memory.store.withCount rule, (logs.filter (·.ruleId == rule.id)).take count⟩)
  withCampaign : ∀ count : Nat,
    (repository.latestCampaignWithLogs (.int count)).result memory =
      (repository.latestCampaign.result memory).map (Option.map fun snapshot =>
        ⟨snapshot, (logs.filter (·.campaignId == snapshot.campaignId)).take count⟩)
  found : ∀ ruleId campaignId action status,
    (repository.findLog (.text ruleId) (.text campaignId) (Vocabulary.toValue action)
        (Vocabulary.toValue status)).result memory =
      .ok (logs.find? fun log => log.ruleId == ruleId && log.campaignId == campaignId &&
        log.action == action && log.status == status)
  named : ∀ log ∈ logs,
    (∃ rule ∈ memory.store.rules, rule.id = log.ruleId ∧ log.ruleName = some rule.name) ∧
      log.campaignName = (memory.store.campaign? log.campaignId).map (·.name)

/-- The logs within a limit are those without one that it leaves. -/
theorem logs_result (newest : memory.store.newestLogs = .ok logs) (ruleId : Value)
    {limit : Value} {bound : Limit} (bounded : limit? limit = some bound) :
    (repository.logs ruleId limit).result memory =
      .ok (bound.take (logs.filter (ofRule ruleId))) := by
  simp only [repository, limited, bounded, query_result, logs_where_eq newest]

/-- The latest snapshot comes with the logs of its campaign. It is checked once more, which it
passes as it is stored. -/
theorem latest_with_logs (newest : memory.store.newestLogs = .ok logs)
    (snapshots : ∀ snapshot ∈ memory.store.campaigns, snapshot.Sound) (count : Nat) :
    (repository.latestCampaignWithLogs (.int count)).result memory =
      (repository.latestCampaign.result memory).map (Option.map fun snapshot =>
        ⟨snapshot, (logs.filter (·.campaignId == snapshot.campaignId)).take count⟩) := by
  have asked : (limited (.int count) Option.isSome
      (fun bound store => store.latestCampaignWithLogs bound)).result memory =
        memory.store.latestCampaign.map (Option.map fun snapshot =>
          ⟨snapshot, (logs.filter (·.campaignId == snapshot.campaignId)).take count⟩) := by
    rw [limited_first, Store.latestCampaignWithLogs]
    cases memory.store.latestCampaign with
    | error failure => rfl
    | ok latest =>
      cases latest with
      | none => rfl
      | some snapshot =>
        simp only [bind, Except.bind, logs_where_eq newest, take_before]
        rfl
  simp only [repository, query_result]
  rw [rechecked_result, asked]
  intro shown given
  rw [asked] at given
  cases latest : memory.store.latestCampaign with
  | error failure => simp [latest, Except.map] at given
  | ok found =>
    cases found with
    | none => simp [latest, Except.map] at given
    | some snapshot =>
      simp only [latest, Except.map, Option.map_some, Except.ok.injEq, Option.some.injEq] at given
      rw [← given]
      exact SnapshotWithLogs.recheck_sound (snapshots snapshot (Store.latest_mem latest))

/-- Where the logs are in order, every reader reads them in this order. The readers that check an
answer once more need sound names for that, and the invariant gives them. -/
theorem agreeing (numbered : memory.store.Numbered memory.issued) (owned : Owned memory.store)
    (names : ∀ rule ∈ memory.store.rules, SoundName rule.name)
    (snapshots : ∀ snapshot ∈ memory.store.campaigns, snapshot.Sound)
    {entries : List (ActionLog × Nat)} (stored : entries.Perm memory.store.logs.zipIdx)
    (newest : memory.store.newestLogs = .ok (memory.store.shown entries)) :
    Agreeing (memory.store.shown entries) memory where
  all := by
    have everything : ofRule .null = fun _ => true := rfl
    rw [logs_result newest .null rfl, everything, List.filter_true]
    rfl
  ofRule := by
    intro ruleId named
    have own : ofRule (.text ruleId) = fun log => log.ruleId == ruleId := by
      funext log
      have filled : (Value.text ruleId).isEmpty = false := by simpa [Value.isEmpty] using named
      rw [ofRule, filled, same_text, Bool.false_or]
    rw [logs_result newest (.text ruleId) rfl, own]
    rfl
  first := by
    intro ruleId count
    rw [logs_result newest ruleId rfl,
      logs_result newest ruleId rfl, take_before]
    rfl
  butLast := by
    intro ruleId count positive
    rw [logs_result newest ruleId rfl,
      logs_result newest ruleId rfl, take_before_neg positive]
    rfl
  withRule := by
    intro rule inStore count
    have found : memory.store.rule? rule.id = some rule :=
      Store.rule?_of_mem numbered.distinct inStore
    rw [rule_result names, limited_first]
    simp only [withId, id?, bind, Except.bind, Store.ruleWithLogs, found, logs_where_eq newest,
      take_before, Except.map]
  withCampaign := latest_with_logs newest snapshots
  found := by
    intro ruleId campaignId action status
    simp only [repository, query_result, findLog, newest, same_text, same_action, same_status,
      Except.map]
  named := by
    intro log listed
    obtain ⟨⟨original, place⟩, inOrder, rfl⟩ := List.mem_map.mp listed
    have kept : original ∈ memory.store.logs :=
      List.fst_mem_of_mem_zipIdx (stored.mem_iff.mp inOrder)
    refine ⟨?_, rfl⟩
    have known : (memory.store.rule? original.ruleId).isSome = true :=
      Store.rule?_isSome.mpr (owned original kept)
    obtain ⟨rule, found⟩ := Option.isSome_iff_exists.mp known
    refine ⟨rule, Store.mem_of_rule? found, Store.id_of_rule? found, ?_⟩
    simp [Store.decorate, found]

end Agreeing

/-! ## Every history -/

/-- What a caller hands over to be stored has been checked, readings too. -/
def Call.Validated : Call → Prop
  | .upsertCampaign snapshot => ∃ setting input, Snapshot.check setting input = .valid snapshot
  | call => call.Checked

/-- What was validated was checked, so what holds after checked calls holds here. -/
theorem Call.Validated.checked {call : Call} (validated : call.Validated) : call.Checked := by
  cases call with
  | createRule draft owner => exact validated
  | updateRule id change => exact validated
  | upsertCampaign _ | latestCampaign | latestCampaignWithLogs _ | rule _ _ | rules | setActive _ _
  | deleteRule _ | activeRules | findLog _ _ _ _ | logs _ _ | record _ | prepare => trivial

section Runs

variable [IdSupply]

/-- A reading is stored with an identifier and its times, and is sound if it was before. -/
theorem upsert_sound {memory : Memory} {snapshot : Snapshot} (sound : snapshot.Sound) :
    (memory.store.upsert memory.now memory.issued snapshot).1.Sound := by
  unfold Store.upsert
  split <;> exact ⟨sound.metrics, sound.named, sound.whole⟩

/-- In every history of validated calls all snapshots are sound. -/
theorem run_snapshots_sound (history : List Event)
    (validated : ∀ event ∈ history, event.call.Validated) :
    ∀ snapshot ∈ (run history).store.campaigns, snapshot.Sound := by
  refine run_from_induction
    (motive := fun _ memory => ∀ snapshot ∈ memory.store.campaigns, snapshot.Sound) history ?_
    [] start (by simp [start, Store.empty])
  rintro _ memory ⟨moment, call⟩ member reply after sound effect
  cases effect with
  | measured snapshot =>
    obtain ⟨setting, input, passed⟩ : ∃ setting input,
        Snapshot.check setting input = .valid snapshot := validated _ member
    obtain ⟨fields, checked⟩ := Checked.model_valid passed
    intro stored inStore
    rw [keep, (Store.upsert_puts _ _ _ snapshot).1] at inStore
    rcases Store.mem_put_campaign inStore with rfl | before
    · exact upsert_sound (Snapshot.checked_sound checked)
    · exact sound stored before
  | kept counted issued more shown => exact sound
  | created draft owner => exact sound
  | changed rule change found made => exact sound
  | deleted id => exact sound
  | recorded rule log issued more found first identified => exact sound

/-- The logs stand in the store in the order in which they were recorded. -/
theorem stored_as_recorded (history : List Event) :
    ((run history).store.logs.map (·.unnamed)).Sublist
      ((recorded history).map (·.unnamed)) := by
  obtain ⟨since, same, logs⟩ := logs_grow [] history
  have recordedSame : (recorded history).map (·.unnamed) = since.map (·.unnamed) := same.symm
  have stored : (run history).store.logs =
      ([] ++ since).filter (fun log => log.ruleId ∉ deletedFrom start history) := logs
  rw [recordedSame, stored]
  exact List.filter_sublist.map _

/-- After every history of validated calls, either the times of the stored logs are mixed and no
query of logs has an answer, or there is one order of them, the newest first and of one time the one
recorded last, and every query of logs gives its part of them in this order. -/
theorem logs_in_one_order (history : List Event)
    (validated : ∀ event ∈ history, event.call.Validated) :
    let memory := run history
    (memory.store.logs.map (·.unnamed)).Sublist ((recorded history).map (·.unnamed)) ∧
      (Timestamp.Mixed (memory.store.logs.map (·.triggeredAt)) → Disordered memory) ∧
      (¬ Timestamp.Mixed (memory.store.logs.map (·.triggeredAt)) →
        ∃ entries, NewestFirst memory.store entries ∧
          Agreeing (memory.store.shown entries) memory) := by
  intro memory
  have numbered : memory.store.Numbered memory.issued := run_numbered history
  refine ⟨stored_as_recorded history, ?_, ?_⟩
  · intro mixed
    rcases memory.store.newest_course with ⟨_, fails⟩ | ⟨unmixed, _⟩
    · exact disordered numbered fails
    · exact absurd mixed unmixed
  · intro unmixed
    rcases memory.store.newest_course with ⟨mixed, _⟩ | ⟨_, entries, inOrder, newest⟩
    · exact absurd mixed unmixed
    · exact ⟨entries, inOrder, agreeing numbered (run_owned history)
        (sound_names history fun event member => (validated event member).checked)
        (run_snapshots_sound history validated) inOrder.stored newest⟩

end Runs

/-- Three notifications of one rule, the first two at one time by clocks that differ, the last one
at an earlier time. -/
def notifiedApart : List Event :=
  [⟨0, .createRule (alwaysDue .sendNotification) .null⟩,
    ⟨1, .upsertCampaign (readingOf "summer" ⟨5, none⟩)⟩,
    ⟨2, .record { notified with triggeredAt := ⟨7, some 5⟩ }⟩,
    ⟨3, .record { notified with triggeredAt := ⟨2, some 0⟩ }⟩,
    ⟨4, .record { notified with triggeredAt := ⟨1, some 0⟩ }⟩]

/-- Logs with different offsets are ordered by the moments that they stand for. One more log without
an offset makes every list of logs fail. -/
theorem sample_log_order :
    (∀ event ∈ notifiedApart ++ [⟨5, .record notified⟩], event.call.Validated) ∧
      Disordered (run (notifiedApart ++ [⟨5, .record notified⟩])) ∧
      (run notifiedApart).store.logs.map (·.triggeredAt) =
        [⟨7, some 5⟩, ⟨2, some 0⟩, ⟨1, some 0⟩] ∧
      ∃ entries, NewestFirst (run notifiedApart).store entries ∧
        Agreeing ((run notifiedApart).store.shown entries) (run notifiedApart) := by
  have validated : ∀ event ∈ notifiedApart ++ [⟨5, .record notified⟩], event.call.Validated := by
    intro event member
    simp only [notifiedApart, List.cons_append, List.nil_append, List.mem_cons, List.not_mem_nil,
      or_false] at member
    rcases member with rfl | rfl | rfl | rfl | rfl | rfl
    · exact ⟨⟨⟨0, none⟩, false⟩, (alwaysDue .sendNotification).toValue, rfl⟩
    · exact ⟨⟨⟨5, none⟩, false⟩, .record [("campaign_id", .text "summer")], rfl⟩
    · trivial
    · trivial
    · trivial
    · trivial
  have mixed : Timestamp.Mixed
      ((run (notifiedApart ++ [⟨5, .record notified⟩])).store.logs.map (·.triggeredAt)) :=
    Timestamp.uniform_eq_false_iff.mp (by decide +kernel)
  have unmixed : ¬ Timestamp.Mixed ((run notifiedApart).store.logs.map (·.triggeredAt)) :=
    Timestamp.uniform_iff.mp (by decide +kernel)
  have before : ∀ event ∈ notifiedApart, event.call.Validated :=
    fun event member => validated event (List.mem_append_left _ member)
  exact ⟨validated, (logs_in_one_order _ validated).2.1 mixed, by decide +kernel,
    (logs_in_one_order notifiedApart before).2.2 unmixed⟩

end Memory

end AdRules
