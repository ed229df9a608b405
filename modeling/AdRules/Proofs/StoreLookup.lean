import AdRules.Store
import Mathlib.Data.List.Nodup

/-!
# What the store finds

Rules are found by their identifier, logs by their rule, campaign, action and status. Finding a log
goes through an order in time, which exists only when all times have an offset or none has; whether
a log is found does not depend on that order, only on which logs are stored. The laws here say what
the writing operations do to what is found, so that later proofs need not open them.
-/

namespace AdRules

/-- A success of a rule's action on a campaign. -/
def ActionLog.isSuccessOf (log : ActionLog) (ruleId campaignId : String) (action : Action) : Bool :=
  log.ruleId == ruleId && log.campaignId == campaignId && log.action == action &&
    log.status == .success

/-- Times without an offset can be put in order. -/
theorem Timestamp.uniform_of_naive (times : List Timestamp)
    (naive : ∀ time ∈ times, time.isAware = false) : Timestamp.uniform times = true := by
  simp only [uniform, Bool.or_eq_true, List.all_eq_true]
  right
  intro time listed
  simp [naive time listed]

namespace Store

variable {store : Store} {rule found : Rule} {log : ActionLog} {id : String}

/-! ## Rules by identifier -/

/-- A rule that is found is stored. -/
theorem mem_of_rule? (present : store.rule? id = some found) : found ∈ store.rules :=
  List.mem_of_find?_eq_some present

/-- A rule is found under its own identifier. -/
theorem id_of_rule? (present : store.rule? id = some found) : found.id = id := by
  simpa using List.find?_some present

/-- A rule is found under an identifier exactly when a stored one has it. -/
theorem rule?_isSome : (store.rule? id).isSome ↔ id ∈ store.rules.map (·.id) := by
  simp [rule?, List.find?_isSome]

/-- Where no two rules share an identifier, every stored rule is found under its own. -/
theorem rule?_of_mem (distinct : (store.rules.map (·.id)).Nodup) (stored : rule ∈ store.rules) :
    store.rule? rule.id = some rule := by
  obtain ⟨campaigns, rules, logs⟩ := store
  induction rules with
  | nil => simp at stored
  | cons first rest inductionHypothesis =>
    simp only [List.map_cons, List.nodup_cons] at distinct
    rcases List.mem_cons.mp stored with rfl | later
    · simp [rule?]
    · have other : first.id ≠ rule.id := by
        intro same
        exact distinct.1 (same ▸ List.mem_map_of_mem later)
      have inRest := inductionHypothesis distinct.2 later
      simpa [rule?, other] using inRest

/-- Where no two rules share an identifier, the rules around a stored one have others. -/
theorem rules_around {rules : List Rule} (distinct : (rules.map (·.id)).Nodup)
    (stored : rule ∈ rules) :
    ∃ earlier later, rules = earlier ++ rule :: later ∧
      (∀ other ∈ earlier, other.id ≠ rule.id) ∧ ∀ other ∈ later, other.id ≠ rule.id := by
  obtain ⟨earlier, later, rfl⟩ := List.mem_iff_append.mp stored
  rw [List.map_append, List.map_cons, List.nodup_middle, List.nodup_cons, ← List.map_append]
    at distinct
  refine ⟨earlier, later, rfl, ?_, ?_⟩
  · intro other before same
    exact distinct.1 (same ▸ List.mem_map_of_mem (List.mem_append_left later before))
  · intro other after same
    exact distinct.1 (same ▸ List.mem_map_of_mem (List.mem_append_right earlier after))

/-! ## Putting a rule in place -/

/-- Putting a rule in place leaves the logs. -/
@[simp] theorem put_rule_logs : (store.putRule rule).logs = store.logs := rfl

/-- Putting a rule in place changes neither the number nor the order of identifiers. -/
@[simp] theorem put_rule_ids :
    (store.putRule rule).rules.map (·.id) = store.rules.map (·.id) := by
  simp only [putRule, List.map_map]
  apply List.map_congr_left
  intro stored _
  by_cases same : stored.id = rule.id <;> simp [same]

/-- A rule takes the place of the stored one with its identifier; what is around it stays. -/
theorem put_rule_around {changed : Rule} (distinct : (store.rules.map (·.id)).Nodup)
    (stored : rule ∈ store.rules) (sameId : changed.id = rule.id) :
    ∃ earlier later, store.rules = earlier ++ rule :: later ∧
      store.putRule changed = { store with rules := earlier ++ changed :: later } := by
  obtain ⟨earlier, later, split, before, after⟩ := rules_around distinct stored
  refine ⟨earlier, later, split, ?_⟩
  have unchanged : ∀ rules : List Rule, (∀ other ∈ rules, other.id ≠ rule.id) →
      rules.map (fun other => if other.id == rule.id then changed else other) = rules := by
    intro rules apart
    conv_rhs => rw [← List.map_id rules]
    exact List.map_congr_left fun other listed => if_neg (by simpa using apart other listed)
  simp only [putRule, split, List.map_append, List.map_cons, sameId, unchanged earlier before,
    unchanged later after, beq_self_eq_true, if_true]

/-- A stored rule is either the one that was put in place or was there before. -/
theorem mem_put_rule {stored : Rule} (member : stored ∈ (store.putRule rule).rules) :
    stored = rule ∨ stored ∈ store.rules ∧ stored.id ≠ rule.id := by
  obtain ⟨before, inStore, became⟩ := List.mem_map.mp member
  by_cases same : before.id = rule.id
  · left
    simpa [same] using became.symm
  · right
    have kept : before = stored := by simpa [same] using became
    exact ⟨kept ▸ inStore, kept ▸ same⟩

/-- A rule that takes the place of a stored one is found there; nothing else is found otherwise. -/
theorem rule?_put_rule :
    (store.putRule rule).rule? id =
      if rule.id = id then (store.rule? id).map fun _ => rule else store.rule? id := by
  obtain ⟨campaigns, rules, logs⟩ := store
  simp only [rule?, putRule]
  induction rules with
  | nil => simp
  | cons first rest inductionHypothesis =>
    by_cases wanted : first.id = id
    · subst wanted
      by_cases same : rule.id = first.id
      · simp [same]
      · simp [same, Ne.symm same]
    · by_cases same : first.id = rule.id
      · have other : rule.id ≠ id := same ▸ wanted
        simpa [wanted, same, other] using inductionHypothesis
      · simpa [wanted, same] using inductionHypothesis

/-- A rule that takes the place of a stored one is stored. -/
theorem mem_put_rule_self (present : store.rule? rule.id = some found) :
    rule ∈ (store.putRule rule).rules := by
  have nowFound : (store.putRule rule).rule? rule.id = some rule := by
    simp [rule?_put_rule, present]
  exact mem_of_rule? nowFound

/-! ## Logs by what they record -/

/-- A log with the names of its rule and campaign is still one of its rule. -/
@[simp] theorem decorate_ruleId : (store.decorate log).ruleId = log.ruleId := rfl

/-- A success of the rule's action on the campaign is stored. -/
def succeeded (store : Store) (ruleId campaignId : String) (action : Action) : Bool :=
  store.logs.any (·.isSuccessOf ruleId campaignId action)

/-- Looking through the logs from the newest on finds one exactly when one is stored, provided that
the logs can be put in order. The order only decides which one is found first. -/
theorem find_newest (keep : ActionLog → Bool)
    (blind : ∀ log, keep (store.decorate log) = keep log) :
    (store.newestLogs.map fun logs => logs.find? keep).map Option.isSome =
      if Timestamp.uniform (store.logs.map (·.triggeredAt)) then .ok (store.logs.any keep)
      else .error .mixedTimes := by
  by_cases ordered : Timestamp.uniform (store.logs.map (·.triggeredAt)) = true
  · have same : ∀ sorted : List ActionLog, sorted.Perm store.logs →
        ((sorted.map store.decorate).find? keep).isSome = store.logs.any keep := by
      intro sorted permuted
      rw [Bool.eq_iff_iff]
      simp only [List.find?_isSome, List.mem_map, List.any_eq_true]
      constructor
      · rintro ⟨_, ⟨log, listed, rfl⟩, kept⟩
        exact ⟨log, permuted.mem_iff.mp listed, blind log ▸ kept⟩
      · rintro ⟨log, listed, kept⟩
        exact ⟨_, ⟨log, permuted.mem_iff.mpr listed, rfl⟩, (blind log).symm ▸ kept⟩
    simp only [newestLogs, ordered, if_true, Except.map]
    rw [same _ ((List.mergeSort_perm _ _).trans (List.reverse_perm _))]
  · simp [newestLogs, ordered, Except.map]

/-- The check for an earlier success answers with what is stored, or fails where the logs cannot be
put in order. -/
theorem has_success_eq :
    store.hasSuccess log =
      if Timestamp.uniform (store.logs.map (·.triggeredAt)) then
        .ok (store.succeeded log.ruleId log.campaignId log.action)
      else .error .mixedTimes :=
  find_newest (fun other => other.isSuccessOf log.ruleId log.campaignId log.action) fun _ => rfl

/-- The successes of a rule's action on a campaign that are stored, in the order of recording. -/
def successes (store : Store) (ruleId campaignId : String) (action : Action) : List ActionLog :=
  store.logs.filter (·.isSuccessOf ruleId campaignId action)

/-! ## Storing a reading -/

/-- Storing a reading leaves the rules. -/
@[simp] theorem put_campaign_rules (snapshot : Snapshot) :
    (store.putCampaign snapshot).rules = store.rules := by
  unfold putCampaign
  split <;> rfl

/-- Storing a reading leaves the logs. -/
@[simp] theorem put_campaign_logs (snapshot : Snapshot) :
    (store.putCampaign snapshot).logs = store.logs := by
  unfold putCampaign
  split <;> rfl

/-- A stored snapshot is either the one that was put in place or was there before. -/
theorem mem_put_campaign {snapshot stored : Snapshot}
    (member : stored ∈ (store.putCampaign snapshot).campaigns) :
    stored = snapshot ∨ stored ∈ store.campaigns := by
  unfold putCampaign at member
  split at member
  · obtain ⟨before, inStore, became⟩ := List.mem_map.mp member
    by_cases same : before.campaignId = snapshot.campaignId
    · left
      simpa [same] using became.symm
    · right
      have kept : before = stored := by simpa [same] using became
      exact kept ▸ inStore
  · rcases List.mem_append.mp member with before | new
    · exact .inr before
    · exact .inl (List.mem_singleton.mp new)

/-- A snapshot that is put in place is found under its campaign. -/
theorem campaign?_put_campaign (snapshot : Snapshot) :
    (store.putCampaign snapshot).campaign? snapshot.campaignId = some snapshot := by
  obtain ⟨campaigns, rules, logs⟩ := store
  cases known : campaigns.find? (·.campaignId == snapshot.campaignId) with
  | none => simp [putCampaign, campaign?, known]
  | some existing =>
    have same : existing.campaignId = snapshot.campaignId := by
      simpa using List.find?_some known
    have looks : (fun stored : Snapshot => stored.campaignId == snapshot.campaignId) ∘
        (fun stored => if stored.campaignId == snapshot.campaignId then snapshot else stored) =
        fun stored => stored.campaignId == snapshot.campaignId := by
      funext stored
      by_cases own : stored.campaignId = snapshot.campaignId <;> simp [own]
    simp only [putCampaign, campaign?, known, Option.isSome_some, if_true, List.find?_map, looks,
      Option.map_some, same, beq_self_eq_true]

/-- A reading takes the place of the row of its campaign. -/
theorem upsert_puts [IdSupply] (store : Store) (now : Timestamp) (issued : Nat)
    (snapshot : Snapshot) :
    (store.upsert now issued snapshot).2.1 =
        store.putCampaign (store.upsert now issued snapshot).1 ∧
      (store.upsert now issued snapshot).1.campaignId = snapshot.campaignId := by
  unfold upsert
  split <;> exact ⟨rfl, rfl⟩

/-- The stored reading is found under its campaign, with the metrics that were read. -/
theorem upsert_stored [IdSupply] (store : Store) (now : Timestamp) (issued : Nat)
    (snapshot : Snapshot) :
    (store.upsert now issued snapshot).2.1.campaign? snapshot.campaignId =
        some (store.upsert now issued snapshot).1 ∧
      (store.upsert now issued snapshot).1.metrics = snapshot.metrics := by
  unfold upsert
  split <;> exact ⟨campaign?_put_campaign _, rfl⟩

/-- A snapshot takes the place of no snapshot of another campaign. -/
theorem campaign?_put_other (snapshot : Snapshot) {campaignId : String}
    (other : campaignId ≠ snapshot.campaignId) :
    (store.putCampaign snapshot).campaign? campaignId = store.campaign? campaignId := by
  have looks : (fun stored : Snapshot => stored.campaignId == campaignId) ∘
      (fun stored => if stored.campaignId == snapshot.campaignId then snapshot else stored) =
      fun stored => stored.campaignId == campaignId := by
    funext stored
    by_cases replaced : stored.campaignId = snapshot.campaignId <;> simp [replaced]
  unfold putCampaign
  split
  · simp only [campaign?, List.find?_map, looks]
    cases found : store.campaigns.find? (·.campaignId == campaignId) with
    | none => rfl
    | some stored =>
      have named : stored.campaignId = campaignId := by simpa using List.find?_some found
      simp [named, other]
  · simp [campaign?, List.find?_append, other.symm]

/-- A reading is stored under the name that it has. -/
theorem upsert_name [IdSupply] (store : Store) (now : Timestamp) (issued : Nat)
    (snapshot : Snapshot) : (store.upsert now issued snapshot).1.name = snapshot.name := by
  unfold upsert
  split <;> rfl

/-- Storing a reading changes no other campaign. -/
theorem upsert_other [IdSupply] (store : Store) (now : Timestamp) (issued : Nat)
    (snapshot : Snapshot) {campaignId : String} (other : campaignId ≠ snapshot.campaignId) :
    (store.upsert now issued snapshot).2.1.campaign? campaignId = store.campaign? campaignId := by
  unfold upsert
  split <;> exact campaign?_put_other _ other

/-- Going through entries for the latest one ends at one of them. -/
theorem later_mem {α : Type} (time : α → Timestamp) (first : α) (rest : List α) :
    rest.foldl (laterOf time) first ∈ first :: rest := by
  induction rest generalizing first with
  | nil => simp
  | cons next later inductionHypothesis =>
    rw [List.foldl_cons]
    rcases List.mem_cons.mp (inductionHypothesis (laterOf time first next)) with isIt | inLater
    · rw [isIt]
      unfold laterOf
      split <;> simp
    · simp [inLater]

/-- The latest of some entries is one of them. -/
theorem latest_mem {α : Type} {time : α → Timestamp} {entries : List α} {found : α}
    (latest : latest? time entries = .ok (some found)) : found ∈ entries := by
  cases entries with
  | nil => cases latest
  | cons first rest =>
    by_cases ordered : Timestamp.uniform ((first :: rest).map time) = true
    · rw [latest?, if_pos ordered] at latest
      cases latest
      exact later_mem time first rest
    · rw [latest?, if_neg ordered] at latest
      cases latest

/-- Entries at times without an offset can be put in order. -/
theorem latest_exists {α : Type} {time : α → Timestamp} {entries : List α}
    (naive : ∀ entry ∈ entries, (time entry).isAware = false) :
    ∃ found, latest? time entries = .ok found := by
  cases entries with
  | nil => exact ⟨none, rfl⟩
  | cons first rest =>
    have ordered : Timestamp.uniform ((first :: rest).map time) = true := by
      apply Timestamp.uniform_of_naive
      intro moment listed
      obtain ⟨entry, member, rfl⟩ := List.mem_map.mp listed
      exact naive entry member
    exact ⟨_, if_pos ordered⟩

/-- Storing a reading touches neither rules nor logs. -/
theorem upsert_frame [IdSupply] (store : Store) (now : Timestamp) (issued : Nat)
    (snapshot : Snapshot) :
    (store.upsert now issued snapshot).2.1.rules = store.rules ∧
      (store.upsert now issued snapshot).2.1.logs = store.logs ∧
      issued ≤ (store.upsert now issued snapshot).2.2 := by
  unfold upsert
  split
  · simp
  · simp only [put_campaign_rules, put_campaign_logs, true_and]
    split <;> omega

/-! ## Recording a log -/

/-- Appending a log adds it to those of its own rule. -/
theorem logs_of_append {now : Timestamp} :
    (store.append now rule log).logsOf id =
      store.logsOf id ++ if log.ruleId = id then [log] else [] := by
  by_cases same : log.ruleId = id <;> simp [append, logsOf, same]

/-- Recording a log leaves the readings. -/
@[simp] theorem append_campaigns {now : Timestamp} :
    (store.append now rule log).campaigns = store.campaigns := rfl

/-- Recording a log puts it behind all others. -/
@[simp] theorem append_logs {now : Timestamp} :
    (store.append now rule log).logs = store.logs ++ [log] := rfl

/-- The rule that a log is counted for is found with the count; no other rule changes. -/
theorem rule?_append {now : Timestamp} :
    (store.append now rule log).rule? id =
      if rule.id = id then (store.rule? id).map fun _ => rule.triggered log.triggeredAt now
      else store.rule? id := by
  exact rule?_put_rule

/-- Counting an execution changes no names, so logs are shown as before. -/
theorem decorate_append (log : ActionLog) (now : Timestamp)
    (found : store.rule? rule.id = some rule) :
    (store.append now rule log).decorate = store.decorate := by
  funext other
  have names : ((store.append now rule log).rule? other.ruleId).map (·.name) =
      (store.rule? other.ruleId).map (·.name) := by
    by_cases same : rule.id = other.ruleId
    · simp [rule?_append, ← same, found, Rule.triggered]
    · simp [rule?_append, same]
  have campaigns : (store.append now rule log).campaign? = store.campaign? := rfl
  simp only [decorate, names, campaigns]

/-- A listing of the active rules holds each of them once. -/
theorem active_perm {active : List Rule} (listed : store.activeRules = .ok active) :
    active.Perm (store.rules.filter (·.isActive)) := by
  unfold activeRules sortedRules at listed
  split at listed
  · rw [← Except.ok.inj listed]
    exact List.mergeSort_perm _ _
  · cases listed

/-- The listing has the active rules and no others. -/
theorem mem_active {active : List Rule} (listed : store.activeRules = .ok active) (rule : Rule) :
    rule ∈ active ↔ rule ∈ store.rules ∧ rule.isActive = true := by
  rw [(active_perm listed).mem_iff, List.mem_filter]

/-- A log under the identifier it came with, or under a new one. -/
def identified [IdSupply] (issued : Nat) (log : ActionLog) : ActionLog :=
  { log with id := some ((givenId? log.id).getD (freshId issued)) }

/-- The count of identifiers after a log was given one if it needed one. -/
def issuedAfter (issued : Nat) (log : ActionLog) : Nat :=
  if (givenId? log.id).isSome then issued else issued + 1

/-- Recording a log takes one identifier or none, and gives none back. -/
theorem issued_after_le (issued : Nat) (log : ActionLog) : issued ≤ issuedAfter issued log := by
  unfold issuedAfter
  split <;> omega

/-- The check that may keep a log from being recorded cannot be made where the stored logs cannot be
put in order. -/
theorem record_unordered [IdSupply] (now : Timestamp) (issued : Nat)
    (present : store.rule? log.ruleId = some rule) (once : isOnce log = true)
    (unordered : Timestamp.uniform (store.logs.map (·.triggeredAt)) = false) :
    store.record now issued log = .error .mixedTimes := by
  simp [record, present, once, has_success_eq, unordered, bind, Except.bind]

/-- A success that may be recorded once is not recorded again. -/
theorem record_repeated [IdSupply] (now : Timestamp) (issued : Nat)
    (present : store.rule? log.ruleId = some rule) (once : isOnce log = true)
    (ordered : Timestamp.uniform (store.logs.map (·.triggeredAt)) = true)
    (before : store.succeeded log.ruleId log.campaignId log.action = true) :
    store.record now issued log = .ok (none, store, issued) := by
  simp [record, present, once, has_success_eq, ordered, before, bind, Except.bind, pure,
    Except.pure]

/-- Any other log of a stored rule is appended. One that may be recorded more than once is not
checked, so it is appended also where the logs cannot be put in order. -/
theorem record_new [IdSupply] (now : Timestamp) (issued : Nat)
    (present : store.rule? log.ruleId = some rule)
    (checked : isOnce log = true → Timestamp.uniform (store.logs.map (·.triggeredAt)) = true ∧
      store.succeeded log.ruleId log.campaignId log.action = false) :
    store.record now issued log =
      .ok (some ((store.append now rule (identified issued log)).decorate (identified issued log)),
        store.append now rule (identified issued log), issuedAfter issued log) := by
  by_cases once : isOnce log = true
  · obtain ⟨ordered, new⟩ := checked once
    simp [record, present, once, has_success_eq, ordered, new, bind, Except.bind, pure,
      Except.pure, identified, issuedAfter]
  · simp [record, present, once, bind, Except.bind, pure, Except.pure, identified, issuedAfter]

end Store

end AdRules
