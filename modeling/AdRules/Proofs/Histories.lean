import AdRules.Proofs.Outcomes
import AdRules.Proofs.Rechecks
import AdRules.Proofs.StoreLookup
import AdRules.Store.Memory

/-!
# Histories of the store in memory

A history is a list of calls, each made at a moment of a clock that shows universal time without an
offset and may stand still or go back. Callers that run beside each other reach the store one call
at a time, so whatever they do together is one history. What a call can do to the store is said
once, by `Effect`; what holds of every history follows from it by `run_from_induction`.
-/

namespace AdRules.Memory

/-- A call of the store, with what its caller hands over. There is one for each operation of a
repository, and what callers hand over may have any shape that the operation takes. -/
inductive Call where
  | upsertCampaign (snapshot : Snapshot)
  | latestCampaign
  | latestCampaignWithLogs (limit : Value)
  | createRule (draft : RuleDraft) (owner : Value)
  | rule (id limit : Value)
  | rules
  | updateRule (id : Value) (change : RuleChange)
  | setActive (id isActive : Value)
  | deleteRule (id : Value)
  | activeRules
  | findLog (ruleId campaignId action status : Value)
  | logs (ruleId limit : Value)
  | record (log : ActionLog)
  | prepare

/-- What is followed of the reply to a call. The rest of it is left out. -/
structure Reply where
  /-- The rules that are shown with the number of their logs. -/
  counted : List Rule
  /-- The log that was recorded. -/
  recorded : Option ActionLog

/-- A reply that shows no rules and records nothing. -/
def Reply.other : Reply := ⟨[], none⟩

/-- A reply that shows some rules. -/
def Reply.showing (rules : List Rule) : Reply := ⟨rules, none⟩

/-- Makes a call. -/
def Call.perform [IdSupply] : Call → Act Memory Reply
  | .upsertCampaign snapshot => (fun _ => .other) <$> repository.upsertCampaign snapshot
  | .latestCampaign => (fun _ => .other) <$> repository.latestCampaign
  | .latestCampaignWithLogs limit => (fun _ => .other) <$> repository.latestCampaignWithLogs limit
  | .createRule draft owner => (.showing ·.toList) <$> repository.createRule draft owner
  | .rule id limit =>
    (fun shown => .showing (shown.toList.map (·.rule))) <$> repository.rule id limit
  | .rules => .showing <$> repository.rules
  | .updateRule id change => (.showing ·.toList) <$> repository.updateRule id change
  | .setActive id isActive => (.showing ·.toList) <$> repository.setActive id isActive
  | .deleteRule id => (fun _ => .other) <$> repository.deleteRule id
  | .activeRules => (fun _ => .other) <$> repository.activeRules
  | .findLog ruleId campaignId action status =>
    (fun _ => .other) <$> repository.findLog ruleId campaignId action status
  | .logs ruleId limit => (fun _ => .other) <$> repository.logs ruleId limit
  | .record log => (⟨[], ·⟩) <$> repository.record log
  | .prepare => (fun _ => .other) <$> repository.prepare

/-- The reply of an operation and the memory it leaves; a failed one shows and records nothing. -/
def settle (action : Act Memory Reply) (memory : Memory) : Reply × Memory :=
  match action memory with
  | .ok reply after => (reply, after)
  | .error _ after => (.other, after)

/-- The reply to a call and the memory it leaves. A call that fails replies nothing that is followed
here. -/
def Call.answer [IdSupply] (call : Call) (memory : Memory) : Reply × Memory :=
  settle call.perform memory

/-- The memory as it is used at a moment, in microseconds of universal time. -/
def setClock (memory : Memory) (moment : Int) : Memory := { memory with now := ⟨moment, none⟩ }

/-- A call at a moment. Nothing says that the moments of a history go forwards. -/
structure Event where
  moment : Int
  call : Call

/-- The reply to the call of an event and the memory it leaves. -/
def Event.answer [IdSupply] (event : Event) (memory : Memory) : Reply × Memory :=
  event.call.answer (memory.setClock event.moment)

/-- The memory after some events. A call that fails is followed by the next one. -/
def runFrom [IdSupply] : Memory → List Event → Memory
  | memory, [] => memory
  | memory, event :: rest => runFrom (event.answer memory).2 rest

/-- The logs that some events recorded, in the order of recording. -/
def recordedFrom [IdSupply] : Memory → List Event → List ActionLog
  | _, [] => []
  | memory, event :: rest =>
    (event.answer memory).1.recorded.toList ++ recordedFrom (event.answer memory).2 rest

/-- A memory in which nothing is stored, and which has issued no identifier yet. -/
def start : Memory := ⟨⟨0, none⟩, 0, .empty⟩

/-- The memory after a history. -/
def run [IdSupply] (history : List Event) : Memory := runFrom start history

/-- The logs recorded in a history, in the order of recording. -/
def recorded [IdSupply] (history : List Event) : List ActionLog := recordedFrom start history

/-! ## Queries and changes -/

/-- The memory with another store and count of identifiers. -/
def keep (memory : Memory) (store : Store) (issued : Nat) : Memory :=
  { memory with store := store, issued := issued }

variable {memory : Memory} {α : Type}

/-- A query within a limit is a query, and what it answers some limit gives. -/
theorem limited_is_query (limit : Value) (applies : α → Bool)
    (ask : Limit → Store → Except Failure α) :
    ∃ asked, limited limit applies ask = query asked ∧
      ∀ store value, asked store = .ok value → ∃ bound, ask bound store = .ok value := by
  cases known : limit? limit with
  | some bound =>
    exact ⟨ask bound, by simp only [limited, known], fun store value given => ⟨bound, given⟩⟩
  | none =>
    refine ⟨_, by simp only [limited, known]; rfl, ?_⟩
    intro store value given
    refine ⟨.all, ?_⟩
    cases answered : ask .all store with
    | error failure => simp [answered, bind, Except.bind] at given
    | ok found =>
      by_cases applied : applies found = true
      · simp [answered, applied, bind, Except.bind, throw, throwThe, MonadExceptOf.throw] at given
      · simpa [answered, applied, bind, Except.bind, pure, Except.pure] using given

/-- An answer of a query that is checked once more is an answer of a query too, and what it answers
is the answer of the first one as it was checked. -/
theorem rechecked_is_query (model : String) (recheck : α → Checked α)
    (ask : Store → Except Failure (Option α)) :
    ∃ asked, rechecked model recheck (query ask) = query asked ∧
      ∀ store again, asked store = .ok (some again) →
        ∃ shown, ask store = .ok (some shown) ∧ recheck shown = .valid again := by
  -- What is answered does not depend on the moment and on the count of identifiers.
  let asked (store : Store) : Except Failure (Option α) :=
    (rechecked model recheck (query ask)).result ⟨⟨0, none⟩, 0, store⟩
  refine ⟨asked, ?_, ?_⟩
  · funext memory
    cases answered : ask memory.store with
    | error failure => simp [rechecked, query, asked, Act.result, answered]
    | ok found =>
      cases found with
      | none => simp [rechecked, query, asked, Act.result, answered]
      | some shown =>
        cases checked : recheck shown <;>
          simp [rechecked, query, asked, Act.result, answered, checked, Act.ofChecked]
  · intro store again given
    cases answered : ask store with
    | error failure => simp [asked, rechecked, query, Act.result, answered] at given
    | ok found =>
      cases found with
      | none => simp [asked, rechecked, query, Act.result, answered] at given
      | some shown =>
        cases checked : recheck shown with
        | invalid issues =>
          simp [asked, rechecked, query, Act.result, Act.ofChecked, answered, checked] at given
        | valid result =>
          refine ⟨shown, rfl, ?_⟩
          simpa [asked, rechecked, query, Act.result, Act.ofChecked, answered, checked] using given

/-- A query within a limit whose answer is checked once more is a query too, with the same answer up
to the check. -/
theorem rechecked_limited (model : String) (recheck : α → Checked α) (limit : Value)
    (applies : Option α → Bool) (ask : Limit → Store → Except Failure (Option α)) :
    ∃ asked, rechecked model recheck (limited limit applies ask) = query asked ∧
      ∀ store again, asked store = .ok (some again) →
        ∃ bound shown, ask bound store = .ok (some shown) ∧ recheck shown = .valid again := by
  obtain ⟨plain, same, answers⟩ := limited_is_query limit applies ask
  obtain ⟨asked, rechecked, shows⟩ := rechecked_is_query model recheck plain
  refine ⟨asked, by rw [same, rechecked], ?_⟩
  intro store again given
  obtain ⟨shown, answered, checked⟩ := shows store again given
  obtain ⟨bound, within⟩ := answers store _ answered
  exact ⟨bound, shown, within, checked⟩

/-- A rule is shown as a stored one with the number of its logs, under a name that may have been
checked once more. -/
def Shown (store : Store) (rule : Rule) : Prop :=
  ∃ stored ∈ store.rules, ∃ name, rule = { store.withCount stored with name := name }

/-- A stored rule with its count is shown as that. -/
theorem shown_counted {store : Store} {stored : Rule} (member : stored ∈ store.rules) :
    Shown store (store.withCount stored) := ⟨stored, member, stored.name, rfl⟩

/-- Every rule in a listing is a stored one with its count. -/
theorem listed_stored (listed : List Rule) (given : memory.store.newestRules = .ok listed) :
    ∀ rule ∈ listed, Shown memory.store rule := by
  by_cases ordered : Timestamp.uniform (memory.store.rules.filterMap (·.createdAt)) = true
  · simp only [Store.newestRules, Store.sortedRules, ordered, if_true, Except.map,
      Except.ok.injEq] at given
    intro rule member
    obtain ⟨stored, inOrder, rfl⟩ := List.mem_map.mp (given ▸ member)
    exact shown_counted (List.mem_mergeSort.mp inOrder)
  · simp [Store.newestRules, Store.sortedRules, ordered, Except.map] at given

/-- A rule that is shown with its logs is the stored one with its count. -/
theorem shown_stored (id : Value) (bound : Limit) (shown : RuleWithLogs)
    (given : withId id (.ok none) (fun id => memory.store.ruleWithLogs id bound) =
      .ok (some shown)) :
    ∃ stored ∈ memory.store.rules, shown.rule = memory.store.withCount stored := by
  unfold withId at given
  cases named : id? id with
  | error failure => simp [named, bind, Except.bind] at given
  | ok name =>
    cases name with
    | none => simp [named, bind, Except.bind] at given
    | some name =>
      cases found : memory.store.rule? name with
      | none => simp [named, bind, Except.bind, Store.ruleWithLogs, found] at given
      | some stored =>
        refine ⟨stored, Store.mem_of_rule? found, ?_⟩
        simp only [named, bind, Except.bind, Store.ruleWithLogs, found, Except.map] at given
        split at given
        · cases given
        · cases given
          rfl

/-- A change takes effect as a whole or not at all. -/
theorem settle_change (apply : Timestamp → Nat → Store → Except Failure (α × Store × Nat))
    (reply : α → Reply) :
    settle (reply <$> change apply) memory =
      match apply memory.now memory.issued memory.store with
      | .ok (value, store, issued) => (reply value, memory.keep store issued)
      | .error _ => (.other, memory) := by
  cases applied : apply memory.now memory.issued memory.store <;>
    simp only [settle, Act.map_apply, change, applied, keep]

/-- A value under which something can be stored is its identifier as a text. -/
theorem text_of_id {id : Value} {name : String} (named : id? id = .ok (some name)) :
    id = .text name := by
  cases id with
  | text content =>
    cases named
    rfl
  | null | bool _ | int _ | float _ | time _ | list _ | record _ => cases named

/-- Under a text, deleting a rule depends on whether one is stored there; where no rules are stored
at all, none is stored there either. -/
theorem delete_text (id : String) (issued : Nat) (store : Store) :
    deleteRule (.text id) issued store =
      (store.deleteRule id).map fun store => ((), store, issued) := by
  unfold deleteRule
  split
  case isTrue empty =>
    have noRule : store.rule? id = none := by
      simp [Store.rule?, List.isEmpty_iff.mp empty]
    simp only [Store.deleteRule, noRule, Except.map, Failure.not_found_text]
  case isFalse => rfl

/-- Under a value that is no text nothing can be deleted. Which failure that is depends on the shape
of the value, and on whether rules are stored: only then is it looked up. -/
theorem delete_other {id : Value} (other : ∀ name, id ≠ .text name) (issued : Nat)
    (store : Store) : ∃ failure, deleteRule id issued store = .error failure := by
  unfold deleteRule
  split
  case isTrue => exact ⟨_, rfl⟩
  case isFalse =>
    cases named : id? id with
    | error failure => exact ⟨failure, by simp only [withId, named, bind, Except.bind]⟩
    | ok name =>
      cases name with
      | none => exact ⟨.notFound id, by simp only [withId, named, bind, Except.bind]⟩
      | some name => exact absurd (text_of_id named) (other name)

/-! ## What one call can do -/

/-- The call changes a rule so: by a change that is handed over, or by switching it. -/
def Call.Changes : Call → RuleChange → Prop
  | .updateRule _ change, made => made = change
  | .setActive _ isActive, made => Repository.switchChange isActive = .valid made
  | _, _ => False

section Effects

variable [IdSupply]

/-- What a call does: leave the store as it is, store a reading, or create, change or delete one
rule, or record one log, each of them as its caller says. Identifiers are only ever issued. -/
inductive Effect (memory : Memory) : Call → Reply → Memory → Prop where
  | kept (counted : List Rule) (issued : Nat) (more : memory.issued ≤ issued)
      (shown : ∀ rule ∈ counted, Shown memory.store rule) {call : Call} :
      Effect memory call ⟨counted, none⟩ (memory.keep memory.store issued)
  | measured (snapshot : Snapshot) :
      Effect memory (.upsertCampaign snapshot) .other
        (memory.keep (memory.store.upsert memory.now memory.issued snapshot).2.1
          (memory.store.upsert memory.now memory.issued snapshot).2.2)
  | created (draft : RuleDraft) (owner : Option String) {given : Value} :
      Effect memory (.createRule draft given)
        (.showing [(memory.store.createRule memory.now memory.issued draft owner).1])
        (memory.keep (memory.store.createRule memory.now memory.issued draft owner).2.1
          (memory.store.createRule memory.now memory.issued draft owner).2.2)
  | changed (rule : Rule) (change : RuleChange) (found : memory.store.rule? rule.id = some rule)
      {call : Call} (made : call.Changes change) :
      Effect memory call
        (.showing [memory.store.withCount (change.apply memory.now memory.issued rule)])
        (memory.keep (memory.store.putRule (change.apply memory.now memory.issued rule))
          (memory.issued + change.idCount))
  | deleted (id : String) :
      Effect memory (.deleteRule (.text id)) .other
        (memory.keep
          { memory.store with
            rules := memory.store.rules.filter (·.id != id)
            logs := memory.store.logs.filter (·.ruleId != id) } memory.issued)
  | recorded (rule : Rule) (log : ActionLog) (issued : Nat) (more : memory.issued ≤ issued)
      (found : memory.store.rule? log.ruleId = some rule)
      (first : Store.isOnce log = true →
        memory.store.succeeded log.ruleId log.campaignId log.action = false)
      {given : ActionLog} (identified : log = Store.identified memory.issued given) :
      Effect memory (.record given)
        ⟨[], some ((memory.store.append memory.now rule log).decorate log)⟩
        (memory.keep (memory.store.append memory.now rule log) issued)

/-- What some call can do, told without the call: an invariant that every such step keeps holds
after every history. -/
def Step (memory : Memory) (reply : Reply) (after : Memory) : Prop :=
  ∃ call, Effect memory call reply after

variable {call : Call}

/-- A query leaves the store as it is, whether it finds an answer or fails. -/
theorem query_effect (ask : Store → Except Failure α) (rulesIn : α → List Rule)
    (shown : ∀ value, ask memory.store = .ok value → ∀ rule ∈ rulesIn value,
      Shown memory.store rule) :
    Effect memory call (settle ((fun value => .showing (rulesIn value)) <$> query ask) memory).1
      (settle ((fun value => .showing (rulesIn value)) <$> query ask) memory).2 := by
  cases answered : ask memory.store with
  | ok value =>
    simp only [settle, Act.map_apply, query, answered]
    exact .kept (rulesIn value) memory.issued (Nat.le_refl _) (shown value answered)
  | error failure =>
    simp only [settle, Act.map_apply, query, answered]
    exact .kept [] memory.issued (Nat.le_refl _) (by simp)

/-- A query that shows no rules is a step. -/
theorem silent_query_effect (ask : Store → Except Failure α) :
    Effect memory call (settle ((fun _ => .other) <$> query ask) memory).1
      (settle ((fun _ => .other) <$> query ask) memory).2 :=
  query_effect ask (fun _ => []) (by simp)

/-- A query within a limit changes nothing, whether or not it succeeds, and shows no rules. -/
theorem silent_limited_effect (limit : Value) (applies : α → Bool)
    (ask : Limit → Store → Except Failure α) :
    Effect memory call (settle ((fun _ => .other) <$> limited limit applies ask) memory).1
      (settle ((fun _ => .other) <$> limited limit applies ask) memory).2 := by
  obtain ⟨asked, same, _⟩ := limited_is_query limit applies ask
  rw [same]
  exact silent_query_effect asked

/-- A call that fails without an effect is a step. -/
theorem refused_effect : Effect memory call .other memory :=
  .kept [] memory.issued (Nat.le_refl _) (by simp)

/-- Changing a rule replaces it, unless it is not found. -/
theorem update_effect (id : Value) (change : RuleChange) (made : call.Changes change) :
    Effect memory call (settle ((.showing ·.toList) <$> repository.updateRule id change) memory).1
      (settle ((.showing ·.toList) <$> repository.updateRule id change) memory).2 := by
  simp only [repository, settle_change, withId]
  cases named : id? id with
  | error failure => exact refused_effect
  | ok name =>
    cases name with
    | none => exact refused_effect
    | some name =>
      cases found : memory.store.rule? name with
      | none =>
        simp only [bind, Except.bind, Store.updateRule, found, Except.map]
        exact refused_effect
      | some rule =>
        simp only [bind, Except.bind, Store.updateRule, found, Except.map]
        exact .changed rule change (Store.id_of_rule? found ▸ found) made

/-- Deleting a rule removes it and its logs, unless it is not found. -/
theorem delete_effect (id : Value) :
    Effect memory (.deleteRule id)
      (settle ((fun _ => .other) <$> repository.deleteRule id) memory).1
      (settle ((fun _ => .other) <$> repository.deleteRule id) memory).2 := by
  simp only [repository, settle_change]
  by_cases named : ∃ name, id = .text name
  case pos =>
    obtain ⟨name, rfl⟩ := named
    rw [delete_text]
    cases found : memory.store.rule? name with
    | none =>
      simp only [Store.deleteRule, found, Except.map]
      exact refused_effect
    | some rule =>
      simp only [Store.deleteRule, found, Except.map]
      exact .deleted name
  case neg =>
    obtain ⟨failure, refused⟩ :=
      delete_other (fun name same => named ⟨name, same⟩) memory.issued memory.store
    rw [refused]
    exact refused_effect

/-- Creating a rule adds it; a refused owner has cost identifiers. -/
theorem create_effect (draft : RuleDraft) (givenOwner : Value) :
    Effect memory (.createRule draft givenOwner)
      (settle ((.showing ·.toList) <$> repository.createRule draft givenOwner) memory).1
      (settle ((.showing ·.toList) <$> repository.createRule draft givenOwner) memory).2 := by
  simp only [settle, repository, Act.map_apply, createRule]
  cases owned : owner givenOwner with
  | ok owner => exact .created draft owner
  | error failure =>
    exact .kept [] (memory.issued + 1 + GroupDraft.idCount draft.groups) (by omega) (by simp)

/-- How recording a log ends: its rule is not found, an earlier success cannot be looked for or is
found, or the log is appended. -/
inductive RecordCourse [IdSupply] (memory : Memory) (log : ActionLog) :
    EStateM.Result Failure Memory (Option ActionLog) → Prop where
  | unowned (missing : memory.store.rule? log.ruleId = none) :
      RecordCourse memory log (.error (.ruleNotFound (.text log.ruleId)) memory)
  | unordered (rule : Rule) (found : memory.store.rule? log.ruleId = some rule)
      (once : Store.isOnce log = true)
      (mixed : Timestamp.uniform (memory.store.logs.map (·.triggeredAt)) = false) :
      RecordCourse memory log (.error .mixedTimes memory)
  | repeated (rule : Rule) (found : memory.store.rule? log.ruleId = some rule)
      (once : Store.isOnce log = true)
      (ordered : Timestamp.uniform (memory.store.logs.map (·.triggeredAt)) = true)
      (before : memory.store.succeeded log.ruleId log.campaignId log.action = true) :
      RecordCourse memory log (.ok none memory)
  | appended (rule : Rule) (found : memory.store.rule? log.ruleId = some rule)
      (first : Store.isOnce log = true →
        Timestamp.uniform (memory.store.logs.map (·.triggeredAt)) = true ∧
          memory.store.succeeded log.ruleId log.campaignId log.action = false) :
      RecordCourse memory log
        (.ok (some ((memory.store.append memory.now rule
            (Store.identified memory.issued log)).decorate (Store.identified memory.issued log)))
          (memory.keep
            (memory.store.append memory.now rule (Store.identified memory.issued log))
            (Store.issuedAfter memory.issued log)))

/-- Recording takes one of these courses: the rule is missing, the times cannot be compared, the log
is a repetition, or it is stored and counted. -/
theorem record_course (log : ActionLog) :
    RecordCourse memory log (repository.record log memory) := by
  simp only [repository, change]
  cases found : memory.store.rule? log.ruleId with
  | none =>
    simp only [Store.record, found, throw, throwThe, MonadExceptOf.throw]
    exact .unowned found
  | some rule =>
    by_cases once : Store.isOnce log = true
    · cases ordered : Timestamp.uniform (memory.store.logs.map (·.triggeredAt)) with
      | false =>
        rw [Store.record_unordered memory.now memory.issued found once ordered]
        exact .unordered rule found once ordered
      | true =>
        cases before : memory.store.succeeded log.ruleId log.campaignId log.action with
        | true =>
          rw [Store.record_repeated memory.now memory.issued found once ordered before]
          exact .repeated rule found once ordered before
        | false =>
          rw [Store.record_new memory.now memory.issued found fun _ => ⟨ordered, before⟩]
          exact .appended rule found fun _ => ⟨ordered, before⟩
    · have unchecked := Store.record_new memory.now memory.issued found fun isOnce =>
        absurd isOnce once
      rw [unchecked]
      exact .appended rule found fun isOnce => absurd isOnce once

/-- However recording a log ended, it took one of the courses. -/
theorem RecordCourse.of_run {log : ActionLog}
    {result : EStateM.Result Failure Memory (Option ActionLog)}
    (ran : repository.record log memory = result) : RecordCourse memory log result :=
  ran ▸ record_course log

/-- Recording a log appends it, unless its rule is not found, an equal success is stored, or the
check for one fails. -/
theorem record_effect (log : ActionLog) :
    Effect memory (.record log) (settle ((⟨[], ·⟩) <$> repository.record log) memory).1
      (settle ((⟨[], ·⟩) <$> repository.record log) memory).2 := by
  simp only [settle, Act.map_apply]
  cases ran : repository.record log memory with
  | error failure after => cases RecordCourse.of_run ran <;> exact refused_effect
  | ok recorded after =>
    cases RecordCourse.of_run ran with
    | repeated rule found once ordered before => exact refused_effect
    | appended rule found first =>
      exact .recorded rule (Store.identified memory.issued log) _
        (Store.issued_after_le memory.issued log) found (fun isOnce => (first isOnce).2) rfl

/-- Switching a rule is a change of it, unless the switch is no flag. -/
theorem switch_effect (id isActive : Value) :
    Effect memory (.setActive id isActive)
      (settle ((.showing ·.toList) <$> repository.setActive id isActive) memory).1
      (settle ((.showing ·.toList) <$> repository.setActive id isActive) memory).2 := by
  unfold Repository.setActive
  cases checked : Repository.switchChange isActive with
  | valid change => exact update_effect id change checked
  | invalid issues => exact refused_effect

/-- Every call has one of the effects, the ones that only ask and the ones that fail included. The
cases are those of the calls. -/
theorem call_effect (call : Call) :
    Effect memory call (call.answer memory).1 (call.answer memory).2 := by
  cases call with
  | upsertCampaign snapshot => exact .measured snapshot
  | latestCampaign => exact silent_query_effect Store.latestCampaign
  | latestCampaignWithLogs limit =>
    obtain ⟨asked, same, _⟩ :=
      rechecked_limited "CampaignWithActions" SnapshotWithLogs.recheck limit
      Option.isSome fun bound store => store.latestCampaignWithLogs bound
    have effect : Effect memory (.latestCampaignWithLogs limit) _ _ := silent_query_effect asked
    rw [← same] at effect
    exact effect
  | createRule draft owner => exact create_effect draft owner
  | rule id limit =>
    obtain ⟨asked, same, answers⟩ := rechecked_limited "RuleWithLogs" RuleWithLogs.recheck limit
      Option.isSome fun bound store =>
        withId id (.ok none) fun name => store.ruleWithLogs name bound
    have shown : ∀ found, asked memory.store = .ok found →
        ∀ rule ∈ found.toList.map (·.rule), Shown memory.store rule := by
      intro found given rule member
      cases found with
      | none => simp at member
      | some again =>
        obtain ⟨bound, shown, answered, checked⟩ := answers memory.store again given
        obtain ⟨_, name, renamed⟩ := RuleWithLogs.recheck_valid checked
        obtain ⟨stored, inStore, counted⟩ := shown_stored id bound shown answered
        have same : rule = again.rule := by simpa using member
        exact ⟨stored, inStore, name, by rw [same, renamed, counted]⟩
    have effect : Effect memory (.rule id limit) _ _ := query_effect asked _ shown
    rw [← same] at effect
    exact effect
  | rules => exact query_effect Store.newestRules (fun listed => listed) listed_stored
  | updateRule id change => exact update_effect id change rfl
  | setActive id isActive => exact switch_effect id isActive
  | deleteRule id => exact delete_effect id
  | activeRules => exact silent_query_effect Store.activeRules
  | findLog ruleId campaignId action status =>
    exact silent_query_effect (Memory.findLog ruleId campaignId action status)
  | logs ruleId limit => exact silent_limited_effect limit _ _
  | record log => exact record_effect log
  | prepare => exact refused_effect

/-- Every call is a step. -/
theorem call_step (call : Call) : Step memory (call.answer memory).1 (call.answer memory).2 :=
  ⟨call, call_effect call⟩

/-! ## What holds of every history -/

/-- What holds of some logs and a memory, and is kept by the effect of every event of a history,
holds after them. The clock is set to the moment of each event. By induction on the history. -/
theorem run_from_induction {motive : List ActionLog → Memory → Prop} (history : List Event)
    (preserved : ∀ logs memory, ∀ event ∈ history, ∀ reply after, motive logs memory →
      Effect (memory.setClock event.moment) event.call reply after →
        motive (logs ++ reply.recorded.toList) after)
    (logs : List ActionLog) (memory : Memory) (initially : motive logs memory) :
    motive (logs ++ recordedFrom memory history) (runFrom memory history) := by
  induction history generalizing logs memory with
  | nil => simpa [recordedFrom, runFrom] using initially
  | cons event rest inductionHypothesis =>
    have effect : Effect (memory.setClock event.moment) event.call (event.answer memory).1
        (event.answer memory).2 := call_effect event.call
    have first := preserved logs memory event List.mem_cons_self _ _ initially effect
    have later := inductionHypothesis
      (fun logs memory other member => preserved logs memory other (List.mem_cons_of_mem _ member))
      _ _ first
    simpa [recordedFrom, runFrom] using later

/-- What holds of the empty memory, and of the logs recorded so far and the memory after every step
if before it, holds after every history. -/
theorem run_induction {motive : List ActionLog → Memory → Prop} (initially : motive [] start)
    (preserved : ∀ logs memory moment reply after, motive logs memory →
      Step (memory.setClock moment) reply after → motive (logs ++ reply.recorded.toList) after)
    (history : List Event) : motive (recorded history) (run history) := by
  have kept := run_from_induction history
    (fun logs memory event _ reply after holds effect =>
      preserved logs memory event.moment reply after holds ⟨event.call, effect⟩)
    [] start initially
  simpa [recorded, run] using kept

/-- Making calls one after the other is making the first ones and then the others. -/
theorem run_from_append (memory : Memory) (first second : List Event) :
    runFrom memory (first ++ second) = runFrom (runFrom memory first) second := by
  induction first generalizing memory with
  | nil => rfl
  | cons event rest inductionHypothesis => exact inductionHypothesis _

/-- One more event continues from the memory after a history. -/
theorem run_append (history : List Event) (event : Event) :
    run (history ++ [event]) = (event.answer (run history)).2 :=
  run_from_append start history [event]

/-- A call changes what is stored and not the moment of the use. -/
theorem Effect.now_eq {memory after : Memory} {call : Call} {reply : Reply}
    (effect : Effect memory call reply after) : after.now = memory.now := by
  cases effect <;> rfl

/-- The moments of a history are of universal time, so it ends at a time without an offset. -/
theorem run_naive (history : List Event) : (run history).now.isAware = false := by
  refine run_induction (motive := fun _ memory => memory.now.isAware = false) rfl ?_ history
  rintro _ memory moment reply after - ⟨call, effect⟩
  rw [effect.now_eq]
  rfl

/-- A rule that is shown with its count is stored after the call, and has as many logs then. -/
theorem Step.shown {reply : Reply} {after : Memory} (step : Step memory reply after) :
    ∀ rule ∈ reply.counted, Shown after.store rule := by
  obtain ⟨call, effect⟩ := step
  cases effect with
  | kept counted issued more shown => exact shown
  | measured snapshot => simp [Reply.other]
  | created draft owner =>
    intro rule member
    have stored : Rule.ofDraft memory.now memory.issued draft owner ∈
        (memory.store.createRule memory.now memory.issued draft owner).2.1.rules := by
      simp [Store.createRule]
    exact List.mem_singleton.mp member ▸ shown_counted stored
  | changed rule change found =>
    intro shown member
    exact List.mem_singleton.mp member ▸ shown_counted (Store.mem_put_rule_self found)
  | deleted id => simp [Reply.other]
  | recorded rule log issued more found first => simp

end Effects

/-! ## A sample

Two rules that are always triggered. The first pauses the campaign and has succeeded once; of the
two further attempts to record that one comes with an offset in its time. -/

/-- A rule that is triggered by every reading. -/
def alwaysDue (action : Action) : RuleDraft :=
  ⟨"Spending", none, action, none, true, [⟨.all, [⟨.spend, .atLeast, .zero⟩]⟩]⟩

/-- A reading of a campaign that has not run yet. -/
def unspent : Metrics := ⟨.zero, 0, 0, 0, 0, .zero, .zero, .zero, .zero⟩

/-- A success of the first rule. -/
def paused (triggeredAt : Timestamp) : ActionLog :=
  ⟨none, freshId 0, "summer", .pauseCampaign, defaultActionValue, .success, unspent, triggeredAt,
    none, none, none⟩

/-- Two rules are created, one after the other. Then three successes of the first are recorded, of
which the second has an offset and the others have none. -/
def sample : List Event :=
  [⟨0, .createRule (alwaysDue .pauseCampaign) .null⟩,
    ⟨1, .createRule (alwaysDue .sendNotification) .null⟩,
    ⟨2, .record (paused ⟨2, none⟩)⟩,
    ⟨3, .record (paused ⟨3, some 0⟩)⟩,
    ⟨4, .record (paused ⟨4, none⟩)⟩]

end AdRules.Memory
