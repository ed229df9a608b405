import AdRules.Proofs.Histories
import AdRules.Proofs.Keeping
import AdRules.Proofs.RuleTurn
import AdRules.Proofs.StoredRules

/-!
# Writes one by one

The repository gives every operation as one change of the store, so it cannot show an operation that
fails after it has begun to write. Here the operations are written out in steps, in the order in
which they are taken: identifiers are issued one at a time, every look at the store and every write
is a step of its own, and what was written before a failure stays. They are the same operations. A
failure leaves the store as it was because all that can fail comes before the first write.
-/

namespace AdRules.Memory

variable {α β : Type}

/-! ## Steps -/

/-- A look at the store. -/
def look (read : Store → α) : Act Memory α := fun memory => .ok (read memory.store) memory

/-- A single write, which cannot fail. What an operation wrote before it failed would stay written.
-/
def write (put : Store → Store) : Act Memory Unit := fun memory =>
  .ok () { memory with store := put memory.store }

/-- Looking at the store changes nothing. -/
@[simp] theorem look_apply (read : Store → α) (memory : Memory) :
    look read memory = .ok (read memory.store) memory := rfl

/-- A write changes the store and nothing else. -/
@[simp] theorem write_apply (put : Store → Store) (memory : Memory) :
    write put memory = .ok () (memory.keep (put memory.store) memory.issued) := rfl

/-- The clock shows the moment at which the memory is used. -/
@[simp] theorem clock_apply (memory : Memory) : clock memory = .ok memory.now memory := rfl

/-- The rule under an identifier as a caller gives it. -/
def sought (id : Value) : Act Memory Rule := do
  match ← Act.ofExcept (id? id) with
  | none => throw (.notFound id)
  | some name =>
    match ← look (·.rule? name) with
    | none => throw (.notFound id)
    | some rule => pure rule

/-- Under a text the rule that is stored there is found, or none. -/
theorem sought_text (memory : Memory) (name : String) :
    sought (.text name) memory =
      match memory.store.rule? name with
      | none => .error (.ruleNotFound (.text name)) memory
      | some rule => .ok rule memory := by
  simp only [sought, id?, Act.ofExcept, Act.pure_apply, Act.bind_apply, look_apply]
  cases memory.store.rule? name <;> rfl

/-- How looking for a rule ends: nothing can be looked up under the identifier, no rule is stored
under it, or one is. -/
inductive Search (memory : Memory) : Value → EStateM.Result Failure Memory Rule → Prop where
  | refused {id : Value} (failure : Failure) (unhashable : id? id = .error failure) :
      Search memory id (.error failure memory)
  | unnamed {id : Value} (nothing : id? id = .ok none) :
      Search memory id (.error (.notFound id) memory)
  | missing (name : String) (absent : memory.store.rule? name = none) :
      Search memory (.text name) (.error (.ruleNotFound (.text name)) memory)
  | found (rule : Rule) (stored : memory.store.rule? rule.id = some rule) :
      Search memory (.text rule.id) (.ok rule memory)

/-- Looking for a rule ends in one of the four ways. -/
theorem search (memory : Memory) (id : Value) : Search memory id (sought id memory) := by
  cases named : id? id with
  | error failure =>
    simp only [sought, Act.bind_apply, named]
    exact .refused failure named
  | ok name =>
    cases name with
    | none =>
      simp only [sought, Act.bind_apply, named]
      exact .unnamed named
    | some name =>
      obtain rfl := text_of_id named
      rw [sought_text]
      cases stored : memory.store.rule? name with
      | none => exact .missing name stored
      | some rule =>
        obtain rfl := Store.id_of_rule? stored
        exact .found rule stored

/-- However looking for a rule ended, it ended in one of these ways. -/
theorem Search.of_run {memory : Memory} {id : Value} {result : EStateM.Result Failure Memory Rule}
    (ran : sought id memory = result) : Search memory id result :=
  ran ▸ search memory id

/-- Looking for a rule changes nothing. -/
theorem search_keeps {memory after : Memory} {id : Value} {failure : Failure}
    (ran : sought id memory = .error failure after) : after = memory := by
  cases Search.of_run ran <;> rfl

/-- Where no rule is found, an operation on the rule fails in the same way. -/
theorem unfound {memory after : Memory} {id : Value} {failure : Failure}
    {found : String → Except Failure α} (ran : sought id memory = .error failure after)
    (absent : ∀ name, memory.store.rule? name = none →
      found name = .error (.ruleNotFound (.text name))) :
    withId id (.error (.notFound id)) found = .error failure := by
  cases Search.of_run ran with
  | refused failure unhashable =>
    rw [withId, unhashable]
    rfl
  | unnamed nothing =>
    rw [withId, nothing]
    rfl
  | missing name noRule => exact absent name noRule

section Steps

variable [IdSupply]

/-- The next identifier. -/
def issue : Act Memory String := fun memory =>
  .ok (freshId memory.issued) (memory.keep memory.store (memory.issued + 1))

/-- Taking an identifier changes only the count of them. -/
@[simp] theorem issue_apply (memory : Memory) :
    issue memory = .ok (freshId memory.issued) (memory.keep memory.store (memory.issued + 1)) := rfl

/-- The identifier that is given, or else the next one. -/
def givenOrIssued (id : Option String) : Act Memory String :=
  match givenId? id with
  | some id => pure id
  | none => issue

/-- The conditions of a group, numbered from `order`, each under the next identifier. -/
def buildConditions (groupId : String) : Nat → List ConditionDraft → Act Memory (List Condition)
  | _, [] => pure []
  | order, draft :: rest => do
    let id ← issue
    let others ← buildConditions groupId (order + 1) rest
    pure (⟨.text id, .text groupId, .known draft.metric, .known draft.comparison,
      .float draft.threshold, .int order⟩ :: others)

/-- The groups of a rule, numbered from `order`, each under the next identifier. -/
def buildGroups (ruleId : String) : Nat → List GroupDraft → Act Memory (List ConditionGroup)
  | _, [] => pure []
  | order, draft :: rest => do
    let id ← issue
    let conditions ← buildConditions id 0 draft.conditions
    let others ← buildGroups ruleId (order + 1) rest
    pure (⟨some id, some ruleId, .known draft.junction, order, conditions⟩ :: others)

/-! ## Operations in steps -/

/-- The identifier and the moment of creation of a row: those that it has, or its first ones. -/
def identity (now : Timestamp) (snapshot : Snapshot) :
    Option Snapshot → Act Memory (Option String × Option Timestamp)
  | some row => pure (row.id, row.createdAt)
  | none => (some ·, some now) <$> givenOrIssued snapshot.id

/-- Stores a reading. -/
def upsertInSteps (snapshot : Snapshot) : Act Memory Snapshot := do
  let now ← clock
  let existing ← look (·.campaign? snapshot.campaignId)
  let (id, createdAt) ← identity now snapshot existing
  let stored := { snapshot with id := id, createdAt := createdAt, updatedAt := some now }
  write (·.putCampaign stored)
  pure stored

/-- Stores a new rule. -/
def createInSteps (draft : RuleDraft) (givenOwner : Value) : Act Memory (Option Rule) := do
  let id ← issue
  let now ← clock
  let groups ← buildGroups id 0 draft.groups
  let owner ← Act.ofExcept (owner givenOwner)
  let rule : Rule := ⟨draft.name, draft.description, draft.action, draft.actionValue, id,
    draft.isActive, 0, none, owner, some now, some now, groups, none⟩
  write fun store => { store with rules := store.rules ++ [rule] }
  some <$> look (·.withCount rule)

/-- The groups of a changed rule: new ones, or those that it has. -/
def renewedGroups (rule : Rule) : Option (List GroupDraft) → Act Memory (List ConditionGroup)
  | some groups => buildGroups rule.id 0 groups
  | none => pure rule.groups

/-- Changes a rule. Its new groups are built before anything is written, and the rule is written
once. -/
def updateInSteps (id : Value) (change : RuleChange) : Act Memory (Option Rule) := do
  let rule ← sought id
  let groups ← renewedGroups rule change.groups
  let now ← clock
  let changed := { rule with
    name := change.name.getD rule.name
    description := change.description <|> rule.description
    action := change.action.getD rule.action
    actionValue := change.actionValue <|> rule.actionValue
    isActive := change.isActive.getD rule.isActive
    groups := groups
    updatedAt := some now }
  write (·.putRule changed)
  some <$> look (·.withCount changed)

/-- The rule that is to be removed. Nothing is looked up where there are no rules. -/
def soughtToRemove (id : Value) : Act Memory Rule := do
  let none ← look (·.rules.isEmpty)
  if none then throw (.notFound id) else sought id

/-- Removes a rule, then its logs. Nothing that may fail stands between the two writes. -/
def deleteInSteps (id : Value) : Act Memory Unit := do
  let rule ← soughtToRemove id
  write fun store => { store with rules := store.rules.filter (·.id != rule.id) }
  write fun store => { store with logs := store.logs.filter (·.ruleId != rule.id) }

/-- Appends a log, then counts it for its rule. Nothing that may fail stands between the two writes.
-/
def appendInSteps (rule : Rule) (log : ActionLog) : Act Memory (Option ActionLog) := do
  let id ← givenOrIssued log.id
  let stored := { log with id := some id }
  write fun store => { store with logs := store.logs ++ [stored] }
  let now ← clock
  write (·.putRule (rule.triggered log.triggeredAt now))
  some <$> look (·.decorate stored)

/-- The log may be recorded only once and has been. -/
def isRepetition (log : ActionLog) : Act Memory Bool :=
  if Store.isOnce log then query (·.hasSuccess log) else pure false

/-- Records an execution, unless it is one that may be recorded only once and has been. -/
def recordInSteps (log : ActionLog) : Act Memory (Option ActionLog) := do
  let rule ← sought (.text log.ruleId)
  if ← isRepetition log then pure none else appendInSteps rule log

/-- The repository whose writes are made one by one, in the order in which the store makes them.
Nothing is taken back here, so that a failure between two writes would be seen. -/
def stepwise : Repository Memory :=
  { repository with
    upsertCampaign := upsertInSteps
    createRule := createInSteps
    updateRule := updateInSteps
    deleteRule := deleteInSteps
    record := recordInSteps }

/-! ## The same operations -/

variable {memory : Memory}

/-- An identifier that is given is taken as it is; otherwise the next one is, and only then the
count goes up. -/
theorem given_or_issued (id : Option String) :
    givenOrIssued id memory = .ok ((givenId? id).getD (freshId memory.issued))
      (memory.keep memory.store
        (if (givenId? id).isSome then memory.issued else memory.issued + 1)) := by
  unfold givenOrIssued
  cases givenId? id <;> rfl

/-- Conditions are built with the identifiers that follow. By induction on the drafts. -/
theorem build_conditions (groupId : String) (order : Nat) (drafts : List ConditionDraft)
    (memory : Memory) : buildConditions groupId order drafts memory =
      .ok (Condition.ofDrafts groupId order memory.issued drafts)
        (memory.keep memory.store (memory.issued + drafts.length)) := by
  induction drafts generalizing order memory with
  | nil => rfl
  | cons draft rest inductionHypothesis =>
    simp only [buildConditions, Act.bind_apply, issue_apply, inductionHypothesis, Act.pure_apply,
      Condition.ofDrafts, List.length_cons]
    rw [show memory.issued + (rest.length + 1) = memory.issued + 1 + rest.length by omega]
    rfl

/-- Groups are built with the identifiers that follow, each before its conditions. By induction on
the drafts. -/
theorem build_groups (ruleId : String) (order : Nat) (drafts : List GroupDraft) (memory : Memory) :
    buildGroups ruleId order drafts memory =
      .ok (ConditionGroup.ofDrafts ruleId order memory.issued drafts)
        (memory.keep memory.store (memory.issued + GroupDraft.idCount drafts)) := by
  induction drafts generalizing order memory with
  | nil => rfl
  | cons draft rest inductionHypothesis =>
    simp only [buildGroups, Act.bind_apply, issue_apply, build_conditions, inductionHypothesis,
      Act.pure_apply, ConditionGroup.ofDrafts, GroupDraft.idCount]
    rw [show memory.issued + (1 + draft.conditions.length + GroupDraft.idCount rest) =
      memory.issued + 1 + draft.conditions.length + GroupDraft.idCount rest by omega]
    rfl

/-- Storing a reading in steps is what the repository does at once. -/
theorem upsert_in_steps (snapshot : Snapshot) :
    upsertInSteps snapshot = repository.upsertCampaign snapshot := by
  funext memory
  simp only [upsertInSteps, repository, change, Store.upsert, Act.bind_apply, clock_apply,
    look_apply]
  cases memory.store.campaign? snapshot.campaignId with
  | some row => rfl
  | none =>
    simp only [identity, Act.map_apply, given_or_issued]
    rfl

/-- Creating a rule in steps is what the repository does at once, also where the owner is refused
and identifiers have been taken in vain. -/
theorem create_in_steps (draft : RuleDraft) (givenOwner : Value) :
    createInSteps draft givenOwner = repository.createRule draft givenOwner := by
  funext memory
  simp only [createInSteps, repository, createRule, Act.bind_apply, issue_apply, clock_apply,
    build_groups]
  cases owner givenOwner <;> rfl

/-- Changing a stored rule. -/
theorem update_found {rule : Rule} (stored : memory.store.rule? rule.id = some rule)
    (change : RuleChange) :
    repository.updateRule (.text rule.id) change memory =
      .ok (some (memory.store.withCount (change.apply memory.now memory.issued rule)))
        (memory.keep (memory.store.putRule (change.apply memory.now memory.issued rule))
          (memory.issued + change.idCount)) := by
  simp only [repository, Memory.change, withId, id?, bind, Except.bind, Store.updateRule, stored,
    Except.map]
  rfl

/-- Changing a rule in steps is what the repository does at once, for every identifier that a caller
may give, found or not. -/
theorem update_in_steps (id : Value) (change : RuleChange) :
    updateInSteps id change = repository.updateRule id change := by
  funext memory
  simp only [updateInSteps, Act.bind_apply]
  cases ran : sought id memory with
  | error failure after =>
    obtain rfl := search_keeps ran
    simp only [repository, Memory.change]
    rw [unfound ran]
    intro name noRule
    simp only [Store.updateRule, noRule, Except.map]
  | ok rule after =>
    cases Search.of_run ran with
    | found rule stored =>
      rw [update_found stored]
      cases given : change.groups with
      | none =>
        simp only [RuleChange.apply, RuleChange.idCount, given]
        rfl
      | some groups =>
        simp only [RuleChange.apply, RuleChange.idCount, given, renewedGroups, build_groups]
        rfl

/-- Deleting in steps is what the repository does at once: the rule first, then its logs. Where
there are no rules, nothing is looked up in either. -/
theorem delete_in_steps (id : Value) : deleteInSteps id = repository.deleteRule id := by
  funext memory
  simp only [deleteInSteps, soughtToRemove, repository, Memory.change, deleteRule,
    Act.bind_apply, look_apply]
  by_cases none : memory.store.rules.isEmpty = true
  case pos =>
    simp only [if_pos none]
    rfl
  case neg =>
    simp only [if_neg none]
    cases ran : sought id memory with
    | error failure after =>
      obtain rfl := search_keeps ran
      rw [unfound ran]
      intro name noRule
      simp only [Store.deleteRule, noRule, Except.map]
    | ok rule after =>
      cases Search.of_run ran with
      | found rule stored =>
        simp only [withId, id?, bind, Except.bind, Store.deleteRule, stored, Except.map]
        rfl

/-- Appending a log in steps: it gets its identifier, is stored, and is counted for its rule. -/
theorem append_in_steps (rule : Rule) (log : ActionLog) :
    appendInSteps rule log memory =
      .ok (some ((memory.store.append memory.now rule
          (Store.identified memory.issued log)).decorate (Store.identified memory.issued log)))
        (memory.keep (memory.store.append memory.now rule (Store.identified memory.issued log))
          (Store.issuedAfter memory.issued log)) := by
  simp only [appendInSteps, Act.bind_apply, given_or_issued]
  rfl

/-- Recording in steps is what the repository does at once, in each of its courses. -/
theorem record_in_steps (log : ActionLog) : recordInSteps log = repository.record log := by
  funext memory
  have course : RecordCourse memory log (repository.record log memory) := record_course log
  generalize repository.record log memory = result at course ⊢
  simp only [recordInSteps, isRepetition, Act.bind_apply, sought_text]
  cases course with
  | unowned missing => simp only [missing]
  | unordered rule found once mixed =>
    simp [found, once, query, Store.has_success_eq, mixed]
  | repeated rule found once ordered before =>
    simp [found, once, query, Store.has_success_eq, ordered, before]
  | appended rule found first =>
    by_cases once : Store.isOnce log = true
    · obtain ⟨ordered, new⟩ := first once
      simp [found, once, query, Store.has_success_eq, ordered, new, append_in_steps]
    · simp [found, once, append_in_steps]

/-- The repository in steps is the repository. So what a failure between two writes would leave can
be asked of either. -/
theorem stepwise_eq : stepwise = repository := by
  simp only [stepwise, funext upsert_in_steps, funext fun draft => funext (create_in_steps draft),
    funext fun id => funext (update_in_steps id), funext delete_in_steps, funext record_in_steps]

/-! ## Failing before writing -/

/-- The operation leaves the store as it is. -/
def Reads (action : Act Memory α) : Prop := ∀ store, action.Preserves (·.store = store)

/-- If the operation fails, it leaves the store as it was. Identifiers that it has issued stay
issued. -/
def AllOrNothing (action : Act Memory α) : Prop :=
  ∀ memory failure after, action memory = .error failure after → after.store = memory.store

section Failing

omit [IdSupply]

/-- What only reads changes nothing, whether or not it fails. -/
theorem AllOrNothing.of_reads {action : Act Memory α} (reads : Reads action) :
    AllOrNothing action := by
  intro memory failure after ran
  have kept : (action.stateAfter memory).store = memory.store :=
    (reads memory.store).state_after rfl
  rwa [Act.state_after_error ran] at kept

/-- What never fails leaves nothing half done. -/
theorem AllOrNothing.of_responds {action : Act Memory α} (responds : action.Responds) :
    AllOrNothing action := by
  intro memory failure after ran
  obtain ⟨value, _, answered⟩ := responds memory
  rw [ran] at answered
  cases answered

/-- What comes before may fail as long as it only reads. -/
theorem AllOrNothing.after {first : Act Memory α} {next : α → Act Memory β} (reads : Reads first)
    (rest : ∀ value, AllOrNothing (next value)) : AllOrNothing (first >>= next) := by
  intro memory failure after ran
  rw [Act.bind_apply] at ran
  cases read : first memory with
  | error earlier between =>
    rw [read] at ran
    cases ran
    exact AllOrNothing.of_reads reads memory failure after read
  | ok value between =>
    rw [read] at ran
    have kept : (first.stateAfter memory).store = memory.store :=
      (reads memory.store).state_after rfl
    rw [Act.state_after_ok read] at kept
    exact (rest value between failure after ran).trans kept

/-- Converting the result of an operation leaves it as whole as it was. -/
theorem AllOrNothing.map {action : Act Memory α} (convert : α → β) (whole : AllOrNothing action) :
    AllOrNothing (convert <$> action) := by
  intro memory failure after ran
  rw [Act.map_apply] at ran
  cases ended : action memory with
  | ok value _ =>
    rw [ended] at ran
    cases ran
  | error earlier _ =>
    rw [ended] at ran
    cases ran
    exact whole memory failure after ended

/-- Looking at the store only reads. -/
theorem reads_look (read : Store → α) : Reads (look read) := fun _ _ held => ⟨trivial, held⟩

/-- Reading the clock only reads. -/
theorem reads_clock : Reads clock := fun _ _ held => ⟨trivial, held⟩

/-- A query only reads, also when it fails. -/
theorem reads_query (ask : Store → Except Failure α) : Reads (query ask) := by
  intro store memory held
  unfold query
  cases ask memory.store with
  | ok value => exact ⟨trivial, held⟩
  | error failure => exact held

/-- So does a query within a limit, whatever shape the limit has. -/
theorem reads_limited (limit : Value) (applies : α → Bool)
    (ask : Limit → Store → Except Failure α) : Reads (limited limit applies ask) := by
  unfold limited
  cases limit? limit with
  | some bound => exact reads_query _
  | none => exact reads_query _

/-- Checking an answer once more only reads. -/
theorem reads_rechecked {model : String} {recheck : α → Checked α}
    {asked : Act Memory (Option α)} (reads : Reads asked) :
    Reads (rechecked model recheck asked) := by
  intro store
  refine .bind (reads store) fun found => ?_
  cases found with
  | none => exact .pure none
  | some shown => exact .map _ (.of_checked _ _)

/-- Looking for a rule only reads, however it ends. -/
theorem reads_sought (id : Value) : Reads (sought id) := by
  intro store
  refine .bind (.of_except _) fun name => ?_
  cases name with
  | none => exact .throw _
  | some name =>
    refine .bind (reads_look _ store) fun found => ?_
    cases found with
    | none => exact .throw _
    | some rule => exact .pure rule

/-- Looking for a rule that is to be removed only reads, however it ends. -/
theorem reads_sought_to_remove (id : Value) : Reads (soughtToRemove id) := by
  intro store
  refine .bind (reads_look _ store) fun none => ?_
  split
  case isTrue => exact .throw _
  case isFalse => exact reads_sought id store

/-- A write does not fail. -/
theorem write_responds (put : Store → Store) : (write put).Responds :=
  fun memory => ⟨_, _, write_apply put memory⟩

/-- Looking at the store does not fail. -/
theorem look_responds (read : Store → α) : (look read).Responds :=
  fun memory => ⟨_, _, look_apply read memory⟩

end Failing

/-- Taking an identifier leaves the store as it is. -/
theorem reads_issue : Reads issue := fun _ _ held => ⟨trivial, held⟩

/-- Taking an identifier only where none is given leaves the store as it is. -/
theorem reads_given_or_issued (id : Option String) : Reads (givenOrIssued id) := by
  intro store memory held
  rw [given_or_issued]
  exact ⟨trivial, held⟩

/-- Building groups leaves the store as it is, because it only takes identifiers. -/
theorem reads_build_groups (ruleId : String) (drafts : List GroupDraft) :
    Reads (buildGroups ruleId 0 drafts) := by
  intro store memory held
  rw [build_groups]
  exact ⟨trivial, held⟩

/-! ## The operations of the repository -/

/-- Storing a reading cannot fail at all. -/
theorem upsert_all_or_nothing (snapshot : Snapshot) :
    AllOrNothing (repository.upsertCampaign snapshot) := by
  rw [← upsert_in_steps]
  refine .after reads_clock fun now => ?_
  refine .after (reads_look _) fun existing => ?_
  refine .after ?_ fun identity => ?_
  · cases existing with
    | some row => exact fun _ => .pure _
    | none => exact fun store => .map _ (reads_given_or_issued snapshot.id store)
  · exact .of_responds (.bind (write_responds _) fun _ => .pure _)

/-- Creating a rule fails only before its one write, when the owner is refused. -/
theorem create_all_or_nothing (draft : RuleDraft) (givenOwner : Value) :
    AllOrNothing (repository.createRule draft givenOwner) := by
  rw [← create_in_steps]
  refine .after reads_issue fun id => ?_
  refine .after reads_clock fun now => ?_
  refine .after (reads_build_groups id draft.groups) fun groups => ?_
  refine .after (fun _ => .of_except _) fun owner => ?_
  exact .of_responds (.bind (write_responds _) fun _ => .map _ (look_responds _))

/-- Changing a rule fails only before its one write, when the rule is not found. -/
theorem update_all_or_nothing (id : Value) (change : RuleChange) :
    AllOrNothing (repository.updateRule id change) := by
  rw [← update_in_steps]
  refine .after (reads_sought id) fun rule => ?_
  refine .after ?_ fun groups => ?_
  · cases change.groups with
    | some groups => exact reads_build_groups rule.id groups
    | none => exact fun _ => .pure _
  · refine .after reads_clock fun now => ?_
    exact .of_responds (.bind (write_responds _) fun _ => .map _ (look_responds _))

/-- Switching a rule is changing it, after a check that touches nothing. -/
theorem switch_all_or_nothing (id isActive : Value) :
    AllOrNothing (repository.setActive id isActive) := by
  refine .after (fun _ => .of_checked _ _) fun change => ?_
  exact update_all_or_nothing id change

/-- Deleting fails only before its first write. Between its two writes nothing can fail. -/
theorem delete_all_or_nothing (id : Value) : AllOrNothing (repository.deleteRule id) := by
  rw [← delete_in_steps]
  refine .after (reads_sought_to_remove id) fun rule => ?_
  exact .of_responds (.bind (write_responds _) fun _ => write_responds _)

/-- Recording fails only before its first write: the rule is not found, or the times of the logs
cannot be compared. -/
theorem record_all_or_nothing (log : ActionLog) : AllOrNothing (repository.record log) := by
  rw [← record_in_steps]
  refine .after (reads_sought _) fun rule => ?_
  refine .after ?_ fun repeated => ?_
  · by_cases once : Store.isOnce log = true
    · rw [isRepetition, if_pos once]
      exact reads_query _
    · rw [isRepetition, if_neg once]
      exact fun _ => .pure false
  · by_cases repetition : repeated = true
    · rw [if_pos repetition]
      exact .of_responds (.pure none)
    · rw [if_neg repetition]
      refine .after (reads_given_or_issued log.id) fun id => ?_
      -- From the first write on nothing can fail any more.
      refine .of_responds (.bind (write_responds _) fun _ => ?_)
      refine .bind (fun memory => ⟨_, _, clock_apply memory⟩) fun now => ?_
      exact .bind (write_responds _) fun _ => .map _ (look_responds _)

/-! ## Every call -/

/-- No call that fails has changed what is stored. -/
theorem call_all_or_nothing (call : Call) : AllOrNothing call.perform := by
  cases call with
  | upsertCampaign snapshot => exact (upsert_all_or_nothing snapshot).map _
  | createRule draft owner => exact (create_all_or_nothing draft owner).map _
  | updateRule id change => exact (update_all_or_nothing id change).map _
  | setActive id isActive => exact (switch_all_or_nothing id isActive).map _
  | deleteRule id => exact (delete_all_or_nothing id).map _
  | record log => exact (record_all_or_nothing log).map _
  | latestCampaign => exact (AllOrNothing.of_reads (reads_query _)).map _
  | latestCampaignWithLogs limit =>
    exact (AllOrNothing.of_reads (reads_rechecked (reads_limited limit _ _))).map _
  | rule id limit => exact (AllOrNothing.of_reads (reads_rechecked (reads_limited limit _ _))).map _
  | rules => exact (AllOrNothing.of_reads (reads_query _)).map _
  | activeRules => exact (AllOrNothing.of_reads (reads_query _)).map _
  | findLog ruleId campaignId action status =>
    exact (AllOrNothing.of_reads (reads_query _)).map _
  | logs ruleId limit => exact (AllOrNothing.of_reads (reads_limited limit _ _)).map _
  | prepare => exact (AllOrNothing.of_responds (.pure ())).map _

/-- One log is appended, under its identifier or a new one, and the one rule that it belongs to is
counted up; it is returned as it is read. -/
structure Logged (memory : Memory) (log stored : ActionLog) (after : Memory) : Prop where
  campaigns : after.store.campaigns = memory.store.campaigns
  logs : after.store.logs = memory.store.logs ++ [Store.identified memory.issued log]
  rules : ∃ earlier rule later, memory.store.rules = earlier ++ rule :: later ∧
    rule.id = log.ruleId ∧
    after.store.rules = earlier ++ rule.triggered log.triggeredAt memory.now :: later
  shown : stored = after.store.decorate (Store.identified memory.issued log)

/-- An execution that is recorded is in the store afterwards, with its log appended and counted in
one. -/
theorem record_logged (numbered : memory.store.Numbered memory.issued) {log stored : ActionLog}
    {after : Memory} (ran : repository.record log memory = .ok (some stored) after) :
    Logged memory log stored after := by
  cases RecordCourse.of_run ran with
  | appended rule found first =>
    let logged : Store :=
      { memory.store with logs := memory.store.logs ++ [Store.identified memory.issued log] }
    have distinct : (logged.rules.map (·.id)).Nodup := numbered.distinct
    have inStore : rule ∈ logged.rules := Store.mem_of_rule? found
    have sameId : (rule.triggered log.triggeredAt memory.now).id = rule.id := rfl
    obtain ⟨earlier, later, split, put⟩ := Store.put_rule_around distinct inStore sameId
    exact ⟨rfl, rfl, ⟨earlier, rule, later, split, Store.id_of_rule? found,
      congrArg Store.rules put⟩, rfl⟩

/-- After every history, whatever is called: the repository does as it does in single steps; a call
that fails leaves campaigns, rules and logs as they were, in their order; so does recording a log
that is not recorded, and one that is recorded is appended and counted for its rule alone. -/
theorem failed_calls_change_nothing (history : List Event) (moment : Int) :
    let memory := (run history).setClock moment
    stepwise = repository ∧
      (∀ (call : Call) failure after, call.perform memory = .error failure after →
        after.store = memory.store) ∧
      (∀ log after, repository.record log memory = .ok none after →
        after.store = memory.store) ∧
      ∀ log stored after, repository.record log memory = .ok (some stored) after →
        Logged memory log stored after := by
  intro memory
  have numbered : memory.store.Numbered memory.issued := run_numbered history
  refine ⟨stepwise_eq, ?_, ?_, ?_⟩
  · intro call failure after ran
    exact call_all_or_nothing call memory failure after ran
  · intro log after ran
    cases RecordCourse.of_run ran with
    | repeated rule found once ordered before => rfl
  · intro log stored after ran
    exact record_logged numbered ran

end Steps

/-- A rule whose action has failed twice, by clocks that cannot be compared. -/
def failedTwice : List Event :=
  [⟨0, .createRule (alwaysDue .pauseCampaign) .null⟩,
    ⟨1, .record { paused ⟨1, none⟩ with status := .failed }⟩,
    ⟨2, .record { paused ⟨2, some 0⟩ with status := .failed }⟩]

/-- With logs whose clocks cannot be compared a success cannot be told from a repetition, so
recording one fails and leaves the store as it was. One more failure is recorded all the same, as it
is appended and counted without a comparison. -/
theorem sample_failed_call :
    let memory := (run failedTwice).setClock 3
    let again : ActionLog := { paused ⟨3, none⟩ with status := .failed }
    (run failedTwice).store.logs.length = 2 ∧
      (∃ after, (Call.record (paused ⟨3, none⟩)).perform memory = .error .mixedTimes after ∧
        after.store = memory.store) ∧
      ∃ stored after, repository.record again memory = .ok (some stored) after ∧
        Logged memory again stored after := by
  intro memory again
  obtain ⟨_, failing, _, recording⟩ := failed_calls_change_nothing failedTwice 3
  have mixed : (Call.record (paused ⟨3, none⟩)).perform memory = .error .mixedTimes memory := rfl
  exact ⟨by decide +kernel, ⟨_, mixed, failing _ _ _ mixed⟩, _, _, rfl, recording again _ _ rfl⟩

end AdRules.Memory
