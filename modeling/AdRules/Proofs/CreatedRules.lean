import AdRules.Database.Repository
import AdRules.Evaluation
import AdRules.Proofs.Connections
import AdRules.Proofs.KeptRows
import AdRules.Proofs.Outcomes
import AdRules.Store.Memory

/-!
# Created rules in both stores

A rule that is created in the database is inserted row by row and read back from what was stored.
Where the database keeps what it is given and puts rows in the order that is asked for, the rule
that is read back is the one that the store in memory builds from the same draft with the same
identifiers, and both are triggered as the draft says.
-/

namespace AdRules.Database

/-! ## Writing -/

/-- A server that accepts statements one after the other accepts the first of them, and after those
the others. -/
theorem Server.Accepts.append {server : Server} {trace : List Event}
    {first second : List Statement} (accepts : server.Accepts trace (first ++ second)) :
    server.Accepts trace first ∧ server.Accepts (trace ++ first.map .execute) second := by
  induction first generalizing trace with
  | nil => exact ⟨trivial, by simpa using accepts⟩
  | cons statement rest inductionHypothesis =>
    obtain ⟨accepted, later⟩ := accepts
    obtain ⟨own, others⟩ := inductionHypothesis later
    exact ⟨⟨accepted, own⟩, by simpa using others⟩

section Writing

variable [IdSupply]

/-- An accepted statement about a new identifier takes that one and leads on. -/
theorem issue_execute_apply {α : Type} {link : Link} {reply : Reply}
    (statement : String → Statement) (next : String → Act Link α)
    (accepted : link.server.execute link.trace (statement (freshId link.issued)) = .ok reply) :
    (issueId >>= fun id => execute (statement id) >>= fun _ => next id) link =
      next (freshId link.issued)
        (link.after [.execute (statement (freshId link.issued))] (link.issued + 1)) := by
  let named : Link := { link with issued := link.issued + 1 }
  have executed : execute (statement (freshId link.issued)) named =
      .ok reply (named.after [.execute (statement (freshId link.issued))] named.issued) :=
    execute_accepted accepted
  simp only [Act.bind_apply, issueId]
  rw [executed]
  rfl

/-- Conditions are inserted by their statements; each takes an identifier. -/
theorem insert_conditions_run (groupId : String) (order : Nat) (drafts : List ConditionDraft)
    (link : Link)
    (accepts : link.server.Accepts link.trace (conditionInserts groupId order link.issued drafts)) :
    insertConditions groupId order drafts link =
      .ok () (link.after ((conditionInserts groupId order link.issued drafts).map .execute)
        (link.issued + drafts.length)) := by
  induction drafts generalizing order link with
  | nil => simp [insertConditions, conditionInserts, Link.after]
  | cons draft rest inductionHypothesis =>
    obtain ⟨⟨reply, accepted⟩, later⟩ := accepts
    have rested := inductionHypothesis (order + 1) (link.after
      [.execute (.insertCondition (freshId link.issued) groupId draft order)] (link.issued + 1))
      later
    have counted : link.issued + 1 + rest.length = link.issued + (rest.length + 1) := by omega
    rw [insertConditions, issue_execute_apply (fun id => .insertCondition id groupId draft order)
      (fun _ => insertConditions groupId (order + 1) rest) accepted, rested, Link.after_after]
    simp only [Link.after, counted, List.length_cons]
    rfl

/-- Groups are inserted by their statements with their conditions, provided that the server accepts
these. By induction on the groups. -/
theorem insert_groups_run (ruleId : String) (order : Nat) (drafts : List GroupDraft) (link : Link)
    (accepts : link.server.Accepts link.trace (groupInserts ruleId order link.issued drafts)) :
    insertGroups (.text ruleId) order drafts link =
      .ok () (link.after ((groupInserts ruleId order link.issued drafts).map .execute)
        (link.issued + GroupDraft.idCount drafts)) := by
  induction drafts generalizing order link with
  | nil => simp [insertGroups, groupInserts, Link.after, GroupDraft.idCount]
  | cons draft rest inductionHypothesis =>
    obtain ⟨⟨reply, accepted⟩, later⟩ := accepts
    obtain ⟨ownConditions, others⟩ := later.append
    let group := link.after
      [.execute (.insertGroup (freshId link.issued) (.text ruleId) draft.junction order)]
      (link.issued + 1)
    have filled := insert_conditions_run (freshId link.issued) 0 draft.conditions group
      ownConditions
    have rested := inductionHypothesis (order + 1)
      (group.after ((conditionInserts (freshId link.issued) 0 group.issued draft.conditions).map
        .execute) (group.issued + draft.conditions.length)) others
    have counted : link.issued + 1 + draft.conditions.length + GroupDraft.idCount rest =
        link.issued + (1 + draft.conditions.length + GroupDraft.idCount rest) := by omega
    -- A group's conditions are inserted before the next group, so that one is issued its identifier
    -- only after theirs.
    rw [insertGroups, issue_execute_apply
      (fun id => .insertGroup id (.text ruleId) draft.junction order) (fun id => do
        insertConditions id 0 draft.conditions
        insertGroups (.text ruleId) (order + 1) rest) accepted, Act.bind_apply, filled]
    simp only [rested, Link.after_after]
    simp only [Link.after, group, counted, GroupDraft.idCount, groupInserts, List.map_cons,
      List.map_append, List.append_assoc, List.cons_append, List.nil_append]

end Writing

/-- A new rule is written in one transaction, which is committed because the server keeps what is
written to it. -/
theorem write_run [IdSupply] {address : String} {draft : RuleDraft} {owner : Value} {link : Link}
    (keeps : link.server.Keeps address link.trace (ruleInserts link.issued draft owner)) :
    transaction address (do
      let _ ← execute (.insertRule (freshId link.issued) draft owner)
      insertGroups (.text (freshId link.issued)) 0 draft.groups
      pure (some ())) { link with issued := link.issued + 1 } =
      .ok (some ()) (link.after (writing address (ruleInserts link.issued draft owner))
        (link.issued + 1 + GroupDraft.idCount draft.groups)) := by
  obtain ⟨⟨reply, accepted⟩, later⟩ := keeps.accepts
  let insertion := Event.execute (.insertRule (freshId link.issued) draft owner)
  let opened := link.after [.connect address] (link.issued + 1)
  let started := link.after [.connect address, insertion] (link.issued + 1)
  let written := link.after
    (.connect address :: (ruleInserts link.issued draft owner).map .execute)
    (link.issued + 1 + GroupDraft.idCount draft.groups)
  have inserted : execute (.insertRule (freshId link.issued) draft owner) opened =
      .ok reply started :=
    (execute_accepted accepted).trans (congrArg _ (Link.after_after _ _ _ _ _))
  have rest : started.server.Accepts started.trace
      (groupInserts (freshId link.issued) 0 started.issued draft.groups) := by
    simpa [started, Link.after, insertion] using later
  have filled : insertGroups (.text (freshId link.issued)) 0 draft.groups started =
      .ok () written :=
    (insert_groups_run (freshId link.issued) 0 draft.groups started rest).trans
      (congrArg _ (Link.after_after _ _ _ _ _))
  have sent : (do
      let _ ← execute (.insertRule (freshId link.issued) draft owner)
      insertGroups (.text (freshId link.issued)) 0 draft.groups
      pure (some ()) : Act Link (Option Unit)) opened = .ok (some ()) written := by
    simp only [Act.bind_apply, inserted, filled, Act.pure_apply]
  let named : Link := { link with issued := link.issued + 1 }
  have opens : named.server.connect named.trace = .ok () := keeps.opens
  exact (transaction_apply opens sent keeps.commits).trans
    (congrArg _ (Link.after_after _ _ _ _ _))

/-! ## Reading back -/

/-- The groups of a new rule are stored as they are built: sound drafts give groups that are found
again by their rule and their position. -/
theorem built_groups_stored [IdSupply] (ruleId : String) (issued : Nat) {drafts : List GroupDraft}
    (sound : ∀ draft ∈ drafts, draft.Sound) :
    StoredGroups ruleId (ConditionGroup.ofDrafts ruleId 0 issued drafts) := by
  have listed : ∀ group ∈ ConditionGroup.ofDrafts ruleId 0 issued drafts,
      ∀ id ∈ group.identifiers, ∃ content, id = .text content := by
    intro group member id own
    have issuedId : id ∈ issuedIds issued (GroupDraft.idCount drafts) :=
      group_ids ruleId 0 issued drafts ▸ List.mem_flatMap.mpr ⟨group, member, own⟩
    obtain ⟨number, _, _, same⟩ := mem_issued_ids.mp issuedId
    exact ⟨freshId number, same⟩
  refine ⟨?_, ?_, ?_, group_ids_nodup ruleId 0 issued drafts⟩
  · intro position group placed
    have inRule := groups_sound ruleId 0 issued drafts sound position group placed
    rwa [Nat.zero_add] at inRule
  · intro group member
    obtain ⟨content, same⟩ := listed group member _ List.mem_cons_self
    cases named : group.id with
    | none =>
      rw [named] at same
      cases same
    | some id => exact ⟨id, rfl⟩
  · intro group member condition inGroup
    exact listed group member _ (List.mem_cons_of_mem _ (List.mem_map_of_mem inGroup))

/-- Every row belongs to one of some parents, so none is left out. -/
theorem all_under {α : Type} {link : String} {parents : List Value} {row : α → Row}
    {items : List α} (under : ∀ item ∈ items, (row item).isUnder link parents = true) :
    (items.map row).filter (Row.isUnder link parents) = items.map row := by
  rw [List.filter_eq_self]
  intro shown member
  obtain ⟨item, listed, rfl⟩ := List.mem_map.mp member
  exact under item listed

/-- A query whose reply has rows gives them all. -/
theorem rows_of_apply {link : Link} {query : Statement} {reply : Reply} {shown : List Fields}
    (answered : link.server.execute link.trace query = .ok reply)
    (rows : reply.rows = .ok shown) :
    rowsOf query link = .ok shown (link.after [.execute query] link.issued) := by
  simp only [rowsOf, Act.bind_apply, execute_accepted answered, Reply.fetchAll, rows,
    Act.pure_apply]

/-- A query whose reply has one row gives that row. -/
theorem first_row_apply {link : Link} {query : Statement} {reply : Reply} {shown : Fields}
    (answered : link.server.execute link.trace query = .ok reply)
    (rows : reply.rows = .ok [shown]) :
    firstRowOf query link = .ok (some shown) (link.after [.execute query] link.issued) := by
  simp only [firstRowOf, Act.bind_apply, execute_accepted answered, Reply.fetchFirst,
    Act.map_apply, Reply.fetchAll, rows, Act.pure_apply, List.head?_cons]

/-- What is asked for the groups of a rule: one query for the groups, and one for the conditions of
all of them. -/
def groupQueries (ruleId : String) (groups : List ConditionGroup) : List Event :=
  [.execute (.selectGroups [.text ruleId]),
    .execute (.selectConditions (groups.map fun group => .ofText? group.id))]

/-- The groups of a new rule are read back where the server shows the rows that were written. -/
theorem groups_of_run {ruleId : String} {groups : List ConditionGroup} {rule : Row}
    {written : List Statement} {link : Link} (stored : StoredGroups ruleId groups)
    (filled : groups ≠ []) (ruleWritten : rule ∈ rowsIn .rules written)
    (ruleNamed : rule.value? "id" = some (.text ruleId))
    (groupsWritten : rowsIn .groups written = groups.map groupRow)
    (conditionsWritten : rowsIn .conditions written =
      (groups.flatMap (·.conditions)).map conditionRow)
    (finds : link.server.Finds link.trace written)
    (findsThen : link.server.Finds (link.trace ++ [.execute (.selectGroups [.text ruleId])])
      written) :
    groupsOf [.text ruleId] link = .ok (groups.map fun group => (.text ruleId, group))
      (link.after (groupQueries ruleId groups) link.issued) := by
  have ofRule : ∀ group ∈ groups, (groupRow group).isUnder "rule_id" [.text ruleId] = true := by
    intro group member
    obtain ⟨_, _, _, form⟩ := stored.group_form member
    rw [form]
    exact under_of_mem rfl (List.mem_singleton_self _)
  have ofGroup : ∀ condition ∈ groups.flatMap (·.conditions), (conditionRow condition).isUnder
      "group_id" (groups.map fun group => .ofText? group.id) = true := by
    intro condition listed
    obtain ⟨group, member, inGroup⟩ := List.mem_flatMap.mp listed
    obtain ⟨_, groupId, _, _, _, _, named, form⟩ := stored.condition_form member inGroup
    have among : Value.text groupId ∈ groups.map fun group => .ofText? group.id :=
      List.mem_map.mpr ⟨group, member, by rw [named]; rfl⟩
    rw [form]
    exact under_of_mem rfl among
  obtain ⟨groupReply, groupRows, shownGroups, groupsAnswered, groupsGiven, allGroups,
    groupsOrdered, groupsShown⟩ := finds.groups [.text ruleId] (by
      intro parent isRule
      rw [List.mem_singleton.mp isRule]
      exact ⟨rule, ruleWritten, ruleNamed⟩)
  obtain ⟨conditionReply, conditionRows, shownConditions, conditionsAnswered, conditionsGiven,
    allConditions, conditionsOrdered, conditionsShown⟩ :=
      findsThen.conditions (groups.map fun group => .ofText? group.id) (by
      intro parent isGroup
      obtain ⟨group, member, rfl⟩ := List.mem_map.mp isGroup
      exact ⟨groupRow group, groupsWritten ▸ List.mem_map_of_mem member, rfl⟩)
  rw [groupsWritten, all_under ofRule] at allGroups
  rw [conditionsWritten, all_under ofGroup] at allConditions
  obtain ⟨conditions, conditionsRead, groupsRead⟩ := stored.groups_read allGroups groupsOrdered
    groupsShown allConditions conditionsOrdered conditionsShown
  have idsRead := stored.group_ids_read allGroups groupsOrdered groupsShown
  have groupsFetched := rows_of_apply groupsAnswered groupsGiven
  have conditionsFetched :
      rowsOf (.selectConditions (groups.map fun group => .ofText? group.id))
        (link.after [.execute (.selectGroups [.text ruleId])] link.issued) =
          .ok shownConditions _ :=
    rows_of_apply conditionsAnswered conditionsGiven
  have someGroups : (groups.map fun group => Value.ofText? group.id).isEmpty = false := by
    simpa using filled
  unfold groupsOf
  simp only [List.isEmpty_cons, Bool.false_eq_true, if_false, Act.bind_apply, groupsFetched,
    idsRead, Act.ofExcept, Act.pure_apply, someGroups, conditionsFetched, conditionsRead,
    groupsRead, Link.after_after]
  rfl

/-- What is asked to read a new rule back, over a connection of its own. -/
def reading (address ruleId : String) (groups : List ConditionGroup) : List Event :=
  .connect address :: .execute (.selectRule (.text ruleId)) :: groupQueries ruleId groups ++
    [.close]

/-- A new rule is read back with its groups, over a connection of its own. Only its times are the
server's. -/
theorem load_run {address ruleId : String} {draft : RuleDraft} {owner : Option String}
    {groups : List ConditionGroup} {before : List Event} {written : List Statement} {link : Link}
    (name : SoundName draft.name) (stored : StoredGroups ruleId groups) (filled : groups ≠ [])
    (rule : rowsIn .rules written = [ruleRow ruleId draft (.ofText? owner)])
    (groupsWritten : rowsIn .groups written = groups.map groupRow)
    (conditionsWritten : rowsIn .conditions written =
      (groups.flatMap (·.conditions)).map conditionRow)
    (keeps : link.server.Keeps address before written)
    (since : link.trace = before ++ writing address written) :
    ∃ created updated, ∃ count : Nat, loadRule address (.text ruleId) link =
      .ok (some ⟨draft.name, draft.description, draft.action, draft.actionValue, ruleId,
        draft.isActive, 0, none, owner, some created, some updated, groups, some count⟩)
        (link.after (reading address ruleId groups) link.issued) := by
  have ruleWritten : ruleRow ruleId draft (.ofText? owner) ∈ rowsIn .rules written :=
    rule ▸ List.mem_singleton_self _
  -- The answers may depend on what was asked before, so each query needs the promise anew.
  have finds : ∀ asked : List Event, (∀ event ∈ asked, event.isReading = true) →
      link.server.Finds (link.trace ++ asked) written := since ▸ keeps.finds
  let opened := link.after [.connect address] link.issued
  let found := link.after [.connect address, .execute (.selectRule (.text ruleId))] link.issued
  obtain ⟨reply, shown, count, answered, rows, shows, counted⟩ :=
    (finds [.connect address] (by simp [Event.isReading])).rule _ ruleWritten (.text ruleId) rfl
  obtain ⟨created, updated, ruleRead⟩ := rule_read groups name shows counted
  have ruleFetched : firstRowOf (.selectRule (.text ruleId)) opened = .ok (some shown) found :=
    (first_row_apply answered rows).trans (congrArg _ (Link.after_after _ _ _ _ _))
  have findsThen : found.server.Finds
      (found.trace ++ [.execute (.selectGroups [.text ruleId])]) written := by
    have later := finds [.connect address, .execute (.selectRule (.text ruleId)),
      .execute (.selectGroups [.text ruleId])] (by simp [Event.isReading, Statement.isQuery])
    simpa [found, Link.after] using later
  have groupsFetched : groupsOf [.text ruleId] found =
      .ok (groups.map fun group => (.text ruleId, group))
        (found.after (groupQueries ruleId groups) link.issued) :=
    groups_of_run stored filled ruleWritten rfl groupsWritten conditionsWritten
      (finds _ (by simp [Event.isReading, Statement.isQuery])) findsThen
  have notEmpty : filled? (some shown) = some shown := by
    have idShown : shown.get? "id" = some (.text ruleId) := shows.given (by simp [ruleRow])
    cases shown with
    | nil => cases idShown
    | cons field rest => rfl
  have own : entriesUnder (.text ruleId) (groups.map fun group => (.text ruleId, group)) =
      groups := by
    rw [entries_under (fun _ => .text ruleId), List.filter_eq_self]
    intro group _
    simp [Value.sameName]
  have opens : link.server.connect link.trace = .ok () := since ▸ keeps.opensAgain
  have ended : (found.after (groupQueries ruleId groups) link.issued).after [.close] link.issued =
      link.after (reading address ruleId groups) link.issued := by
    rw [Link.after_after, Link.after_after]
    rfl
  have opening : connect address link = .ok () opened := connect_apply opens
  refine ⟨created, updated, count, ?_⟩
  simp only [loadRule, connected, Act.bind_apply, opening, Act.outcome_apply,
    ruleFetched, notEmpty, groupsFetched, Act.pure_apply, close, ask, Act.ofExcept, nameable,
    Act.map_apply, own, ruleRead]
  exact congrArg _ ended

/-! ## Both stores -/

/-- An owner that is accepted is a text or missing. -/
theorem owner_given {given : Value} {owner : Option String}
    (owned : Memory.owner given = .ok owner) : given = .ofText? owner := by
  cases given with
  | null =>
    cases owned
    rfl
  | text content =>
    cases owned
    rfl
  | bool _ | int _ | float _ | time _ | list _ | record _ => cases owned

/-- A draft becomes a rule in memory where its owner is accepted. -/
theorem create_in_memory [IdSupply] (draft : RuleDraft) {given : Value} {owner : Option String}
    (owned : Memory.owner given = .ok owner) (memory : Memory) :
    let made := memory.store.createRule memory.now memory.issued draft owner
    Memory.repository.createRule draft given memory =
      .ok (some made.1) { memory with store := made.2.1, issued := made.2.2 } := by
  simp only [Memory.repository, Memory.createRule, owned]

/-- A sound draft becomes a rule in the database that is read back with the groups built of it. -/
theorem create_reads_back [IdSupply] {draft : RuleDraft} (sound : draft.Sound)
    {owner : Option String} {link : Link} {address : String}
    (keeps : link.server.Keeps address link.trace
      (ruleInserts link.issued draft (.ofText? owner))) :
    let groups := ConditionGroup.ofDrafts (freshId link.issued) 0 (link.issued + 1) draft.groups
    ∃ created updated, ∃ count : Nat, createRule address draft (.ofText? owner) link =
      .ok (some ⟨draft.name, draft.description, draft.action, draft.actionValue,
        freshId link.issued, draft.isActive, 0, none, owner, some created, some updated, groups,
        some count⟩)
        (link.after (writing address (ruleInserts link.issued draft (.ofText? owner)) ++
          reading address (freshId link.issued) groups)
          (link.issued + 1 + GroupDraft.idCount draft.groups)) := by
  intro groups
  let wrote := link.after (writing address (ruleInserts link.issued draft (.ofText? owner)))
    (link.issued + 1 + GroupDraft.idCount draft.groups)
  obtain ⟨ruleWritten, groupsWritten, conditionsWritten⟩ :=
    rule_insert_rows link.issued draft (.ofText? owner)
  have keepsThen : wrote.server.Keeps address link.trace
      (ruleInserts link.issued draft (.ofText? owner)) := keeps
  have stored : StoredGroups (freshId link.issued) groups :=
    built_groups_stored _ _ sound.groups.sound
  obtain ⟨created, updated, count, loaded⟩ := load_run sound.name stored
    (groups_filled _ _ sound.groups.filled) ruleWritten groupsWritten conditionsWritten keepsThen
    rfl
  refine ⟨created, updated, count, ?_⟩
  simp only [createRule, Act.bind_apply, issueId, write_run keeps]
  exact loaded.trans (congrArg _ (Link.after_after _ _ _ _ _))

/-- Every row of a condition of a new rule is read as a sound condition. -/
theorem inserted_conditions_sound [IdSupply] {draft : RuleDraft} (sound : draft.Sound)
    (issued : Nat) (owner : Value) :
    ∀ row ∈ rowsIn .conditions (ruleInserts issued draft owner), ∀ shown, Shows [] row shown →
      ∃ condition, StoredCondition.ofRow shown = .ok (.sound condition) := by
  have stored := built_groups_stored (freshId issued) (issued + 1) sound.groups.sound
  rw [(rule_insert_rows issued draft owner).2.2]
  intro row member shown shows
  obtain ⟨condition, listed, rfl⟩ := List.mem_map.mp member
  obtain ⟨group, inRule, inGroup⟩ := List.mem_flatMap.mp listed
  obtain ⟨_, _, _, _, _, _, _, form⟩ := stored.condition_form inRule inGroup
  rw [form] at shows
  exact ⟨_, stored_condition_read shows⟩

/-- A checked draft is created in the store in memory and in a database that keeps what it is given,
each with the same supply of identifiers. The rule that is read back from the inserted rows is the
one that is built in memory, apart from the moments at which it was stored and the number of its
logs; none of its conditions is read as damaged; and both are triggered exactly when the draft says
so. -/
theorem created_rules_agree [IdSupply] {setting : Setting} {input : Value} {draft : RuleDraft}
    (checked : RuleDraft.check setting input = .valid draft)
    {given : Value} {owner : Option String} (owned : Memory.owner given = .ok owner)
    (memory : Memory) (link : Link) (sameSupply : memory.issued = link.issued) (address : String)
    (keeps : link.server.Keeps address link.trace (ruleInserts link.issued draft given)) :
    ∃ built readBack memoryAfter linkAfter,
      Memory.repository.createRule draft given memory = .ok (some built) memoryAfter ∧
      (repository address).createRule draft given link = .ok (some readBack) linkAfter ∧
      linkAfter.trace = link.trace ++ (writing address (ruleInserts link.issued draft given) ++
        reading address readBack.id readBack.groups) ∧
      readBack.id = built.id ∧ readBack.name = built.name ∧
      readBack.description = built.description ∧ readBack.action = built.action ∧
      readBack.actionValue = built.actionValue ∧ readBack.isActive = built.isActive ∧
      readBack.triggerCount = built.triggerCount ∧
      readBack.lastTriggered = built.lastTriggered ∧ readBack.createdBy = built.createdBy ∧
      readBack.groups = built.groups ∧
      (∀ row ∈ rowsIn .conditions (ruleInserts link.issued draft given), ∀ shown,
        Shows [] row shown → ∃ condition, StoredCondition.ofRow shown = .ok (.sound condition)) ∧
      ∀ metrics, readBack.triggers metrics = draft.triggers metrics ∧
        built.triggers metrics = draft.triggers metrics := by
  have sound := rule_draft_sound checked
  obtain rfl := owner_given owned
  obtain ⟨created, updated, count, readBack⟩ := create_reads_back sound keeps
  have built := create_in_memory draft owned memory
  rw [sameSupply] at built
  exact ⟨_, _, _, _, built, readBack, rfl, rfl, rfl, rfl, rfl, rfl, rfl, rfl, rfl, rfl, rfl,
    inserted_conditions_sound sound link.issued _,
    fun metrics => ⟨Rule.triggers_of_drafts metrics rfl, Rule.triggers_of_drafts metrics rfl⟩⟩

/-- Two groups of different sizes. -/
def sampleDraft : RuleDraft :=
  ⟨"Clicks", some "Few of them", .sendNotification, none, true,
    [⟨.any, [⟨.clicks, .greater, .zero⟩, ⟨.spend, .less, .zero⟩]⟩, ⟨.all, [⟨.ctr, .equal, .zero⟩]⟩]⟩

/-- One draft is stored in memory and in a database that keeps what it is given. The two rules agree
in their groups and their owner, and both are triggered as the draft says. -/
theorem sample_created_rules_agree :
    ∃ built readBack memoryAfter linkAfter,
      Memory.repository.createRule sampleDraft (.text "team") ⟨⟨5, none⟩, 0, .empty⟩ =
        .ok (some built) memoryAfter ∧
      (repository "local").createRule sampleDraft (.text "team")
        ⟨keeper ⟨5, none⟩, [], ⟨5, none⟩, 0⟩ = .ok (some readBack) linkAfter ∧
      readBack.groups = built.groups ∧ readBack.createdBy = built.createdBy ∧
      ∀ metrics, readBack.triggers metrics = sampleDraft.triggers metrics ∧
        built.triggers metrics = sampleDraft.triggers metrics := by
  have checked : RuleDraft.check ⟨⟨0, none⟩, false⟩ sampleDraft.toValue = .valid sampleDraft := rfl
  have keeps : (keeper ⟨5, none⟩).Keeps "local" [] (ruleInserts 0 sampleDraft (.text "team")) :=
    keeper_keeps ⟨5, none⟩ "local" (rule_insert_rows 0 sampleDraft (.text "team")).1 rfl
  obtain ⟨built, readBack, memoryAfter, linkAfter, inMemory, inDatabase, _, _, _, _, _, _, _, _, _,
    owner, groups, _, meaning⟩ :=
    created_rules_agree checked rfl ⟨⟨5, none⟩, 0, .empty⟩
      ⟨keeper ⟨5, none⟩, [], ⟨5, none⟩, 0⟩ rfl "local" keeps
  exact ⟨built, readBack, memoryAfter, linkAfter, inMemory, inDatabase, groups, owner, meaning⟩

end AdRules.Database
