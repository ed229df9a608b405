import AdRules.Proofs.RowReading

/-!
# Rows that a database keeps

What is written when a rule is created, as rows, and what is expected of the database in between:
that it takes what is written and finds it from then on, every row as it was stored and rows in the
order that is asked for. One that answers from what was committed does so.
-/

namespace AdRules.Database

/-! ## What is inserted -/

section Inserts

variable [IdSupply]

/-- The statements that insert the conditions of a group, numbered from `order`. -/
def conditionInserts (groupId : String) : Nat → Nat → List ConditionDraft → List Statement
  | _, _, [] => []
  | order, issued, draft :: rest =>
    .insertCondition (freshId issued) groupId draft order ::
      conditionInserts groupId (order + 1) (issued + 1) rest

/-- The statements that insert the groups of a rule with their conditions, numbered from `order`. -/
def groupInserts (ruleId : String) : Nat → Nat → List GroupDraft → List Statement
  | _, _, [] => []
  | order, issued, draft :: rest =>
    .insertGroup (freshId issued) (.text ruleId) draft.junction order ::
      (conditionInserts (freshId issued) 0 (issued + 1) draft.conditions ++
        groupInserts ruleId (order + 1) (issued + 1 + draft.conditions.length) rest)

/-- The statements that insert a rule with its groups and conditions. -/
def ruleInserts (issued : Nat) (draft : RuleDraft) (owner : Value) : List Statement :=
  .insertRule (freshId issued) draft owner ::
    groupInserts (freshId issued) 0 (issued + 1) draft.groups

/-- The conditions that are inserted are those that a group is built of. -/
theorem condition_insert_rows (table : Table) (groupId : String) (order issued : Nat)
    (drafts : List ConditionDraft) :
    rowsIn table (conditionInserts groupId order issued drafts) =
      if table = .conditions then
        (Condition.ofDrafts groupId order issued drafts).map conditionRow
      else [] := by
  induction drafts generalizing order issued with
  | nil => cases table <;> rfl
  | cons draft rest inductionHypothesis =>
    rw [conditionInserts, insert_condition_rows, inductionHypothesis]
    cases table <;> rfl

/-- The groups that are inserted, with their conditions, are those that a rule is built of. -/
theorem group_insert_rows (ruleId : String) (order issued : Nat) (drafts : List GroupDraft) :
    rowsIn .rules (groupInserts ruleId order issued drafts) = [] ∧
      rowsIn .groups (groupInserts ruleId order issued drafts) =
        (ConditionGroup.ofDrafts ruleId order issued drafts).map groupRow ∧
      rowsIn .conditions (groupInserts ruleId order issued drafts) =
        ((ConditionGroup.ofDrafts ruleId order issued drafts).flatMap
          (·.conditions)).map conditionRow := by
  induction drafts generalizing order issued with
  | nil => exact ⟨rfl, rfl, rfl⟩
  | cons draft rest inductionHypothesis =>
    obtain ⟨noRules, groups, conditions⟩ := inductionHypothesis (order + 1)
      (issued + 1 + draft.conditions.length)
    have group := insert_group_rows (freshId issued) ruleId draft.junction order
      (Condition.ofDrafts (freshId issued) 0 (issued + 1) draft.conditions)
    refine ⟨?_, ?_, ?_⟩
    · rw [groupInserts, group, rows_in_append, condition_insert_rows, noRules]
      rfl
    · rw [groupInserts, group, rows_in_append, condition_insert_rows, groups]
      rfl
    · rw [groupInserts, group, rows_in_append, condition_insert_rows, conditions]
      simp only [if_true, ConditionGroup.ofDrafts, List.flatMap_cons, List.map_append]
      rfl

/-- One rule is inserted, with the groups and conditions that it is built of. -/
theorem rule_insert_rows (issued : Nat) (draft : RuleDraft) (owner : Value) :
    rowsIn .rules (ruleInserts issued draft owner) = [ruleRow (freshId issued) draft owner] ∧
      rowsIn .groups (ruleInserts issued draft owner) =
        (ConditionGroup.ofDrafts (freshId issued) 0 (issued + 1) draft.groups).map groupRow ∧
      rowsIn .conditions (ruleInserts issued draft owner) =
        ((ConditionGroup.ofDrafts (freshId issued) 0 (issued + 1) draft.groups).flatMap
          (·.conditions)).map conditionRow := by
  obtain ⟨noRules, groups, conditions⟩ :=
    group_insert_rows (freshId issued) 0 (issued + 1) draft.groups
  refine ⟨?_, ?_, ?_⟩
  · rw [ruleInserts, insert_rule_rows, noRules]
    rfl
  · rw [ruleInserts, insert_rule_rows, groups]
    rfl
  · rw [ruleInserts, insert_rule_rows, conditions]
    rfl

end Inserts

/-! ## A database that keeps what it is given -/

/-- A row belongs to one of some parents. -/
def Row.isUnder (link : String) (parents : List Value) (row : Row) : Bool :=
  (row.value? link).any fun parent => parents.any parent.sameName

/-- A row whose link names one of some parents is under these parents. -/
theorem under_of_mem {row : Row} {link id : String} {parents : List Value}
    (linked : row.value? link = some (.text id)) (among : .text id ∈ parents) :
    row.isUnder link parents = true := by
  have named : parents.any (Value.text id).sameName = true :=
    List.any_eq_true.mpr ⟨.text id, among, by simp [Value.sameName]⟩
  simpa only [Row.isUnder, linked, Option.any_some] using named

/-- A query gives some rows, each as it is stored, those with the same value in a column in the
order of their positions. -/
def Server.Lists (server : Server) (trace : List Event) (query : Statement) (link : String)
    (rows : List Row) : Prop :=
  ∃ reply ordered shown, server.execute trace query = .ok reply ∧ reply.rows = .ok shown ∧
    ordered.Perm rows ∧ ordered.Pairwise (Row.inOrder link) ∧
    List.Forall₂ (Shows []) ordered shown

/-- The rows that were written are found: a rule by its identifier, with the number of its logs,
groups by their rules and conditions by their groups. Rows that were there before belong to none of
the new rules and groups. -/
structure Server.Finds (server : Server) (trace : List Event) (written : List Statement) :
    Prop where
  rule : ∀ row ∈ rowsIn .rules written, ∀ id, row.value? "id" = some id →
    ∃ reply shown, ∃ count : Nat, server.execute trace (.selectRule id) = .ok reply ∧
      reply.rows = .ok [shown] ∧ Shows ["action_log_count"] row shown ∧
      shown.get? "action_log_count" = some (.int count)
  groups : ∀ parents : List Value,
    (∀ parent ∈ parents, ∃ row ∈ rowsIn .rules written, row.value? "id" = some parent) →
    server.Lists trace (.selectGroups parents) "rule_id"
      ((rowsIn .groups written).filter (Row.isUnder "rule_id" parents))
  conditions : ∀ parents : List Value,
    (∀ parent ∈ parents, ∃ row ∈ rowsIn .groups written, row.value? "id" = some parent) →
    server.Lists trace (.selectConditions parents) "group_id"
      ((rowsIn .conditions written).filter (Row.isUnder "group_id" parents))

/-- Statements are accepted one after the other. -/
def Server.Accepts (server : Server) : List Event → List Statement → Prop
  | _, [] => True
  | trace, statement :: rest =>
    (∃ reply, server.execute trace statement = .ok reply) ∧
      server.Accepts (trace ++ [.execute statement]) rest

/-- What is asked when statements are written over a connection of their own. -/
def writing (address : String) (statements : List Statement) : List Event :=
  .connect address :: statements.map .execute ++ [.commit, .close]

/-- Nothing is written. -/
def Event.isReading : Event → Bool
  | .connect _ | .close => true
  | .execute statement => statement.isQuery
  | .commit | .rollback => false

/-- After some events the database takes what is written, and finds it from then on, as long as
nothing else is written. -/
structure Server.Keeps (server : Server) (address : String) (before : List Event)
    (written : List Statement) : Prop where
  opens : server.connect before = .ok ()
  accepts : server.Accepts (before ++ [.connect address]) written
  commits : server.commit (before ++ .connect address :: written.map .execute) = .ok ()
  opensAgain : server.connect (before ++ writing address written) = .ok ()
  finds : ∀ asked : List Event, (∀ event ∈ asked, event.isReading = true) →
    server.Finds (before ++ writing address written ++ asked) written

/-! ## A database that answers from what was committed -/

/-- What has been written over an open connection, and what has been committed. -/
structure Contents where
  pending : List Statement
  committed : List Statement

/-- What is written is pending until it is committed; otherwise it is lost with the connection. -/
def Contents.after (contents : Contents) : Event → Contents
  | .execute statement => ⟨contents.pending ++ [statement], contents.committed⟩
  | .commit => ⟨[], contents.committed ++ contents.pending⟩
  | .connect _ | .rollback | .close => ⟨[], contents.committed⟩

/-- What has been committed to a database that was empty, read off the trace. Statements after the
last commit do not count. -/
def committed (trace : List Event) : List Statement :=
  (trace.foldl Contents.after ⟨[], []⟩).committed

/-- Statements that were executed wait to be committed, in the order in which they were sent. What
has been committed before is not touched. -/
theorem contents_after_writes (contents : Contents) (statements : List Statement) :
    (statements.map Event.execute).foldl Contents.after contents =
      ⟨contents.pending ++ statements, contents.committed⟩ := by
  induction statements generalizing contents with
  | nil => simp
  | cons statement rest inductionHypothesis => simp [inductionHypothesis, Contents.after]

/-- Reading commits nothing, whatever it asks for and however it ends. -/
theorem committed_after_reading (contents : Contents) {asked : List Event}
    (reading : ∀ event ∈ asked, event.isReading = true) :
    (asked.foldl Contents.after contents).committed = contents.committed := by
  induction asked generalizing contents with
  | nil => rfl
  | cons event rest inductionHypothesis =>
    have own := reading event List.mem_cons_self
    rw [List.foldl_cons, inductionHypothesis _ fun other later =>
      reading other (List.mem_cons_of_mem event later)]
    cases event with
    | commit => cases own
    | connect _ | execute _ | rollback | close => rfl

/-- What was written in a transaction is committed, and stays so while nothing else is written. -/
theorem committed_writing (address : String) (statements : List Statement) {asked : List Event}
    (reading : ∀ event ∈ asked, event.isReading = true) :
    committed (writing address statements ++ asked) = statements := by
  rw [committed, List.foldl_append, committed_after_reading _ reading]
  simp [writing, contents_after_writes, Contents.after]

/-- A cell as it is fetched where every moment is the same. -/
def Cell.fetched (now : Timestamp) : Cell → Value
  | .given value => value
  | .moment => .time now

/-- A row as it is fetched, with what the query computes besides. -/
def Row.fetched (now : Timestamp) (computed : Fields) (row : Row) : Fields :=
  row.map (fun entry => (entry.1, entry.2.fetched now)) ++ computed

/-- The position that a row is ordered by. -/
def Row.position (row : Row) : Int :=
  match row.value? "sort_order" with
  | some (.int position) => position
  | _ => 0

/-- Rows in the order of their positions. -/
def inPlace (rows : List Row) : List Row :=
  rows.mergeSort fun first second => decide (first.position ≤ second.position)

/-- What is found for a query among the rows of some statements. Nothing is logged here. -/
def found (now : Timestamp) (statements : List Statement) : Statement → List Fields
  | .selectRule id =>
    ((rowsIn .rules statements).filter (Row.isUnder "id" [id])).map
      (Row.fetched now [("action_log_count", .int 0)])
  | .selectGroups parents =>
    (inPlace ((rowsIn .groups statements).filter (Row.isUnder "rule_id" parents))).map
      (Row.fetched now [])
  | .selectConditions parents =>
    (inPlace ((rowsIn .conditions statements).filter (Row.isUnder "group_id" parents))).map
      (Row.fetched now [])
  | _ => []

/-- A database that was empty and answers from what has been committed. It refuses nothing, so it
keeps whatever is written to it. -/
def keeper (now : Timestamp) : Server where
  connect _ := .ok ()
  execute trace statement :=
    let rows := found now (committed trace) statement
    .ok ⟨.ok rows, rows.length⟩
  commit _ := .ok ()

/-! ## Such a database keeps what it is given -/

/-- No table has two columns of one name, so a column of a row is found by its name. -/
theorem columns_nodup (table : Table) : table.columns.Nodup := by
  cases table with
  | rules => rw [rules_columns]; decide
  | groups => rw [groups_columns]; decide
  | conditions => rw [conditions_columns]; decide

/-- A row has the columns of its table. -/
theorem row_columns {table : Table} {statements : List Statement} {row : Row}
    (member : row ∈ rowsIn table statements) : row.map (·.1) = table.columns := by
  obtain ⟨statement, _, added⟩ := List.mem_filterMap.mp member
  unfold Statement.rowIn? at added
  split at added
  · split at added
    · cases added
      rw [List.map_map]
      exact List.map_id' _
    · cases added
  · cases added

/-- What is fetched from a column that a row has is what its cell holds. -/
theorem fetched_get {now : Timestamp} {computed : Fields} {row : Row}
    (distinct : (row.map (·.1)).Nodup) {entry : String × Cell} (member : entry ∈ row) :
    (row.fetched now computed).get? entry.1 = some (entry.2.fetched now) := by
  induction row with
  | nil => cases member
  | cons first rest inductionHypothesis =>
    rw [List.map_cons, List.nodup_cons] at distinct
    rcases List.mem_cons.mp member with rfl | later
    · simp [Row.fetched, Fields.get?]
    · have apart : first.1 ≠ entry.1 := fun same => distinct.1 (same ▸ List.mem_map_of_mem later)
      have others := inductionHypothesis distinct.2 later
      simpa [Row.fetched, Fields.get?, apart] using others

/-- What is fetched from other columns is what the query computes. -/
theorem fetched_get_other {now : Timestamp} {computed : Fields} {row : Row} {column : String}
    (other : column ∉ row.map (·.1)) :
    (row.fetched now computed).get? column = computed.get? column := by
  have none : (row.map fun entry => (entry.1, entry.2.fetched now)).find?
      (fun field => field.1 == column) = none := by
    rw [List.find?_eq_none]
    intro field listed named
    obtain ⟨entry, member, rfl⟩ := List.mem_map.mp listed
    exact other (List.mem_map.mpr ⟨entry, member, by simpa using named⟩)
  simp only [Row.fetched, Fields.get?, List.find?_append, none, Option.none_or]

/-- A fetched row shows the row. -/
theorem fetched_shows (now : Timestamp) (computed : Fields) {row : Row}
    (distinct : (row.map (·.1)).Nodup) :
    Shows (computed.map (·.1)) row (row.fetched now computed) where
  each entry member := by
    rw [fetched_get distinct member]
    cases entry.2 with
    | given value => rfl
    | moment => exact ⟨now, rfl⟩
  only column notInRow notComputed := by
    have none : computed.find? (fun field => field.1 == column) = none := by
      rw [List.find?_eq_none]
      intro field listed named
      exact notComputed (List.mem_map.mpr ⟨field, listed, by simpa using named⟩)
    rw [fetched_get_other notInRow, Fields.get?, none, Option.map_none]

/-- Rows in place are those rows, each after the ones with smaller positions. -/
theorem in_place_ordered (link : String) (rows : List Row) :
    (inPlace rows).Perm rows ∧ (inPlace rows).Pairwise (Row.inOrder link) := by
  refine ⟨List.mergeSort_perm rows _, ?_⟩
  have sorted : (inPlace rows).Pairwise fun first second =>
      decide (first.position ≤ second.position) = true := by
    refine List.pairwise_mergeSort ?_ ?_ rows
    · intro first second third upTo onTo
      simp only [decide_eq_true_eq] at upTo onTo ⊢
      omega
    · intro first second
      simp only [Bool.or_eq_true, decide_eq_true_eq]
      omega
  refine sorted.imp ?_
  intro first second upTo _ earlier later firstPlace secondPlace
  simpa [Row.position, firstPlace, secondPlace] using upTo

/-- Rows of a table that are put in place and fetched are listed as a query asks. -/
theorem in_place_listed {now : Timestamp} {table : Table} {written : List Statement}
    {trace : List Event} {query : Statement} {link : String} {parents : List Value}
    (answered : found now (committed trace) query =
      (inPlace ((rowsIn table written).filter (Row.isUnder link parents))).map
        (Row.fetched now [])) :
    (keeper now).Lists trace query link
      ((rowsIn table written).filter (Row.isUnder link parents)) := by
  obtain ⟨among, ordered⟩ :=
    in_place_ordered link ((rowsIn table written).filter (Row.isUnder link parents))
  refine ⟨_, _, _, rfl, rfl, among, ordered, ?_⟩
  rw [answered, List.forall₂_map_right_iff, List.forall₂_same]
  intro row listed
  have member : row ∈ rowsIn table written :=
    (List.mem_filter.mp (among.mem_iff.mp listed)).1
  exact fetched_shows now [] (row_columns member ▸ columns_nodup table)

/-- A database that answers from what was committed keeps what is written to it, if that is about
one rule. -/
theorem keeper_keeps (now : Timestamp) (address : String) {written : List Statement} {rule : Row}
    {id : String} (alone : rowsIn .rules written = [rule])
    (named : rule.value? "id" = some (.text id)) :
    (keeper now).Keeps address [] written where
  opens := rfl
  accepts := by
    -- Every statement is accepted, whatever came before it.
    generalize [] ++ [Event.connect address] = trace
    clear alone
    induction written generalizing trace with
    | nil => trivial
    | cons statement rest inductionHypothesis => exact ⟨⟨_, rfl⟩, inductionHypothesis _⟩
  commits := rfl
  opensAgain := rfl
  finds asked reading := by
    have kept : committed ([] ++ writing address written ++ asked) = written :=
      committed_writing address written reading
    refine ⟨?_, ?_, ?_⟩
    · intro row member key keyed
      have isRule : row = rule := List.mem_singleton.mp (alone ▸ member)
      subst isRule
      obtain rfl : Value.text id = key := Option.some.inj (named.symm.trans keyed)
      have distinct := row_columns member ▸ columns_nodup .rules
      have listed : [row].filter (Row.isUnder "id" [.text id]) = [row] := by
        rw [List.filter_singleton, under_of_mem named (List.mem_singleton_self _), cond_true]
      refine ⟨_, row.fetched now [("action_log_count", .int 0)], 0, rfl, ?_,
        fetched_shows now [("action_log_count", .int 0)] distinct, ?_⟩
      · simp only [found, kept, alone, listed, List.map_cons, List.map_nil]
      · rw [fetched_get_other (by rw [row_columns member, rules_columns]; decide)]
        rfl
    · intro parents _
      exact in_place_listed (by simp only [found, kept])
    · intro parents _
      exact in_place_listed (by simp only [found, kept])

end AdRules.Database
