import AdRules.Database.Repository
import AdRules.Proofs.Connections
import AdRules.Proofs.Tables
import AdRules.Store

/-!
# What is sent over a connection

Between the opening of a connection and its end, operations only send statements and read what comes
back. Here it is said once for every such operation which statements it can send, and that it has no
result unless all of them succeeded. Servers are arbitrary, so statements may fail anywhere, also in
the middle of a list of inserts.
-/

namespace AdRules.Database

variable {link : Link}

/-! ## Answers -/

/-- The rows of the statement are fetched: it asks for rows, or gives back the row it wrote. -/
def Statement.isFetched : Statement → Bool
  | .upsertCampaign _ _ | .updateRule _ _ | .insertLog _ _ => true
  | statement => statement.isQuery

/-- What comes of an event after others: it succeeds, or it fails for a reason. A statement whose
rows are fetched fails also where they cannot be. -/
def Server.answer (server : Server) (before : List Event) : Event → Except String Unit
  | .connect _ => server.connect before
  | .execute statement =>
    match server.execute before statement with
    | .ok reply => if statement.isFetched then (fun _ => ()) <$> reply.rows else .ok ()
    | .error reason => .error reason
  | .commit => server.commit before
  | .rollback | .close => .ok ()

/-- All of some events succeed, one after the other. -/
def Server.Answers (server : Server) : List Event → List Event → Prop
  | _, [] => True
  | before, event :: rest =>
    server.answer before event = .ok () ∧ server.Answers (before ++ [event]) rest

/-- Events succeed in a row exactly when those of either part do. -/
theorem Server.answers_append {server : Server} {before first second : List Event} :
    server.Answers before (first ++ second) ↔
      server.Answers before first ∧ server.Answers (before ++ first) second := by
  induction first generalizing before with
  | nil => simp [Answers]
  | cons event rest inductionHypothesis =>
    simp only [List.cons_append, Answers, inductionHypothesis, List.append_assoc,
      List.nil_append, and_assoc]

/-- Where all of some events succeed, so does each of them. -/
theorem Server.answer_of_answers {server : Server} {before earlier later : List Event}
    {event : Event} (answered : server.Answers before (earlier ++ event :: later)) :
    server.answer (before ++ earlier) event = .ok () :=
  (Server.answers_append.mp answered).2.1

/-! ## The first row -/

/-- The first row that a statement gives, if it gives one, or the reason for which it cannot be
fetched. -/
def Server.firstRow (server : Server) (before : List Event) (statement : Statement) :
    Except String (Option Fields) :=
  match server.execute before statement with
  | .ok reply => List.head? <$> reply.rows
  | .error reason => .error reason

/-- A statement that gives a row, or none, has been sent and accepted. -/
theorem first_row_found {statement : Statement} {row : Option Fields}
    (found : link.server.firstRow link.trace statement = .ok row) :
    firstRowOf statement link = .ok row (link.after [.execute statement] link.issued) := by
  unfold Server.firstRow at found
  split at found
  · next reply answered =>
    cases given : reply.rows with
    | error reason =>
      rw [given] at found
      cases found
    | ok rows =>
      rw [given] at found
      cases found
      simp only [firstRowOf, Act.bind_apply, execute_accepted answered, Reply.fetchFirst,
        Act.map_apply, Reply.fetchAll, given, Act.pure_apply]
  · cases found

/-- A statement whose reply has no rows fails as one that was refused does, and was sent too. -/
theorem first_row_failed {statement : Statement} {reason : String}
    (failed : link.server.firstRow link.trace statement = .error reason) :
    firstRowOf statement link =
      .error (.database reason) (link.after [.execute statement] link.issued) := by
  unfold Server.firstRow at failed
  split at failed
  · next reply answered =>
    cases given : reply.rows with
    | error reason =>
      rw [given] at failed
      cases failed
      simp only [firstRowOf, Act.bind_apply, execute_accepted answered, Reply.fetchFirst,
        Act.map_apply, Reply.fetchAll, given, Act.throw_apply]
    | ok rows =>
      rw [given] at failed
      cases failed
  · next refused answered =>
    cases failed
    simp only [firstRowOf, Act.bind_apply, execute_refused answered]

/-- A statement whose rows are fetched succeeds exactly when a first row can be looked for. -/
theorem Server.answer_first_row {server : Server} {before : List Event} {statement : Statement}
    (fetched : statement.isFetched = true) :
    server.answer before (.execute statement) =
      (fun _ => ()) <$> server.firstRow before statement := by
  cases answered : server.execute before statement with
  | error reason =>
    simp only [answer, firstRow, answered]
    rfl
  | ok reply =>
    simp only [answer, firstRow, answered, fetched, if_true]
    cases reply.rows <;> rfl

/-! ## Identifiers -/

/-- An identifier is issued where none is given. -/
theorem id_or_apply [IdSupply] (id : Option String) (link : Link) :
    idOr id link = .ok ((givenId? id).getD (freshId link.issued))
      (link.after [] (if (givenId? id).isSome then link.issued else link.issued + 1)) := by
  unfold idOr givenId?
  cases id with
  | none => simp [issueId, Link.after]
  | some id => cases empty : id.isEmpty <;> simp [Option.filter, empty, issueId, Link.after]

/-! ## Operations that only send -/

variable {α β : Type} {kind : Statement → Bool}

/-- The operation sends statements of a kind over the open connection and does nothing else. It has
a result only if all of them succeeded. -/
def Sends (kind : Statement → Bool) (action : Act Link α) : Prop :=
  ∀ link, ∃ (statements : List Statement) (issued : Nat),
    action.stateAfter link = link.after (statements.map .execute) issued ∧
      (∀ statement ∈ statements, kind statement = true) ∧
      ∀ value after, action link = .ok value after →
        link.server.Answers link.trace (statements.map .execute)

namespace Sends

/-- An operation that at most takes identifiers sends nothing. -/
theorem nothing {action : Act Link α}
    (silent : ∀ link, ∃ issued, action.stateAfter link = link.after [] issued) :
    Sends kind action := by
  intro link
  obtain ⟨issued, ended⟩ := silent link
  exact ⟨[], issued, ended, by simp, fun _ _ _ => trivial⟩

/-- What can send no statement at most takes identifiers. -/
theorem silent {action : Act Link α} (sends : Sends (fun _ => false) action) (link : Link) :
    ∃ issued, action.stateAfter link = link.after [] issued := by
  obtain ⟨statements, issued, ended, none, _⟩ := sends link
  cases statements with
  | nil => exact ⟨issued, ended⟩
  | cons statement rest => cases none statement List.mem_cons_self

/-- Giving a value sends nothing. -/
theorem pure (value : α) : Sends kind (Pure.pure value) :=
  nothing fun link => ⟨link.issued, link.after_nothing.symm⟩

/-- An operation that only fails sends nothing. -/
theorem throw (failure : Failure) : Sends kind (MonadExcept.throw failure : Act Link α) :=
  nothing fun link => ⟨link.issued, link.after_nothing.symm⟩

/-- Taking a result from elsewhere sends nothing, be it a failure or not. -/
theorem of_except (result : Except Failure α) : Sends kind (Act.ofExcept result) := by
  cases result with
  | ok value => exact pure value
  | error failure => exact throw failure

/-- Taking an identifier sends nothing: the database is not asked for one. -/
theorem issue [IdSupply] : Sends kind issueId :=
  nothing fun link => ⟨link.issued + 1, by simp only [Act.stateAfter, issueId, Link.after,
    List.append_nil]⟩

/-- Reading the clock for a check sends nothing. -/
theorem setting : Sends kind Database.setting :=
  nothing fun link => ⟨link.issued, link.after_nothing.symm⟩

/-- Asking how deep a text may be nested sends nothing, though it is a property of the server's
answers. -/
theorem depth : Sends kind Database.depth :=
  nothing fun link => ⟨link.issued, link.after_nothing.symm⟩

/-- What the first operation sends comes before what the second one sends. -/
theorem bind {first : Act Link α} {next : α → Act Link β} (sends : Sends kind first)
    (rest : ∀ value, Sends kind (next value)) : Sends kind (first >>= next) := by
  intro link
  obtain ⟨earlier, issued, ended, earlierKind, earlierAnswered⟩ := sends link
  cases ran : first link with
  | error failure between =>
    refine ⟨earlier, issued, ?_, earlierKind, ?_⟩
    · rw [Act.state_after_failed ran, ← Act.state_after_error ran, ended]
    · intro value after succeeded
      rw [Act.bind_apply, ran] at succeeded
      cases succeeded
  | ok value between =>
    have reached : between = link.after (earlier.map .execute) issued :=
      (Act.state_after_ok ran).symm.trans ended
    obtain ⟨later, finally_, restEnded, laterKind, laterAnswered⟩ := rest value between
    refine ⟨earlier ++ later, finally_, ?_, ?_, ?_⟩
    · rw [Act.state_after_bind ran, restEnded, reached, Link.after_after, List.map_append]
    · intro statement sent
      rcases List.mem_append.mp sent with inFirst | inRest
      · exact earlierKind statement inFirst
      · exact laterKind statement inRest
    · intro result after succeeded
      rw [Act.bind_apply, ran] at succeeded
      rw [List.map_append, Server.answers_append]
      refine ⟨earlierAnswered value between ran, ?_⟩
      have answered := laterAnswered result after succeeded
      rwa [reached] at answered

/-- Converting a result sends nothing more. -/
theorem map (convert : α → β) {action : Act Link α} (sends : Sends kind action) :
    Sends kind (convert <$> action) := by
  rw [map_eq_pure_bind]
  exact bind sends fun value => pure (convert value)

/-- A statement whose rows are not fetched succeeds if it is accepted. -/
theorem execute {statement : Statement} (sent : kind statement = true)
    (unfetched : statement.isFetched = false) : Sends kind (Database.execute statement) := by
  intro link
  refine ⟨[statement], link.issued, ?_, by simpa using sent, ?_⟩
  · cases answered : link.server.execute link.trace statement with
    | ok reply => exact Act.state_after_ok (execute_accepted answered)
    | error reason => exact Act.state_after_error (execute_refused answered)
  · intro reply after succeeded
    cases answered : link.server.execute link.trace statement with
    | ok reply => simp [Server.Answers, Server.answer, answered, unfetched]
    | error reason =>
      rw [execute_refused answered] at succeeded
      cases succeeded

/-- A statement whose rows are fetched succeeds if it is accepted and they can be. -/
theorem rows {statement : Statement} (sent : kind statement = true) :
    Sends kind (rowsOf statement) := by
  intro link
  refine ⟨[statement], link.issued, ?_, by simpa using sent, ?_⟩
  · cases answered : link.server.execute link.trace statement with
    | error reason =>
      rw [rowsOf, Act.state_after_failed (execute_refused answered)]
      rfl
    | ok reply =>
      rw [rowsOf, Act.state_after_bind (execute_accepted answered)]
      cases given : reply.rows <;> simp only [Reply.fetchAll, given, Act.stateAfter] <;> rfl
  · intro shown after succeeded
    cases answered : link.server.execute link.trace statement with
    | error reason =>
      rw [rowsOf, Act.bind_apply, execute_refused answered] at succeeded
      cases succeeded
    | ok reply =>
      rw [rowsOf, Act.bind_apply, execute_accepted answered] at succeeded
      cases given : reply.rows with
      | error reason =>
        simp only [Reply.fetchAll, given] at succeeded
        cases succeeded
      | ok listed =>
        have answer : link.server.answer link.trace (.execute statement) = .ok () := by
          simp only [Server.answer, answered, given]
          split <;> rfl
        exact ⟨answer, trivial⟩

/-- Asking for one row sends its statement, and is of the kind that the statement is of. -/
theorem first_row {statement : Statement} (sent : kind statement = true) :
    Sends kind (firstRowOf statement) := by
  have same : firstRowOf statement = List.head? <$> rowsOf statement := by
    simp only [firstRowOf, rowsOf, Reply.fetchFirst, map_bind]
  rw [same]
  exact map List.head? (rows sent)

end Sends

/-! ## What the operations send -/

/-- The statement does more than ask. -/
def Statement.isWriting (statement : Statement) : Bool := !statement.isQuery

namespace Sends

/-- Logs are read from rows that were already fetched. -/
theorem read_logs (rows : List Fields) : Sends kind (readLogs rows) :=
  bind depth fun _ => bind setting fun _ => of_except _

/-- Reading a row that is there sends nothing. -/
theorem read_snapshot (row : Fields) : Sends kind (readSnapshot row) :=
  bind setting fun _ => of_except _

/-- The groups of rules are asked for, and then their conditions. -/
theorem groups_of (ruleIds : List Value) : Sends Statement.isQuery (groupsOf ruleIds) := by
  unfold groupsOf
  split
  · exact pure []
  · refine bind (rows rfl) fun groups => bind (of_except _) fun groupIds => ?_
    have assembled : ∀ rows : List Fields, Sends Statement.isQuery (do
        let conditions ← Act.ofExcept (rows.mapM conditionOfRow)
        Act.ofExcept (groups.mapM (groupOfRow conditions)) :
          Act Link (List (Value × ConditionGroup))) := fun rows =>
      bind (of_except _) fun conditions => of_except _
    split
    · exact bind (pure []) assembled
    · exact bind (rows rfl) assembled

section Writing

variable [IdSupply]

/-- Taking an identifier only where none is given sends nothing. -/
theorem id_or (id : Option String) : Sends kind (idOr id) := by
  unfold idOr
  split
  · split
    · exact issue
    · exact pure _
  · exact issue

/-- Conditions are inserted one by one. By induction on them. -/
theorem insert_conditions (groupId : String) (order : Nat) (drafts : List ConditionDraft) :
    Sends Statement.isWriting (insertConditions groupId order drafts) := by
  induction drafts generalizing order with
  | nil => exact pure ()
  | cons draft rest inductionHypothesis =>
    exact bind issue fun id => bind (execute rfl rfl) fun _ => inductionHypothesis (order + 1)

/-- Groups are inserted one by one, each followed by its conditions. By induction on them. -/
theorem insert_groups (ruleId : Value) (order : Nat) (drafts : List GroupDraft) :
    Sends Statement.isWriting (insertGroups ruleId order drafts) := by
  induction drafts generalizing order with
  | nil => exact pure ()
  | cons draft rest inductionHypothesis =>
    refine bind issue fun id => bind (execute rfl rfl) fun _ => ?_
    exact bind (insert_conditions id 0 draft.conditions) fun _ => inductionHypothesis (order + 1)

/-- Replacing groups sends statements that write. -/
theorem replace_groups (ruleId : Value) (groups : List GroupDraft) :
    Sends Statement.isWriting (replaceGroups ruleId groups) :=
  bind (execute rfl rfl) fun _ => insert_groups ruleId 0 groups

end Writing

end Sends

/-! ## What is written in transactions -/

/-- What is written of a new rule. -/
def ruleWrite [IdSupply] (id : String) (draft : RuleDraft) (owner : Value) :
    Act Link (Option Unit) := do
  let _ ← execute (.insertRule id draft owner)
  insertGroups (.text id) 0 draft.groups
  pure (some ())

/-- What is written of a change of a rule, if there is one. -/
def changeWrite [IdSupply] (id : Value) (change : RuleChange) : Act Link (Option Unit) := do
  match ← firstRowOf (.updateRule id change) with
  | none => pure none
  | some _ =>
    match change.groups with
    | some groups => replaceGroups id groups
    | none => pure ()
    pure (some ())

/-- What is written of an execution: the log, and where that gives a row, its count. -/
def recordWrite (id : String) (log : ActionLog) : Act Link (Option Fields) := do
  match ← firstRowOf (.insertLog id log) with
  | none => pure none
  | some row =>
    let _ ← execute (.countTrigger log)
    pure (some row)

namespace Sends

/-- Writing a rule sends statements that write: one for the rule, then those for its groups. -/
theorem rule_write [IdSupply] (id : String) (draft : RuleDraft) (owner : Value) :
    Sends Statement.isWriting (ruleWrite id draft owner) :=
  bind (execute rfl rfl) fun _ => bind (insert_groups (.text id) 0 draft.groups) fun _ => pure _

/-- Writing a change sends statements that write. Where the row is missing it stops after the first.
-/
theorem change_write [IdSupply] (id : Value) (change : RuleChange) :
    Sends Statement.isWriting (changeWrite id change) := by
  refine bind (first_row rfl) fun row => ?_
  cases row with
  | none => exact pure none
  | some _ =>
    cases change.groups with
    | none => exact bind (pure ()) fun _ => pure _
    | some groups => exact bind (replace_groups id groups) fun _ => pure _

/-- Writing a log sends statements that write, at most two of them. -/
theorem record_write (id : String) (log : ActionLog) :
    Sends Statement.isWriting (recordWrite id log) := by
  refine bind (first_row rfl) fun row => ?_
  cases row with
  | none => exact pure none
  | some row => exact bind (execute rfl rfl) fun _ => pure _

end Sends

end AdRules.Database
