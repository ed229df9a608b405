import AdRules.Proofs.CreatedRules
import AdRules.Proofs.Recording
import AdRules.Proofs.RenewedRules

/-!
# Partial updates in both stores

A change of a rule is one UPDATE in the database, and where it gives groups a DELETE of the old ones
and the inserts of the new ones besides, all in one transaction. The first of the connection, these
statements and the commit that fails decides how the change ends. The columns that are assigned are
the fields that the store in memory replaces, with the same values, and the rows that are inserted
are those of the groups that it builds with the same identifiers. Servers are arbitrary.
-/

namespace AdRules.Database

/-! ## Plans -/

/-- How far some planned events get, one after the other: all of them succeed, or the first that
fails is the last. -/
inductive Server.Sent (server : Server) (before planned : List Event) :
    List Event → Except Failure Unit → Prop where
  | all (answered : server.Answers before planned) : Sent server before planned planned (.ok ())
  | stopped (done rest : List Event) (event : Event) (reason : String)
      (plan : planned = done ++ event :: rest) (answered : server.Answers before done)
      (refused : server.answer (before ++ done) event = .error reason) :
      Sent server before planned (done ++ [event]) (.error (.database reason))

namespace Server

variable {server : Server} {before first second sent : List Event} {outcome : Except Failure Unit}

/-- Where the first events succeed, it depends on the others how far all get. -/
theorem Sent.continued (answered : server.Answers before first)
    (later : server.Sent (before ++ first) second sent outcome) :
    server.Sent before (first ++ second) (first ++ sent) outcome := by
  cases later with
  | all others => exact .all (answers_append.mpr ⟨answered, others⟩)
  | stopped done rest event reason plan others refused =>
    rw [← List.append_assoc]
    refine .stopped (first ++ done) rest event reason (by simp [plan])
      (answers_append.mpr ⟨answered, others⟩) ?_
    rwa [← List.append_assoc]

/-- What stops stops also where more is planned. -/
theorem Sent.cut_short {failure : Failure} (stops : server.Sent before first sent (.error failure))
    (second : List Event) : server.Sent before (first ++ second) sent (.error failure) := by
  cases stops with
  | stopped done rest event reason plan answered refused =>
    exact .stopped done (rest ++ second) event reason (by simp [plan]) answered refused

end Server

/-- With so many identifiers issued, the operation sends some statements one after the other, as far
as they succeed, and has taken so many more identifiers when all did. -/
def Carries (issued : Nat) (planned : List Statement) (count : Nat) (action : Act Link Unit) :
    Prop :=
  ∀ link : Link, link.issued = issued → ∃ sent outcome later,
    link.server.Sent link.trace (planned.map .execute) sent outcome ∧
      (outcome = .ok () → later = issued + count) ∧
      action link = Act.ofExcept outcome (link.after sent later)

namespace Carries

variable {issued count more : Nat} {planned others : List Statement} {first second : Act Link Unit}

/-- An operation that does nothing sends no statements and takes no identifiers. -/
theorem nothing : Carries issued [] 0 (pure ()) := by
  rintro link rfl
  refine ⟨[], .ok (), link.issued, .all trivial, fun _ => rfl, ?_⟩
  rw [Link.after_nothing]
  rfl

/-- The statements of two operations are sent one after the other. -/
theorem bind (carries : Carries issued planned count first)
    (rest : Carries (issued + count) others more second) :
    Carries issued (planned ++ others) (count + more) (first >>= fun _ => second) := by
  rintro link rfl
  obtain ⟨sent, outcome, later, ran, counted, ended⟩ := carries link rfl
  cases outcome with
  | error failure =>
    refine ⟨sent, .error failure, later, ?_, by simp, ?_⟩
    · rw [List.map_append]
      exact ran.cut_short _
    · rw [Act.bind_apply, ended]
      rfl
  | ok _ =>
    obtain rfl := counted rfl
    cases ran with
    | all answered =>
      obtain ⟨sent, outcome, last, ranThen, countedThen, endedThen⟩ :=
        rest (link.after (planned.map .execute) (link.issued + count)) rfl
      refine ⟨planned.map .execute ++ sent, outcome, last, ?_, ?_, ?_⟩
      · rw [List.map_append]
        exact ranThen.continued answered
      · intro succeeded
        rw [countedThen succeeded, Nat.add_assoc]
      · rw [Act.bind_apply, ended]
        exact endedThen.trans (by rw [Link.after_after])

/-- A statement is sent, and the others if it succeeds. -/
theorem execute {statement : Statement} (unfetched : statement.isFetched = false)
    (rest : Carries issued others more second) :
    Carries issued (statement :: others) more (Database.execute statement >>= fun _ => second) := by
  have alone : Carries issued [statement] 0 (Database.execute statement >>= fun _ => pure ()) := by
    rintro link rfl
    cases answered : link.server.execute link.trace statement with
    | ok reply =>
      refine ⟨_, .ok (), link.issued, .all ?_, fun _ => rfl, ?_⟩
      · simp [Server.Answers, Server.answer, answered, unfetched]
      · rw [Act.bind_apply, execute_accepted answered]
        rfl
    | error reason =>
      refine ⟨_, _, link.issued, .stopped [] [] (.execute statement) reason rfl trivial ?_, by simp,
        ?_⟩
      · simp [Server.answer, answered]
      · rw [Act.bind_apply, execute_refused answered]
        rfl
  have both := alone.bind rest
  rw [Nat.zero_add] at both
  simpa using both

/-- An identifier is taken first. -/
theorem issue [IdSupply] {next : String → Act Link Unit}
    (rest : Carries (issued + 1) planned count (next (freshId issued))) :
    Carries issued planned (count + 1) (issueId >>= next) := by
  rintro link rfl
  obtain ⟨sent, outcome, later, ran, counted, ended⟩ := rest (link.after [] (link.issued + 1)) rfl
  rw [Link.after_after] at ended
  have seen : (link.after [] (link.issued + 1)).trace = link.trace := List.append_nil _
  rw [seen] at ran
  refine ⟨sent, outcome, later, ran, ?_, ?_⟩
  · intro succeeded
    rw [counted succeeded]
    omega
  · rw [Act.bind_apply]
    simp only [issueId]
    simpa [Link.after] using ended

end Carries

/-! ## Plans in a transaction -/

section Transactions

variable {α : Type} {address : String} {link : Link} {value : α}

/-- What follows the events of a transaction on a connection that was opened. -/
def closing : Except Failure Unit → List Event
  | .ok _ => [.close]
  | .error _ => [.rollback, .close]

/-- What happens after a connection is opened is seen from before it. -/
theorem opened_after (address : String) (link : Link) (writes ending : List Event)
    (between later : Nat) :
    ((link.after [.connect address] link.issued).after writes between).after ending later =
      link.after (.connect address :: writes ++ ending) later := by
  rw [Link.after_after, Link.after_after]
  rfl

/-- A transaction that writes what is planned gets as far as the connection, the plan and the commit
get; where one of them fails after the connection was opened, everything is rolled back. -/
theorem transaction_sent {write : Act Link (Option α)} {planned sent : List Event}
    {outcome : Except Failure Unit} {later : Nat} (opens : link.server.connect link.trace = .ok ())
    (ran : link.server.Sent (link.trace ++ [.connect address]) planned sent outcome)
    (written : write (link.after [.connect address] link.issued) =
      Act.ofExcept ((fun _ => some value) <$> outcome)
        ((link.after [.connect address] link.issued).after sent later)) :
    ∃ events result,
      link.server.Sent link.trace ([.connect address] ++ (planned ++ [.commit])) events result ∧
      (result = .ok () → outcome = .ok ()) ∧
      transaction address write link = Act.ofExcept ((fun _ => some value) <$> result)
        (link.after (events ++ closing result) later) := by
  have connected : link.server.Answers link.trace [.connect address] := ⟨opens, trivial⟩
  cases outcome with
  | error failure =>
    refine ⟨_, _, (ran.cut_short [.commit]).continued connected, by simp, ?_⟩
    exact (transaction_failed opens written).trans (congrArg _ (opened_after _ _ _ _ _ _))
  | ok _ =>
    cases ran with
    | all answered =>
      cases commits : link.server.commit (link.trace ++ [.connect address] ++ planned) with
      | error reason =>
        have stops : link.server.Sent (link.trace ++ [.connect address]) (planned ++ [.commit])
            (planned ++ [.commit]) (.error (.database reason)) :=
          .stopped planned [] .commit reason rfl answered commits
        refine ⟨_, _, stops.continued connected, by simp, ?_⟩
        have events : .connect address :: planned ++ [.commit, .rollback, .close] =
            [.connect address] ++ (planned ++ [.commit]) ++
              closing (.error (.database reason)) := by simp [closing]
        rw [← events]
        exact (transaction_uncommitted opens written commits).trans
          (congrArg _ (opened_after _ _ _ _ _ _))
      | ok _ =>
        have ends : link.server.Sent (link.trace ++ [.connect address]) (planned ++ [.commit])
            (planned ++ [.commit]) (.ok ()) :=
          .all (Server.answers_append.mpr ⟨answered, commits, trivial⟩)
        refine ⟨_, _, ends.continued connected, fun _ => rfl, ?_⟩
        have events : .connect address :: planned ++ [.commit, .close] =
            [.connect address] ++ (planned ++ [.commit]) ++ closing (.ok ()) := by simp [closing]
        rw [← events]
        exact (transaction_apply opens written commits).trans
          (congrArg _ (opened_after _ _ _ _ _ _))

end Transactions

/-! ## The statements of a change -/

section Changes

variable [IdSupply]

/-- The statements that replace the groups of a rule, where a change gives groups. -/
def groupStatements (ruleId : String) (issued : Nat) (change : RuleChange) : List Statement :=
  match change.groups with
  | none => []
  | some drafts => .deleteGroups (.text ruleId) :: groupInserts ruleId 0 issued drafts

/-- What is asked of the database to change a rule. -/
def changeCalls (address ruleId : String) (issued : Nat) (change : RuleChange) : List Event :=
  .connect address :: .execute (.updateRule (.text ruleId) change) ::
    (groupStatements ruleId issued change).map .execute ++ [.commit]

/-- Inserting conditions sends one statement for each of them, under one new identifier each. By
induction on the drafts. -/
theorem carries_conditions (groupId : String) (order issued : Nat) (drafts : List ConditionDraft) :
    Carries issued (conditionInserts groupId order issued drafts) drafts.length
      (insertConditions groupId order drafts) := by
  induction drafts generalizing order issued with
  | nil => exact .nothing
  | cons draft rest inductionHypothesis =>
    exact .issue (.execute rfl (inductionHypothesis (order + 1) (issued + 1)))

/-- Inserting groups sends the statement of each group before those of its conditions, and takes an
identifier for every one of them. By induction on the drafts. -/
theorem carries_groups (ruleId : String) (order issued : Nat) (drafts : List GroupDraft) :
    Carries issued (groupInserts ruleId order issued drafts) (GroupDraft.idCount drafts)
      (insertGroups (.text ruleId) order drafts) := by
  induction drafts generalizing order issued with
  | nil => exact .nothing
  | cons draft rest inductionHypothesis =>
    have both := (carries_conditions (freshId issued) 0 (issued + 1) draft.conditions).bind
      (inductionHypothesis (order + 1) _)
    have counted : GroupDraft.idCount (draft :: rest) =
        draft.conditions.length + GroupDraft.idCount rest + 1 := by
      simp only [GroupDraft.idCount]
      omega
    rw [counted]
    exact .issue (.execute rfl both)

/-- The groups are replaced where a change gives some, and left alone otherwise. -/
def replacement (ruleId : Value) (change : RuleChange) : Act Link Unit :=
  match change.groups with
  | some groups => replaceGroups ruleId groups
  | none => pure ()

/-- Where a change has groups, the old ones are deleted and the new ones inserted. Where it has
none, nothing is sent. -/
theorem carries_replacement (ruleId : String) (issued : Nat) (change : RuleChange) :
    Carries issued (groupStatements ruleId issued change) change.idCount
      (replacement (.text ruleId) change) := by
  unfold groupStatements RuleChange.idCount replacement
  cases change.groups with
  | none => exact .nothing
  | some drafts => exact .execute rfl (carries_groups ruleId 0 issued drafts)

/-! ## The course of a change -/

/-- How a change ends: it stops at the first call that fails, it is given up where the UPDATE gives
no row, or all that was asked for is committed. Given are the events and whether there was a row. -/
inductive Changing (server : Server) (before : List Event) (address ruleId : String) (issued : Nat)
    (change : RuleChange) : List Event → Except Failure (Option Unit) → Prop where
  | stopped (done rest : List Event) (event : Event) (reason : String)
      (calls : changeCalls address ruleId issued change = done ++ event :: rest)
      (answered : server.Answers before done)
      (refused : server.answer (before ++ done) event = .error reason)
      (found : .execute (.updateRule (.text ruleId) change) ∈ done →
        ∃ row, server.firstRow (before ++ [.connect address])
          (.updateRule (.text ruleId) change) = .ok (some row)) :
      Changing server before address ruleId issued change (done ++ event :: undoing done)
        (.error (.database reason))
  | missing (opens : server.answer before (.connect address) = .ok ())
      (unfound : server.firstRow (before ++ [.connect address])
        (.updateRule (.text ruleId) change) = .ok none) :
      Changing server before address ruleId issued change
        [.connect address, .execute (.updateRule (.text ruleId) change), .rollback, .close]
        (.ok none)
  | committed (row : Fields)
      (answered : server.Answers before (changeCalls address ruleId issued change))
      (found : server.firstRow (before ++ [.connect address])
        (.updateRule (.text ruleId) change) = .ok (some row)) :
      Changing server before address ruleId issued change
        (changeCalls address ruleId issued change ++ [.close]) (.ok (some ()))

section Writing

variable {ruleId : String} {change : RuleChange} {link : Link}

/-- Where the statement that changes the row is refused, nothing follows it. -/
theorem change_write_refused {reason : String}
    (refused : link.server.firstRow link.trace (.updateRule (.text ruleId) change) =
      .error reason) :
    changeWrite (.text ruleId) change link = .error (.database reason)
      (link.after [.execute (.updateRule (.text ruleId) change)] link.issued) := by
  simp only [changeWrite, Act.bind_apply, first_row_failed refused]

/-- Where there is no such row, no group is deleted or inserted. -/
theorem change_write_missing
    (missing : link.server.firstRow link.trace (.updateRule (.text ruleId) change) = .ok none) :
    changeWrite (.text ruleId) change link = .ok none
      (link.after [.execute (.updateRule (.text ruleId) change)] link.issued) := by
  simp only [changeWrite, Act.bind_apply, first_row_found missing, Act.pure_apply]

/-- Where the UPDATE gives a row, the statements for the groups follow, as far as they succeed. -/
theorem change_write_found {row : Fields}
    (found : link.server.firstRow link.trace (.updateRule (.text ruleId) change) =
      .ok (some row)) :
    ∃ sent outcome later,
      link.server.Sent (link.trace ++ [.execute (.updateRule (.text ruleId) change)])
        ((groupStatements ruleId link.issued change).map .execute) sent outcome ∧
      (outcome = .ok () → later = link.issued + change.idCount) ∧
      changeWrite (.text ruleId) change link = Act.ofExcept ((fun _ => some ()) <$> outcome)
        (link.after (.execute (.updateRule (.text ruleId) change) :: sent) later) := by
  obtain ⟨sent, outcome, later, ran, counted, ended⟩ :=
    carries_replacement ruleId link.issued change
      (link.after [.execute (.updateRule (.text ruleId) change)] link.issued) rfl
  refine ⟨sent, outcome, later, ran, counted, ?_⟩
  have written : changeWrite (.text ruleId) change link =
      (replacement (.text ruleId) change >>= fun _ => pure (some ()))
        (link.after [.execute (.updateRule (.text ruleId) change)] link.issued) := by
    rw [changeWrite, Act.bind_apply, first_row_found found, replacement]
    cases change.groups <;> rfl
  rw [written, Act.bind_apply, ended, Link.after_after]
  cases outcome <;> rfl

/-- Where the UPDATE gives a row, the change is committed unless a statement or the commit fails. -/
theorem transaction_found {address : String} {row : Fields}
    (opens : link.server.connect link.trace = .ok ())
    (found : link.server.firstRow (link.trace ++ [.connect address])
      (.updateRule (.text ruleId) change) = .ok (some row)) :
    ∃ events outcome later,
      Changing link.server link.trace address ruleId link.issued change events outcome ∧
      (outcome = .ok (some ()) → later = link.issued + change.idCount) ∧
      transaction address (changeWrite (.text ruleId) change) link =
        Act.ofExcept outcome (link.after events later) := by
  have foundOpened : (link.after [.connect address] link.issued).server.firstRow
      (link.after [.connect address] link.issued).trace (.updateRule (.text ruleId) change) =
        .ok (some row) := found
  obtain ⟨sent, outcome, later, ran, counted, written⟩ := change_write_found foundOpened
  have updated : link.server.Answers (link.trace ++ [.connect address])
      [.execute (.updateRule (.text ruleId) change)] :=
    ⟨(Server.answer_first_row rfl).trans (congrArg _ found), trivial⟩
  obtain ⟨events, result, course, earned, ended⟩ :=
    transaction_sent opens (Server.Sent.continued updated ran) written
  cases course with
  | all answered =>
    exact ⟨_, _, later, .committed row answered found, fun _ => counted (earned rfl), ended⟩
  | stopped done rest event reason plan answered refused =>
    cases done with
    | nil =>
      -- The connection was opened, so it is not where the change stops.
      obtain ⟨rfl, _⟩ := List.cons.inj plan
      rw [List.append_nil] at refused
      cases opens.symm.trans refused
    | cons first others =>
      refine ⟨_, _, later, .stopped (first :: others) rest event reason plan answered refused
        fun _ => ⟨row, found⟩, by simp, ?_⟩
      have events : first :: others ++ event :: undoing (first :: others) =
          first :: others ++ [event] ++ closing (.error (.database reason)) := by
        simp [undoing, closing]
      rw [ended, events]
      rfl

/-- Writing and committing a change takes one of the courses, for every way in which the server may
answer. -/
theorem transaction_changing (address ruleId : String) (change : RuleChange) (link : Link) :
    ∃ events outcome later,
      Changing link.server link.trace address ruleId link.issued change events outcome ∧
      (outcome = .ok (some ()) → later = link.issued + change.idCount) ∧
      transaction address (changeWrite (.text ruleId) change) link =
        Act.ofExcept outcome (link.after events later) := by
  cases opens : link.server.connect link.trace with
  | error reason =>
    refine ⟨_, _, link.issued, .stopped [] _ (.connect address) reason rfl trivial ?_ (by simp),
      by simp, transaction_refused opens⟩
    rw [List.append_nil]
    exact opens
  | ok _ =>
    cases found : link.server.firstRow (link.trace ++ [.connect address])
        (.updateRule (.text ruleId) change) with
    | error reason =>
      refine ⟨_, _, link.issued, .stopped [.connect address] _
        (.execute (.updateRule (.text ruleId) change)) reason rfl ⟨opens, trivial⟩
        ((Server.answer_first_row rfl).trans (congrArg _ found)) (by simp), by simp, ?_⟩
      exact (transaction_failed opens (change_write_refused found)).trans
        (congrArg _ (opened_after _ _ _ _ _ _))
    | ok row =>
      cases row with
      | none =>
        refine ⟨_, _, link.issued, .missing opens found, by simp, ?_⟩
        exact (transaction_dropped opens (change_write_missing found)).trans
          (congrArg _ (opened_after _ _ _ _ _ _))
      | some row => exact transaction_found opens found

end Writing

/-- What comes of a change: a rule that was there is read back. -/
def readChanged (address : String) (id : Value) : Option Unit → Act Link (Option Rule)
  | none => throw (.notFound id)
  | some () => loadRule address id

/-- Changing a rule takes one of the courses, and then reads the rule back. -/
theorem update_changing (address ruleId : String) (change : RuleChange) (link : Link) :
    ∃ events outcome later,
      Changing link.server link.trace address ruleId link.issued change events outcome ∧
      (outcome = .ok (some ()) → later = link.issued + change.idCount) ∧
      (repository address).updateRule (.text ruleId) change link =
        (Act.ofExcept outcome >>= readChanged address (.text ruleId))
          (link.after events later) := by
  obtain ⟨events, outcome, later, changing, counted, ran⟩ :=
    transaction_changing address ruleId change link
  refine ⟨events, outcome, later, changing, counted, ?_⟩
  have course : (repository address).updateRule (.text ruleId) change =
      transaction address (changeWrite (.text ruleId) change) >>=
        readChanged address (.text ruleId) := rfl
  rw [course, Act.bind_apply, Act.bind_apply, ran]

/-! ## Agreement -/

/-- The statements that insert some groups insert rows of groups that are made from the drafts in
order, with the identifiers that are issued for them. -/
structure InsertsGroups (ruleId : String) (issued : Nat) (drafts : List GroupDraft)
    (groups : List ConditionGroup) : Prop where
  made : List.Forall₂ (fun place group => ConditionGroup.MadeFrom place.1 ruleId place.2 group)
    drafts.zipIdx groups
  ids : groups.flatMap ConditionGroup.identifiers = issuedIds issued (GroupDraft.idCount drafts)
  groupRows : rowsIn .groups (groupInserts ruleId 0 issued drafts) = groups.map groupRow
  conditionRows : rowsIn .conditions (groupInserts ruleId 0 issued drafts) =
    (groups.flatMap (·.conditions)).map conditionRow

/-- The rows of the groups are those of the groups that the memory builds of the same drafts, with
the same identifiers. -/
theorem inserts_built_groups (ruleId : String) (issued : Nat) (drafts : List GroupDraft) :
    InsertsGroups ruleId issued drafts (ConditionGroup.ofDrafts ruleId 0 issued drafts) := by
  obtain ⟨_, groups, conditions⟩ := group_insert_rows ruleId 0 issued drafts
  exact ⟨groups_made ruleId 0 issued drafts, group_ids ruleId 0 issued drafts, groups, conditions⟩

/-- After every history of checked calls, a change of a stored rule does in memory what it gives and
nothing else, and in the database the UPDATE assigns the given fields their values and the moment to
the date, for the rule alone. Where groups are given, and only there, those of the rule are deleted
and the new ones inserted; with the same identifiers they are the groups that are built in memory.
Otherwise nothing but the UPDATE is sent. All of it is committed, unless the UPDATE finds no rule or
something fails, and then the rule is read back. -/
theorem partial_updates_agree (history : List Memory.Event)
    (checked : ∀ event ∈ history, event.call.Checked) (moment : Int) {rule : Rule}
    (stored : rule ∈ (Memory.run history).store.rules) (change : RuleChange) :
    let memory := (Memory.run history).setClock moment
    ∃ updated after,
      Memory.repository.updateRule (.text rule.id) change memory =
        .ok (some (memory.store.withCount updated)) after ∧
      Memory.Renewed change memory rule updated after ∧
      (Statement.updateRule (.text rule.id) change).assignment? =
        some ⟨Table.name .rules,
          change.given.map (fun field => (field.1, .given field.2)) ++ [("updated_at", .moment)],
          [("id", .given (.text rule.id))]⟩ ∧
      (Statement.deleteGroups (.text rule.id)).deletion? =
        some (Table.name .groups, [("rule_id", .given (.text rule.id))]) ∧
      (∀ drafts, change.groups = some drafts →
        InsertsGroups rule.id memory.issued drafts updated.groups ∧
          ∀ issued, ∃ groups, InsertsGroups rule.id issued drafts groups) ∧
      ∀ address, Visiting (fun _ _ => Server.Asked) (loadRule address (.text rule.id)) ∧
        ∀ link : Link, ∃ events outcome later,
          Changing link.server link.trace address rule.id link.issued change events outcome ∧
          (outcome = .ok (some ()) → later = link.issued + change.idCount) ∧
          (repository address).updateRule (.text rule.id) change link =
            (Act.ofExcept outcome >>= readChanged address (.text rule.id))
              (link.after events later) := by
  intro memory
  have numbered : memory.store.Numbered memory.issued := Memory.run_numbered history
  have sound : memory.store.Sound memory.issued := Memory.run_sound history checked
  obtain ⟨after, changed, renewed⟩ := Memory.update_renews numbered.distinct sound stored change
  refine ⟨_, after, changed, renewed, change_assignment _ change, groups_deletion _, ?_, ?_⟩
  · intro drafts given
    have built : (change.apply memory.now memory.issued rule).groups =
        ConditionGroup.ofDrafts rule.id 0 memory.issued drafts := by
      simp only [RuleChange.apply, given]
    exact ⟨built ▸ inserts_built_groups rule.id memory.issued drafts,
      fun issued => ⟨_, inserts_built_groups rule.id issued drafts⟩⟩
  · intro address
    exact ⟨load_visiting address (.text rule.id), update_changing address rule.id change⟩

end Changes

/-- An empty description, an end of activity and one new group. -/
def emptied : RuleChange :=
  ⟨none, some "", none, none, some false, some [⟨.any, [⟨.clicks, .greater, .zero⟩]⟩]⟩

/-- The first rule of the sample is changed so. What the change names is as it says, an empty text
included, and the rest is as it was. -/
theorem sample_partial_update :
    emptied.given.map (·.1) = ["description", "is_active"] ∧
      ∃ rule ∈ (Memory.run Memory.sample).store.rules, rule.id = freshId 0 ∧
        ∃ updated after,
          Memory.repository.updateRule (.text rule.id) emptied
            ((Memory.run Memory.sample).setClock 9) =
              .ok (some ((Memory.run Memory.sample).store.withCount updated)) after ∧
          Memory.Renewed emptied ((Memory.run Memory.sample).setClock 9) rule updated after ∧
          ∀ drafts, emptied.groups = some drafts →
            InsertsGroups rule.id (Memory.run Memory.sample).issued drafts updated.groups := by
  have checked : ∀ event ∈ Memory.sample, event.call.Checked := by
    intro event member
    simp only [Memory.sample, List.mem_cons, List.not_mem_nil, or_false] at member
    rcases member with rfl | rfl | rfl | rfl | rfl
    · exact ⟨⟨⟨0, none⟩, false⟩, (Memory.alwaysDue .pauseCampaign).toValue, rfl⟩
    · exact ⟨⟨⟨0, none⟩, false⟩, (Memory.alwaysDue .sendNotification).toValue, rfl⟩
    · trivial
    · trivial
    · trivial
  have present : ((Memory.run Memory.sample).store.rule? (freshId 0)).isSome = true := by
    decide +kernel
  obtain ⟨rule, found⟩ := Option.isSome_iff_exists.mp present
  have stored := Store.mem_of_rule? found
  obtain ⟨updated, after, changed, renewed, _, _, inserted, _⟩ :=
    partial_updates_agree Memory.sample checked 9 stored emptied
  exact ⟨rfl, rule, stored, Store.id_of_rule? found, updated, after, changed, renewed,
    fun drafts given => (inserted drafts given).1⟩

end AdRules.Database
