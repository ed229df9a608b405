import AdRules.Proofs.Discipline

/-!
# What failed writes leave behind

A new rule and a change of a rule are read back over a second connection once they are committed,
and a stored reading is read from the row that the database gives back, which is also final by then.
A write that fails before its commit has succeeded leaves nothing behind. One that fails afterwards
has been committed as a whole, so it is not undone by the failure and should not be repeated.
-/

namespace AdRules.Database

variable {α β : Type}

/-- Where the operation fails, nothing was committed; or all that was asked over one connection
succeeded and was committed, nothing after it was, and what failed is what was left to do then. -/
def FailsApart (address : String) (action : Act Link α)
    (left : (link committed : Link) → Failure → (after : Link) → Prop) : Prop :=
  ∀ link failure after, action link = .error failure after →
    ∃ events issued, after = link.after events issued ∧
      (¬ link.server.Commits link.trace events ∨
        ∃ written rest taken, events = written ++ rest ∧
          link.server.Whole link.trace address written ∧ rest.countP Event.isCommit = 0 ∧
          left link (link.after written taken) failure after)

/-- An operation that fails apart in one way does so in every weaker way. -/
theorem FailsApart.mono {address : String} {action : Act Link α}
    {left other : Link → Link → Failure → Link → Prop} (apart : FailsApart address action left)
    (weaker : ∀ link committed failure after, left link committed failure after →
      other link committed failure after) : FailsApart address action other := by
  intro link failure after failed
  obtain ⟨events, issued, ended, course⟩ := apart link failure after failed
  refine ⟨events, issued, ended, ?_⟩
  rcases course with uncommitted | ⟨written, rest, taken, joined, whole, asked, reason⟩
  · exact .inl uncommitted
  · exact .inr ⟨written, rest, taken, joined, whole, asked, weaker _ _ _ _ reason⟩

namespace Server

variable {server : Server} {before events : List Event}

/-- Where no commit is asked for, none succeeds. -/
theorem not_commits_of_none (none : events.countP Event.isCommit = 0) :
    ¬ server.Commits before events := by
  rintro ⟨earlier, later, rfl, _⟩
  simp [Event.isCommit] at none

/-- Connections that only ask commit nothing. By induction on the connections. -/
theorem Visits.uncommitted (visits : server.Visits (fun _ => Asked) before events) :
    events.countP Event.isCommit = 0 := by
  induction visits with
  | none before => rfl
  | refused address reason before rest refusal later inductionHypothesis =>
    simpa [Event.isCommit] using inductionHypothesis
  | held address before body rest opens asked later inductionHypothesis =>
    obtain ⟨statements, _⟩ := asked
    simpa [Event.isCommit] using inductionHypothesis

end Server

/-- What follows a transaction and only asks cannot undo it, nor commit anything else. -/
theorem transaction_apart (address : String) {write : Act Link (Option α)}
    {next : Option α → Act Link β} (sends : Sends Statement.isWriting write)
    (asks : ∀ result, Visiting (fun _ _ => Server.Asked) (next result)) :
    FailsApart address (transaction address write >>= next) fun _ committed failure after =>
      ∃ value, next (some value) committed = .error failure after := by
  intro link failure after failed
  obtain ⟨events, issued, ended, _, course⟩ := transaction_course address sends link
  rw [Act.bind_apply] at failed
  cases ran : transaction address write link with
  | error reason between =>
    rw [ran] at failed
    obtain ⟨rfl, rfl⟩ : reason = failure ∧ between = after := by simpa using failed
    refine ⟨events, issued, (Act.state_after_error ran).symm.trans ended, .inl ?_⟩
    rcases course with ⟨⟨value, other, succeeded⟩, _⟩ | ⟨_, uncommitted⟩
    · rw [ran] at succeeded
      cases succeeded
    · exact uncommitted
  | ok result between =>
    rw [ran] at failed
    have reached : between = link.after events issued := (Act.state_after_ok ran).symm.trans ended
    obtain ⟨rest, last, restEnded, visits⟩ := asks result between
    have asked : rest.countP Event.isCommit = 0 := visits.uncommitted
    refine ⟨events ++ rest, last, ?_, ?_⟩
    · rw [← Act.state_after_error failed, restEnded, reached, Link.after_after]
    · rcases course with ⟨⟨value, other, succeeded⟩, whole⟩ | ⟨_, uncommitted⟩
      · rw [ran] at succeeded
        cases succeeded
        rw [reached] at failed
        exact .inr ⟨events, rest, issued, rfl, whole, asked, value, failed⟩
      · refine .inl ?_
        rw [Server.commits_append]
        rintro (commits | commits)
        · exact uncommitted commits
        · exact Server.not_commits_of_none asked commits

section Writing

variable [IdSupply]

/-- Creating a rule fails apart from reading it back. -/
theorem create_apart (address : String) (draft : RuleDraft) (owner : Value) :
    FailsApart address (createRule address draft owner) fun link committed failure after =>
      loadRule address (.text (freshId link.issued)) committed = .error failure after := by
  intro link failure after failed
  have apart := (transaction_apart address (.rule_write (freshId link.issued) draft owner)
    fun _ => load_visiting address (.text (freshId link.issued))).mono
      fun _ _ _ _ ⟨_, reading⟩ => reading
  -- The identifier is issued before anything is asked of the database.
  exact apart { link with issued := link.issued + 1 } failure after failed

/-- Changing a rule fails apart from reading it back. -/
theorem update_apart (address : String) (id : Value) (change : RuleChange) :
    FailsApart address (updateRule address id change) fun _ committed failure after =>
      loadRule address id committed = .error failure after := by
  refine (transaction_apart address (.change_write id change) fun changed => ?_).mono
    fun _ _ _ _ ⟨_, reading⟩ => reading
  cases changed with
  | none => exact .nothing (.throw _)
  | some _ => exact load_visiting address id

end Writing

/-! ## Readings -/

/-- The reading in the row that storing it gave back, if it gave one. -/
def storedReading (setting : Setting) : Option Fields → Except Failure Snapshot
  | none => .error .noRow
  | some row => snapshotOfRow setting row

/-- Stores a reading over the open connection. -/
def readingWrite (id : String) (snapshot : Snapshot) : Act Link Snapshot := do
  let row ← firstRowOf (.upsertCampaign id snapshot)
  commit
  match row with
  | some row => readSnapshot row
  | none => throw .noRow

section Stored

variable {link : Link} {id reason : String} {snapshot : Snapshot} {row : Option Fields}

/-- Where the statement for a reading is refused, nothing has been committed. -/
theorem reading_write_refused
    (refused : link.server.firstRow link.trace (.upsertCampaign id snapshot) = .error reason) :
    readingWrite id snapshot link = .error (.database reason)
      (link.after [.execute (.upsertCampaign id snapshot)] link.issued) := by
  simp only [readingWrite, Act.bind_apply, first_row_failed refused]

/-- Where the statement is accepted and its commit is refused, nothing has been committed either. -/
theorem reading_write_uncommitted
    (found : link.server.firstRow link.trace (.upsertCampaign id snapshot) = .ok row)
    (refused : link.server.commit (link.trace ++ [.execute (.upsertCampaign id snapshot)]) =
      .error reason) :
    readingWrite id snapshot link = .error (.database reason)
      (link.after [.execute (.upsertCampaign id snapshot), .commit] link.issued) := by
  have committing : commit (link.after [.execute (.upsertCampaign id snapshot)] link.issued) = _ :=
    commit_refused refused
  simp only [readingWrite, Act.bind_apply, first_row_found found, committing, Link.after_after]
  rfl

/-- Once the reading is committed it remains to read the row. -/
theorem reading_write_apply
    (found : link.server.firstRow link.trace (.upsertCampaign id snapshot) = .ok row)
    (commits : link.server.commit (link.trace ++ [.execute (.upsertCampaign id snapshot)]) =
      .ok ()) :
    readingWrite id snapshot link = Act.ofExcept (storedReading ⟨link.now, false⟩ row)
      (link.after [.execute (.upsertCampaign id snapshot), .commit] link.issued) := by
  have committing : commit (link.after [.execute (.upsertCampaign id snapshot)] link.issued) = _ :=
    commit_accepted commits
  simp only [readingWrite, Act.bind_apply, first_row_found found, committing, Link.after_after]
  cases row <;> rfl

end Stored

/-- Over a connection of its own, storing a reading fails apart from reading it in the row that was
given back. -/
theorem reading_apart (address id : String) (snapshot : Snapshot) :
    FailsApart address (connected address (readingWrite id snapshot))
      fun link committed failure after => after = committed ∧
        ∃ row, link.server.firstRow (link.trace ++ [.connect address])
            (.upsertCampaign id snapshot) = .ok row ∧
          storedReading ⟨link.now, false⟩ row = .error failure := by
  intro link failure after failed
  let statement : Event := .execute (.upsertCampaign id snapshot)
  let opened := link.after [.connect address] link.issued
  have closed : ∀ events : List Event,
      (opened.after events link.issued).after [.close] link.issued =
        link.after (.connect address :: events ++ [.close]) link.issued := by
    intro events
    rw [Link.after_after, Link.after_after]
    rfl
  cases opens : link.server.connect link.trace with
  | error reason =>
    rw [connected_refused opens] at failed
    cases failed
    exact ⟨_, _, rfl, .inl (by simp [Server.commits_cons])⟩
  | ok _ =>
    cases found : opened.server.firstRow opened.trace (.upsertCampaign id snapshot) with
    | error reason =>
      rw [connected_failed opens (reading_write_refused found)] at failed
      cases failed
      exact ⟨_, _, closed _, .inl (by simp [Server.commits_cons])⟩
    | ok row =>
      have answer : link.server.answer opened.trace statement = .ok () :=
        (Server.answer_first_row rfl).trans (congrArg _ found)
      cases commits : opened.server.commit (opened.trace ++ [statement]) with
      | error reason =>
        rw [connected_failed opens (reading_write_uncommitted found commits)] at failed
        cases failed
        have refused : link.server.answer (link.trace ++ [.connect address, statement]) .commit =
            .error reason := by
          rwa [show opened.trace ++ [statement] = link.trace ++ [.connect address, statement] from
            List.append_assoc _ _ _] at commits
        exact ⟨_, _, closed _, .inl (by simp [Server.commits_cons, statement, refused])⟩
      | ok _ =>
        have ran := reading_write_apply found commits
        cases read : storedReading ⟨opened.now, false⟩ row with
        | ok reading =>
          rw [read] at ran
          rw [connected_apply opens ran] at failed
          cases failed
        | error reason =>
          rw [read] at ran
          rw [connected_failed opens ran] at failed
          cases failed
          have whole : link.server.Whole link.trace address
              [.connect address, statement, .commit, .close] :=
            ⟨[.upsertCampaign id snapshot], rfl, opens, answer, commits, rfl, trivial⟩
          exact ⟨_, _, closed _, .inr ⟨_, [], link.issued, (List.append_nil _).symm, whole, rfl,
            closed _, row, found, read⟩⟩

/-- The identifier of the row in which a reading is stored, unless its campaign has one already: its
own, or a new one. -/
def readingId [IdSupply] (link : Link) (snapshot : Snapshot) : String :=
  (givenId? snapshot.id).getD (freshId link.issued)

/-- Storing a reading fails apart from reading it in the row that was given back. -/
theorem upsert_apart [IdSupply] (address : String) (snapshot : Snapshot) :
    FailsApart address (upsertCampaign address snapshot) fun link committed failure after =>
      after = committed ∧
        ∃ row, link.server.firstRow (link.trace ++ [.connect address])
            (.upsertCampaign (readingId link snapshot) snapshot) = .ok row ∧
          storedReading ⟨link.now, false⟩ row = .error failure := by
  intro link failure after failed
  cases opens : link.server.connect link.trace with
  | error reason =>
    have refused : upsertCampaign address snapshot link = _ := connected_refused opens
    rw [refused] at failed
    cases failed
    exact ⟨_, _, rfl, .inl (by simp [Server.commits_cons])⟩
  | ok _ =>
    -- The identifier is chosen on the open connection before anything is sent.
    let named : Link := { link with
      issued := if (givenId? snapshot.id).isSome then link.issued else link.issued + 1 }
    have issuing : idOr snapshot.id (link.after [.connect address] link.issued) =
        .ok (readingId link snapshot) (named.after [.connect address] named.issued) :=
      (id_or_apply _ _).trans (congrArg _ (Link.after_after _ _ _ _ _))
    have used : (idOr snapshot.id >>= fun id => readingWrite id snapshot)
        (link.after [.connect address] link.issued) =
          readingWrite (readingId link snapshot) snapshot
            (named.after [.connect address] named.issued) := by
      rw [Act.bind_apply, issuing]
    have same : upsertCampaign address snapshot link =
        connected address (readingWrite (readingId link snapshot) snapshot) named := by
      have opensNamed : named.server.connect named.trace = .ok () := opens
      cases ran : readingWrite (readingId link snapshot) snapshot
          (named.after [.connect address] named.issued) with
      | ok value between =>
        rw [connected_apply opensNamed ran]
        exact connected_apply opens (used.trans ran)
      | error reason between =>
        rw [connected_failed opensNamed ran]
        exact connected_failed opens (used.trans ran)
    rw [same] at failed
    exact reading_apart address (readingId link snapshot) snapshot named failure after failed

/-! ## All three -/

/-- Where a rule cannot be created or changed or a reading cannot be stored, either nothing was
committed, or everything was and only what came after that failed: reading the rule back over
another connection, or finding a sound reading in the row that was given back. -/
theorem failed_writes_apart [IdSupply] (address : String) :
    (∀ draft owner, FailsApart address (createRule address draft owner)
      fun link committed failure after =>
        loadRule address (.text (freshId link.issued)) committed = .error failure after) ∧
    (∀ id change, FailsApart address (updateRule address id change)
      fun _ committed failure after => loadRule address id committed = .error failure after) ∧
    ∀ snapshot, FailsApart address (upsertCampaign address snapshot)
      fun link committed failure after => after = committed ∧
        ∃ row, link.server.firstRow (link.trace ++ [.connect address])
            (.upsertCampaign (readingId link snapshot) snapshot) = .ok row ∧
          storedReading ⟨link.now, false⟩ row = .error failure :=
  ⟨create_apart address, update_apart address, upsert_apart address⟩

/-- A database that takes everything and is lost when a rule is asked for. -/
def forgetfulLink : Link where
  server :=
    { connect := fun _ => .ok ()
      execute := fun _ statement => match statement with
        | .selectRule _ => .error "connection lost"
        | _ => .ok ⟨.ok [], 1⟩
      commit := fun _ => .ok () }
  trace := []
  now := ⟨5, none⟩
  issued := 0

/-- One group with one condition. -/
def smallDraft : RuleDraft :=
  ⟨"Quiet", none, .sendNotification, none, true, [⟨.all, [⟨.clicks, .less, .zero⟩]⟩]⟩

/-- What is asked of that database when the rule is created. -/
def forgottenEvents : List Event :=
  writing "local" (ruleInserts 0 smallDraft .null) ++
    [.connect "local", .execute (.selectRule (.text (freshId 0))), .close]

/-- Creating a rule in a database that is lost right after the commit fails, although the rule is
stored. The events show the commit and the second connection. -/
theorem forgetful_create : createRule "local" smallDraft .null forgetfulLink =
    .error (.database "connection lost") (forgetfulLink.after forgottenEvents 3) := rfl

/-- Of that failure the general statement says the same: either nothing was committed, or everything
was and reading the rule back has failed. -/
theorem sample_failed_write :
    ∃ events issued, forgetfulLink.after forgottenEvents 3 = forgetfulLink.after events issued ∧
      (¬ forgetfulLink.server.Commits [] events ∨
        ∃ written rest taken, events = written ++ rest ∧
          forgetfulLink.server.Whole [] "local" written ∧ rest.countP Event.isCommit = 0 ∧
          loadRule "local" (.text (freshId 0)) (forgetfulLink.after written taken) =
            .error (.database "connection lost") (forgetfulLink.after forgottenEvents 3)) :=
  (failed_writes_apart "local").1 smallDraft .null forgetfulLink _ _ forgetful_create

/-- The rule is there although creating it failed: what failed is reading it back, after its rows
had been committed. -/
theorem created_though_failed :
    ¬ ∀ (draft : RuleDraft) (owner : Value) (link after : Link) (failure : Failure),
      createRule "local" draft owner link = .error failure after →
        ∀ events issued, after = link.after events issued →
          ¬ link.server.Commits link.trace events := by
  intro nothingLeft
  refine nothingLeft smallDraft .null forgetfulLink _ _ forgetful_create forgottenEvents 3 rfl ?_
  exact ⟨.connect "local" :: (ruleInserts 0 smallDraft .null).map .execute, _, rfl, rfl⟩

end AdRules.Database
