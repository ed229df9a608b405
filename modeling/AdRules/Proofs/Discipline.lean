import AdRules.Proofs.Histories
import AdRules.Proofs.KeptRows
import AdRules.Proofs.Sending

/-!
# Connections and transactions in order

Whatever is asked of the repository in a database, and wherever the database fails, every connection
that is opened is closed before the next one is opened and before the operation ends; nothing is
sent over a connection after a commit or a rollback; only what succeeded as a whole is committed;
and what a new rule, a change of a rule or the record of an execution wrote is rolled back once
unless it was committed. These are properties of traces. An operation is known by the sequence of
connections it uses, and a connection by what is sent over it and how that ends.
-/

namespace AdRules.Database

/-! ## What a trace shows -/

namespace Event

/-- The event opens or closes a connection. -/
def isOfConnection : Event → Bool
  | .connect _ | .close => true
  | .execute _ | .commit | .rollback => false

/-- The event is a commit. -/
def isCommit : Event → Bool
  | .commit => true
  | _ => false

/-- The event is a rollback. -/
def isRollback : Event → Bool
  | .rollback => true
  | _ => false

/-- The event ends a transaction. -/
def isEnd (event : Event) : Bool := event.isCommit || event.isRollback

end Event

namespace Server

variable {server : Server} {before : List Event}

/-- Something is committed: there is a commit that succeeds. A commit that the server refuses does
not count, whatever the server has made of it. -/
def Commits (server : Server) (before events : List Event) : Prop :=
  ∃ earlier later, events = earlier ++ .commit :: later ∧
    server.answer (before ++ earlier) .commit = .ok ()

/-- Where nothing happens nothing is committed. -/
@[simp] theorem not_commits_nil : ¬ server.Commits before [] := by
  rintro ⟨earlier, later, split, _⟩
  simp at split

/-- A commit that succeeds is the first event, or comes after it. -/
theorem commits_cons {event : Event} {rest : List Event} :
    server.Commits before (event :: rest) ↔
      (event = .commit ∧ server.answer before .commit = .ok ()) ∨
        server.Commits (before ++ [event]) rest := by
  constructor
  · rintro ⟨earlier, later, split, commits⟩
    cases earlier with
    | nil =>
      obtain ⟨rfl, _⟩ := List.cons.inj split
      exact .inl ⟨rfl, by simpa using commits⟩
    | cons first others =>
      obtain ⟨rfl, rfl⟩ := List.cons.inj split
      exact .inr ⟨others, later, rfl, by simpa using commits⟩
  · rintro (⟨rfl, commits⟩ | ⟨earlier, later, rfl, commits⟩)
    · exact ⟨[], rest, rfl, by simpa using commits⟩
    · exact ⟨event :: earlier, later, rfl, by simpa using commits⟩

/-- Something is committed in two stretches one after the other if it is in one of them, the second
one being seen by the server after the first. -/
theorem commits_append {first second : List Event} :
    server.Commits before (first ++ second) ↔
      server.Commits before first ∨ server.Commits (before ++ first) second := by
  induction first generalizing before with
  | nil => simp
  | cons event rest inductionHypothesis =>
    simp only [List.cons_append, commits_cons, inductionHypothesis, List.append_assoc,
      List.nil_append, or_assoc]

/-- Statements by themselves commit nothing. -/
theorem sent_uncommitted {statements : List Statement} :
    ¬ server.Commits before (statements.map .execute) := by
  induction statements generalizing before with
  | nil => simp
  | cons statement rest inductionHypothesis =>
    simpa [commits_cons] using inductionHypothesis

/-- What happens on a connection while it is open is in order. -/
structure Orderly (server : Server) (before body : List Event) : Prop where
  /-- No connection is opened or closed meanwhile. -/
  held : ∀ event ∈ body, event.isOfConnection = false
  /-- After a commit or a rollback nothing is sent any more. -/
  last : ∀ earlier event later, body = earlier ++ event :: later → event.isEnd = true →
    ∀ statement, .execute statement ∉ later
  /-- There is at most one commit. -/
  once : body.countP Event.isCommit ≤ 1
  /-- What comes before a commit succeeded as a whole. -/
  earned : ∀ earlier later, body = earlier ++ .commit :: later → server.Answers before earlier

/-- What was written over a connection is rolled back exactly once if it was not committed, and
never otherwise. -/
structure Settled (server : Server) (before body : List Event) : Prop where
  undone : ¬ server.Commits before body → body.countP Event.isRollback = 1
  kept : server.Commits before body → body.countP Event.isRollback = 0

/-- Events are the uses of some connections, one after the other: every connection that is opened is
closed after what happens on it, which follows a rule, and one that cannot be opened is left at
that. -/
inductive Visits (server : Server) (rule : List Event → List Event → Prop) :
    List Event → List Event → Prop where
  | none (before : List Event) : Visits server rule before []
  | refused (address reason : String) (before rest : List Event)
      (refusal : server.answer before (.connect address) = .error reason)
      (later : Visits server rule (before ++ [.connect address]) rest) :
      Visits server rule before (.connect address :: rest)
  | held (address : String) (before body rest : List Event)
      (opens : server.answer before (.connect address) = .ok ())
      (inOrder : rule (before ++ [.connect address]) body)
      (later : Visits server rule (before ++ (.connect address :: body ++ [.close])) rest) :
      Visits server rule before (.connect address :: body ++ [.close] ++ rest)

namespace Visits

variable {rule other : List Event → List Event → Prop}

/-- Further connections are used after the ones before. -/
theorem append {first second : List Event} (visits : server.Visits rule before first)
    (more : server.Visits rule (before ++ first) second) :
    server.Visits rule before (first ++ second) := by
  induction visits with
  | none before => simpa using more
  | refused address reason before rest refusal later inductionHypothesis =>
    exact .refused address reason before _ refusal (inductionHypothesis (by simpa using more))
  | held address before body rest opens inOrder later inductionHypothesis =>
    rw [List.append_assoc _ rest second]
    exact .held address before body _ opens inOrder
      (inductionHypothesis (by simpa only [List.append_assoc] using more))

/-- What follows a rule also follows one that allows more. -/
theorem mono {events : List Event} (weaker : ∀ before body, rule before body → other before body)
    (visits : server.Visits rule before events) : server.Visits other before events := by
  induction visits with
  | none before => exact .none before
  | refused address reason before rest refusal later inductionHypothesis =>
    exact .refused address reason before rest refusal inductionHypothesis
  | held address before body rest opens inOrder later inductionHypothesis =>
    exact .held address before body rest opens (weaker _ body inOrder) inductionHypothesis

end Visits

/-! ## How the use of a connection ends -/

/-- Only queries are sent, any number of them, and nothing is committed. -/
inductive Asked : List Event → Prop where
  | asked (statements : List Statement)
      (queries : ∀ statement ∈ statements, statement.isQuery = true) :
      Asked (statements.map .execute)

/-- Something is sent and then committed, unless it fails; a failure leaves it at that. -/
inductive Written (server : Server) (before : List Event) : List Event → Prop where
  | failed (statements : List Statement) : Written server before (statements.map .execute)
  | tried (statements : List Statement)
      (answered : server.Answers before (statements.map .execute)) :
      Written server before (statements.map .execute ++ [.commit])

/-- Something is written and committed. Where writing or the commit fails, or nothing comes of it,
it is rolled back. -/
inductive Transacted (server : Server) (before : List Event) : List Event → Prop where
  | undone (statements : List Statement)
      (writing : ∀ statement ∈ statements, statement.isWriting = true) :
      Transacted server before (statements.map .execute ++ [.rollback])
  | uncommitted (statements : List Statement) (reason : String)
      (writing : ∀ statement ∈ statements, statement.isWriting = true)
      (answered : server.Answers before (statements.map .execute))
      (refused : server.answer (before ++ statements.map .execute) .commit = .error reason) :
      Transacted server before (statements.map .execute ++ [.commit, .rollback])
  | committed (statements : List Statement)
      (writing : ∀ statement ∈ statements, statement.isWriting = true)
      (answered : server.Answers before (statements.map .execute))
      (commits : server.answer (before ++ statements.map .execute) .commit = .ok ()) :
      Transacted server before (statements.map .execute ++ [.commit])

/-- An end of a transaction stands behind all that was sent before it. -/
theorem end_after_sent {statements : List Statement} {ending earlier later : List Event}
    {event : Event} (isEnd : event.isEnd = true)
    (split : statements.map .execute ++ ending = earlier ++ event :: later) :
    ∃ between, earlier = statements.map .execute ++ between ∧
      ending = between ++ event :: later := by
  rcases List.append_eq_append_iff.mp split with ⟨between, same, rest⟩ | ⟨between, same, rest⟩
  · exact ⟨between, same, rest⟩
  · cases between with
    | nil => exact ⟨[], by simpa using same.symm, by simpa using rest.symm⟩
    | cons first others =>
      obtain ⟨rfl, _⟩ := List.cons.inj rest
      have sent : event ∈ statements.map Event.execute := same ▸ by simp
      obtain ⟨statement, _, rfl⟩ := List.mem_map.mp sent
      cases isEnd

/-- Statements that end in at most one commit, before which all of them succeeded, are in order. -/
theorem Orderly.of_ending {statements : List Statement} {ending : List Event}
    (ends : ∀ event ∈ ending, event.isEnd = true) (once : ending.countP Event.isCommit ≤ 1)
    (earned : ∀ earlier later, ending = earlier ++ .commit :: later →
      earlier = [] ∧ server.Answers before (statements.map .execute)) :
    server.Orderly before (statements.map .execute ++ ending) where
  held := by
    intro event happened
    rcases List.mem_append.mp happened with sent | ended
    · obtain ⟨statement, _, rfl⟩ := List.mem_map.mp sent
      rfl
    · have isEnd := ends event ended
      cases event with
      | connect _ | close => cases isEnd
      | execute _ | commit | rollback => rfl
  last := by
    intro earlier event later split isEnd statement sent
    obtain ⟨between, _, rfl⟩ := end_after_sent isEnd split
    have wrong := ends (.execute statement) (by simp [sent])
    cases wrong
  once := by
    have unsent : (statements.map Event.execute).countP Event.isCommit = 0 := by
      simp [List.countP_eq_zero, Event.isCommit]
    rw [List.countP_append, unsent, Nat.zero_add]
    exact once
  earned := by
    intro earlier later split
    obtain ⟨between, rfl, rest⟩ := end_after_sent rfl split
    obtain ⟨rfl, answered⟩ := earned between later rest
    simpa using answered

/-- Statements by themselves are in order. -/
theorem Orderly.of_sent (statements : List Statement) :
    server.Orderly before (statements.map .execute) := by
  have ordered : server.Orderly before (statements.map .execute ++ []) :=
    .of_ending (by simp) (by simp) (by simp)
  rwa [List.append_nil] at ordered

/-- Questions alone are in order, since they neither commit nor roll back. -/
theorem Asked.orderly {body : List Event} (asked : Asked body) : server.Orderly before body := by
  obtain ⟨statements, _⟩ := asked
  exact .of_sent statements

/-- What is written outside a transaction is in order: it is committed at the end or not at all. -/
theorem Written.orderly {body : List Event} (written : server.Written before body) :
    server.Orderly before body := by
  cases written with
  | failed statements => exact .of_sent statements
  | tried statements answered =>
    refine .of_ending (by simp [Event.isEnd, Event.isCommit]) (by decide) ?_
    intro earlier later split
    cases earlier with
    | nil => exact ⟨rfl, answered⟩
    | cons first rest => simp at split

/-- A transaction is in order. It ends with a commit, with a commit that was refused and a rollback,
or with a rollback alone. -/
theorem Transacted.orderly {body : List Event} (transacted : server.Transacted before body) :
    server.Orderly before body := by
  cases transacted with
  | undone statements _ =>
    refine .of_ending (by simp [Event.isEnd, Event.isRollback]) (by decide) ?_
    intro earlier later split
    cases earlier <;> simp at split
  | uncommitted statements reason _ answered refused =>
    refine .of_ending (by simp [Event.isEnd, Event.isCommit, Event.isRollback]) (by decide) ?_
    intro earlier later split
    cases earlier with
    | nil => exact ⟨rfl, answered⟩
    | cons first rest => cases rest <;> simp at split
  | committed statements _ answered commits => exact (Written.tried statements answered).orderly

/-- What was rolled back was not committed. -/
theorem Transacted.settled {body : List Event} (transacted : server.Transacted before body) :
    server.Settled before body := by
  cases transacted with
  | undone statements _ =>
    constructor
    · intro _
      simp [Event.isRollback]
    · intro commits
      simp [commits_append, commits_cons, sent_uncommitted] at commits
  | uncommitted statements reason _ answered refused =>
    constructor
    · intro _
      simp [Event.isRollback]
    · intro commits
      simp [commits_append, commits_cons, sent_uncommitted, refused] at commits
  | committed statements _ answered commits =>
    constructor
    · intro uncommitted
      exact absurd ⟨_, [], rfl, commits⟩ uncommitted
    · intro _
      simp [Event.isRollback]

end Server

/-! ## Operations that use connections -/

variable {α β : Type}

/-- What an operation asks of the database follows a rule about what happened before and what
happens in it. -/
def Follows (rule : Server → List Event → List Event → Prop) (action : Act Link α) : Prop :=
  ∀ link, ∃ events issued,
    action.stateAfter link = link.after events issued ∧ rule link.server link.trace events

/-- What an operation asks of the database are uses of connections that follow a rule. -/
def Visiting (rule : Server → List Event → List Event → Prop) (action : Act Link α) : Prop :=
  Follows (fun server => server.Visits (rule server)) action

variable {rule other : Server → List Event → List Event → Prop}

/-- What only sends queries asks for something and ends at that. -/
theorem Sends.asked {action : Act Link α} (sends : Sends Statement.isQuery action) :
    Follows (fun _ _ => Server.Asked) action := by
  intro link
  obtain ⟨statements, issued, ended, queries, _⟩ := sends link
  exact ⟨_, issued, ended, .asked statements queries⟩

/-! ### What is committed at the end -/

/-- A commit is the end; what follows it sends nothing. -/
theorem written_commit {action : Act Link α} (sends : Sends (fun _ => false) action) :
    Follows Server.Written (commit >>= fun _ => action) := by
  intro link
  refine ⟨[.commit], ?_⟩
  cases committed : link.server.commit link.trace with
  | error reason =>
    refine ⟨link.issued, Act.state_after_failed (commit_refused committed), .tried [] trivial⟩
  | ok _ =>
    obtain ⟨issued, ended⟩ := sends.silent (link.after [.commit] link.issued)
    refine ⟨issued, ?_, .tried [] trivial⟩
    rw [Act.state_after_bind (commit_accepted committed), ended, Link.after_after]
    rfl

/-- What is sent before, and succeeds, belongs to what is committed. -/
theorem Sends.written {first : Act Link α} {next : α → Act Link β}
    (sends : Sends (fun _ => true) first) (rest : ∀ value, Follows Server.Written (next value)) :
    Follows Server.Written (first >>= next) := by
  intro link
  obtain ⟨earlier, issued, ended, _, earlierAnswered⟩ := sends link
  cases ran : first link with
  | error failure between =>
    refine ⟨_, issued, ?_, .failed earlier⟩
    rw [Act.state_after_failed ran, ← Act.state_after_error ran, ended]
  | ok value between =>
    have reached : between = link.after (earlier.map .execute) issued :=
      (Act.state_after_ok ran).symm.trans ended
    have answered := earlierAnswered value between ran
    obtain ⟨body, last, restEnded, written⟩ := rest value between
    refine ⟨earlier.map .execute ++ body, last, ?_, ?_⟩
    · rw [Act.state_after_bind ran, restEnded, reached, Link.after_after]
    · rw [reached] at written
      cases written with
      | failed statements =>
        rw [← List.map_append]
        exact .failed (earlier ++ statements)
      | tried statements laterAnswered =>
        rw [← List.append_assoc, ← List.map_append]
        refine .tried (earlier ++ statements) ?_
        rw [List.map_append, Server.answers_append]
        exact ⟨answered, laterAnswered⟩

/-! ### Transactions -/

/-- All that is asked over a connection of its own succeeds and is committed. -/
def Server.Whole (server : Server) (before : List Event) (address : String) (events : List Event) :
    Prop :=
  ∃ statements, events = writing address statements ∧ server.Answers before events

/-- A transaction is one connection whose writing is committed or rolled back. It has a result
exactly if all that was written was committed. -/
theorem transaction_course (address : String) {write : Act Link (Option α)}
    (sends : Sends Statement.isWriting write) (link : Link) :
    ∃ events issued, (transaction address write).stateAfter link = link.after events issued ∧
      link.server.Visits link.server.Transacted link.trace events ∧
      (((∃ value after, transaction address write link = .ok (some value) after) ∧
          link.server.Whole link.trace address events) ∨
        ((∀ value after, transaction address write link ≠ .ok (some value) after) ∧
          ¬ link.server.Commits link.trace events)) := by
  cases opens : link.server.connect link.trace with
  | error reason =>
    have ran : transaction address write link = _ := transaction_refused opens
    refine ⟨[.connect address], link.issued, Act.state_after_error ran,
      .refused address reason link.trace [] opens (.none _), .inr ⟨?_, ?_⟩⟩
    · simp [ran]
    · simp [Server.commits_cons]
  | ok _ =>
    obtain ⟨statements, issued, ended, writing, answered⟩ :=
      sends (link.after [.connect address] link.issued)
    -- Whatever the ending, it stands between what was sent and the closing of the connection.
    have use : ∀ ending between, write.stateAfter (link.after [.connect address] link.issued) =
        between → (transaction address write).stateAfter link =
          between.after (ending ++ [.close]) between.issued →
        link.server.Transacted (link.trace ++ [.connect address])
          (statements.map .execute ++ ending) →
        (transaction address write).stateAfter link =
            link.after (.connect address :: (statements.map .execute ++ ending) ++ [.close])
              issued ∧
          link.server.Visits link.server.Transacted link.trace
            (.connect address :: (statements.map .execute ++ ending) ++ [.close]) := by
      rintro ending _ rfl closed transacted
      constructor
      · rw [closed, ended, Link.after_after, Link.after_after]
        simp [Link.after]
      · have visit := Server.Visits.held address link.trace _ [] opens transacted (.none _)
        rwa [List.append_nil] at visit
    -- Only a commit that succeeds commits anything.
    have undone : ∀ ending, ¬ link.server.Commits
          (link.trace ++ .connect address :: statements.map .execute) ending →
        ¬ link.server.Commits link.trace
          (.connect address :: (statements.map .execute ++ ending) ++ [.close]) := by
      intro ending uncommitted
      simp [Server.commits_append, Server.commits_cons, Server.sent_uncommitted, uncommitted]
    cases ran : write (link.after [.connect address] link.issued) with
    | error failure between =>
      have failed := transaction_failed opens ran
      obtain ⟨reached, visits⟩ := use [.rollback] between (Act.state_after_error ran)
        (Act.state_after_error failed) (.undone statements writing)
      exact ⟨_, issued, reached, visits, .inr ⟨by simp [failed],
        undone _ (by simp [Server.commits_cons])⟩⟩
    | ok result between =>
      cases result with
      | none =>
        have dropped := transaction_dropped opens ran
        obtain ⟨reached, visits⟩ := use [.rollback] between (Act.state_after_ok ran)
          (Act.state_after_ok dropped) (.undone statements writing)
        exact ⟨_, issued, reached, visits, .inr ⟨by simp [dropped],
          undone _ (by simp [Server.commits_cons])⟩⟩
      | some value =>
        have reached : between = (link.after [.connect address] link.issued).after
            (statements.map .execute) issued := (Act.state_after_ok ran).symm.trans ended
        have sent := answered (some value) between ran
        cases commits : between.server.commit between.trace with
        | error reason =>
          have failed := transaction_uncommitted opens ran commits
          rw [reached] at commits
          obtain ⟨closed, visits⟩ := use [.commit, .rollback] between (Act.state_after_ok ran)
            (Act.state_after_error failed) (.uncommitted statements reason writing sent commits)
          have refused : link.server.answer
              (link.trace ++ .connect address :: statements.map .execute) .commit =
                .error reason := by
            simpa [Link.after, Server.answer] using commits
          exact ⟨_, issued, closed, visits, .inr ⟨by simp [failed],
            undone _ (by simp [Server.commits_cons, refused])⟩⟩
        | ok _ =>
          have committed := transaction_apply opens ran commits
          rw [reached] at commits
          obtain ⟨closed, visits⟩ := use [.commit] between (Act.state_after_ok ran)
            (Act.state_after_ok committed) (.committed statements writing sent commits)
          have whole : link.server.Answers (link.trace ++ [.connect address])
              (statements.map .execute ++ [.commit, .close]) :=
            Server.answers_append.mpr ⟨sent, commits, rfl, trivial⟩
          exact ⟨_, issued, closed, visits, .inl ⟨⟨value, _, committed⟩, statements,
            by simp [Database.writing], opens, by simpa using whole⟩⟩

namespace Visiting

/-- What opens no connection uses none. -/
theorem nothing {action : Act Link α} (sends : Sends (fun _ => false) action) :
    Visiting rule action := by
  intro link
  obtain ⟨issued, ended⟩ := sends.silent link
  exact ⟨[], issued, ended, .none link.trace⟩

/-- An operation that visits by one rule visits by every weaker one. -/
theorem mono {action : Act Link α}
    (weaker : ∀ server before body, rule server before body → other server before body)
    (visiting : Visiting rule action) : Visiting other action := by
  intro link
  obtain ⟨events, issued, ended, visits⟩ := visiting link
  exact ⟨events, issued, ended, visits.mono (weaker link.server)⟩

/-- The second operation uses its connections after the first one has closed its own. -/
theorem bind {first : Act Link α} {next : α → Act Link β} (visiting : Visiting rule first)
    (rest : ∀ value, Visiting rule (next value)) : Visiting rule (first >>= next) := by
  intro link
  obtain ⟨earlier, issued, ended, visits⟩ := visiting link
  cases ran : first link with
  | error failure between =>
    refine ⟨earlier, issued, ?_, visits⟩
    rw [Act.state_after_failed ran, ← Act.state_after_error ran, ended]
  | ok value between =>
    have reached : between = link.after earlier issued := (Act.state_after_ok ran).symm.trans ended
    obtain ⟨later, last, restEnded, moreVisits⟩ := rest value between
    refine ⟨earlier ++ later, last, ?_, ?_⟩
    · rw [Act.state_after_bind ran, restEnded, reached, Link.after_after]
    · rw [reached] at moreVisits
      exact visits.append moreVisits

/-- What is made of a result is no matter between the operation and the server. -/
theorem map (convert : α → β) {action : Act Link α} (visiting : Visiting rule action) :
    Visiting rule (convert <$> action) := by
  intro link
  rw [Act.state_after_map]
  exact visiting link

/-- One connection that is opened, used and closed again. -/
theorem connected (address : String) {use : Act Link α} (follows : Follows rule use) :
    Visiting rule (Database.connected address use) := by
  intro link
  cases opens : link.server.connect link.trace with
  | error reason =>
    refine ⟨[.connect address], link.issued, Act.state_after_error (connected_refused opens), ?_⟩
    exact .refused address reason link.trace [] opens (.none _)
  | ok _ =>
    obtain ⟨body, issued, ended, inOrder⟩ := follows (link.after [.connect address] link.issued)
    refine ⟨.connect address :: body ++ [.close], issued, ?_, ?_⟩
    · have closed : ∀ between,
          use.stateAfter (link.after [.connect address] link.issued) = between →
          between.after [.close] between.issued =
            link.after (.connect address :: body ++ [.close]) issued := by
        rintro _ rfl
        rw [ended, Link.after_after, Link.after_after]
        rfl
      cases used : use (link.after [.connect address] link.issued) with
      | ok value between =>
        rw [Act.state_after_ok (connected_apply opens used)]
        exact closed between (Act.state_after_ok used)
      | error failure between =>
        rw [Act.state_after_error (connected_failed opens used)]
        exact closed between (Act.state_after_error used)
    · have visit : link.server.Visits (rule link.server) link.trace _ :=
        .held address link.trace body [] opens inOrder (.none _)
      rwa [List.append_nil] at visit

/-- One connection whose writing is committed or rolled back. -/
theorem transaction (address : String) {write : Act Link (Option α)}
    (sends : Sends Statement.isWriting write) :
    Visiting Server.Transacted (Database.transaction address write) := by
  intro link
  obtain ⟨events, issued, ended, visits, _⟩ := transaction_course address sends link
  exact ⟨events, issued, ended, visits⟩

end Visiting

/-! ## The operations of the repository -/

/-- Asking for rows, and for what belongs to them, over one connection. -/
theorem visiting_queries (address : String) {use : Act Link α}
    (sends : Sends Statement.isQuery use) :
    Visiting (fun _ _ => Server.Asked) (connected address use) :=
  .connected address sends.asked

/-- The latest reading is asked for in one visit. -/
theorem latest_visiting (address : String) :
    Visiting (fun _ _ => Server.Asked) (latestCampaign address) := by
  refine visiting_queries address (.bind (.first_row rfl) fun row => ?_)
  split
  · exact .map some (.read_snapshot _)
  · exact .pure none

/-- The latest reading with its logs is asked for in one visit, in which the logs are asked for only
if there is a reading. -/
theorem latest_with_logs_visiting (address : String) (limit : Value) :
    Visiting (fun _ _ => Server.Asked) (latestCampaignWithLogs address limit) := by
  refine .bind (latest_visiting address) fun snapshot => ?_
  cases snapshot with
  | none => exact .nothing (.pure none)
  | some snapshot =>
    refine .bind (visiting_queries address ?_) fun logs => .nothing (.pure _)
    exact .bind (.rows rfl) .read_logs

/-- Rules are asked for in one visit, with their groups and conditions. -/
theorem rules_visiting (address : String) {query : Statement} (asks : query.isQuery = true) :
    Visiting (fun _ _ => Server.Asked) (rulesOf address query) := by
  refine .bind (visiting_queries address ?_) fun found => .nothing (.of_except _)
  refine .bind (.rows asks) fun rows => .bind (.of_except _) fun ids => ?_
  exact .bind (.groups_of ids) fun groups => .pure _

/-- A single rule is asked for in one visit, with its groups and conditions. -/
theorem load_visiting (address : String) (id : Value) :
    Visiting (fun _ _ => Server.Asked) (loadRule address id) := by
  refine .bind (visiting_queries address (.bind (.first_row rfl) fun row => ?_)) fun found => ?_
  · split
    · exact .pure none
    · exact .bind (.groups_of [id]) fun groups => .pure _
  · cases found with
    | none => exact .nothing (.pure none)
    | some found =>
      exact .nothing (.bind (.of_except _) fun _ => .map some (.of_except _))

/-- A rule with its logs takes one visit; without a rule the logs are not asked for. -/
theorem rule_with_logs_visiting (address : String) (id limit : Value) :
    Visiting (fun _ _ => Server.Asked) (ruleWithLogs address id limit) := by
  refine .bind (load_visiting address id) fun rule => ?_
  cases rule with
  | none => exact .nothing (.pure none)
  | some rule =>
    refine .bind (visiting_queries address ?_) fun logs => .nothing (.pure _)
    exact .bind (.rows rfl) .read_logs

/-- A log is asked for in one visit. -/
theorem find_log_visiting (address : String) (ruleId campaignId action status : Value) :
    Visiting (fun _ _ => Server.Asked) (findLog address ruleId campaignId action status) := by
  refine visiting_queries address ?_
  refine .bind (.of_except _) fun action => .bind (.of_except _) fun status => ?_
  refine .bind (.first_row rfl) fun row => ?_
  split
  · exact .map List.head? (.read_logs _)
  · exact .pure none

/-- A list of logs is asked for in one visit. -/
theorem logs_visiting (address : String) (ruleId limit : Value) :
    Visiting (fun _ _ => Server.Asked) (logs address ruleId limit) :=
  visiting_queries address (.bind (.rows rfl) .read_logs)

/-- Preparing the database is one visit, in which the statements of the schema are committed. -/
theorem prepare_visiting (address : String) : Visiting Server.Written (prepare address) := by
  have committed : Follows Server.Written (commit >>= fun _ => (pure () : Act Link Unit)) :=
    written_commit (.pure ())
  rw [bind_pure_unit] at committed
  exact .connected address (Sends.written (.execute rfl rfl) fun _ => committed)

/-- Deleting is one visit, in which one statement is committed, whether or not it found a rule. -/
theorem delete_visiting (address : String) (id : Value) :
    Visiting Server.Written (deleteRule address id) := by
  refine .bind (.connected address ?_) fun reply => ?_
  · exact Sends.written (.execute rfl rfl) fun reply =>
      written_commit (.pure reply)
  · split
    · exact .nothing (.throw _)
    · exact .nothing (.pure ())

/-- A connection that only asks, or one whose writing is committed or rolled back. -/
def Transacting (server : Server) (before body : List Event) : Prop :=
  Server.Asked body ∨ server.Transacted before body

section Writing

variable [IdSupply]

/-- Storing a reading is one visit, in which one statement is committed. -/
theorem upsert_visiting (address : String) (snapshot : Snapshot) :
    Visiting Server.Written (upsertCampaign address snapshot) := by
  refine .connected address (Sends.written (.id_or _) fun id => ?_)
  refine Sends.written (.first_row rfl) fun row => written_commit ?_
  cases row with
  | none => exact .throw _
  | some row => exact .read_snapshot row

/-- Creating a rule is a transaction, and a visit of its own to read the rule back. -/
theorem create_visiting (address : String) (draft : RuleDraft) (owner : Value) :
    Visiting Transacting (createRule address draft owner) := by
  refine .bind (.nothing .issue) fun id => .bind (.mono (fun _ _ _ => .inr) ?_) fun _ =>
    .mono (fun _ _ _ => .inl) (load_visiting address (.text id))
  exact .transaction address (.rule_write id draft owner)

/-- So is changing a rule, where looking for the rule is part of the transaction. -/
theorem update_visiting (address : String) (id : Value) (change : RuleChange) :
    Visiting Transacting (updateRule address id change) := by
  refine .bind (.mono (fun _ _ _ => .inr) ?_) fun changed => ?_
  · exact .transaction address (.change_write id change)
  · cases changed with
    | none => exact .nothing (.throw _)
    | some _ => exact .mono (fun _ _ _ => .inl) (load_visiting address id)

/-- Recording an execution is a transaction. There is no second visit, as the row comes with the
statement. -/
theorem record_visiting (address : String) (log : ActionLog) :
    Visiting Transacting (record address log) := by
  refine .bind (.nothing (.id_or _)) fun id => .bind (.mono (fun _ _ _ => .inr) ?_) fun row => ?_
  · exact .transaction address (.record_write id log)
  · cases row with
    | none => exact .nothing (.pure none)
    | some row => exact .nothing (.map List.head? (.read_logs _))

/-- Switching a rule on or off is changing it. A switch that is no flag is refused before any visit.
-/
theorem set_active_visiting (address : String) (id isActive : Value) :
    Visiting Transacting ((repository address).setActive id isActive) := by
  refine .bind (.nothing ?_) fun change => update_visiting address id change
  cases Repository.switchChange isActive with
  | valid change => exact .pure change
  | invalid issues => exact .throw _

end Writing

/-- Seeing whether a connection can be opened is using one for nothing. -/
theorem probe_eq (address : String) : probe address = connected address (pure ()) := by
  funext link
  cases opens : link.server.connect link.trace with
  | error reason => simp only [probe, connected, Act.bind_apply, connect_refused opens]
  | ok _ => simp only [probe, connected, Act.bind_apply, connect_apply opens, Act.outcome_apply,
      Act.pure_apply, close_apply]

/-- Asking whether the database can be reached is one visit. -/
theorem probe_visiting (address : String) : Visiting (fun _ _ => Server.Asked) (probe address) := by
  rw [probe_eq]
  exact visiting_queries address (.pure ())

/-! ## All of them -/

open Memory (Call)

/-- Makes a call of a repository. -/
def perform {σ : Type} (repository : AdRules.Repository σ) : Call → Act σ Unit
  | .upsertCampaign snapshot => (fun _ => ()) <$> repository.upsertCampaign snapshot
  | .latestCampaign => (fun _ => ()) <$> repository.latestCampaign
  | .latestCampaignWithLogs limit => (fun _ => ()) <$> repository.latestCampaignWithLogs limit
  | .createRule draft owner => (fun _ => ()) <$> repository.createRule draft owner
  | .rule id limit => (fun _ => ()) <$> repository.rule id limit
  | .rules => (fun _ => ()) <$> repository.rules
  | .updateRule id change => (fun _ => ()) <$> repository.updateRule id change
  | .setActive id isActive => (fun _ => ()) <$> repository.setActive id isActive
  | .deleteRule id => repository.deleteRule id
  | .activeRules => (fun _ => ()) <$> repository.activeRules
  | .findLog ruleId campaignId action status =>
    (fun _ => ()) <$> repository.findLog ruleId campaignId action status
  | .logs ruleId limit => (fun _ => ()) <$> repository.logs ruleId limit
  | .record log => (fun _ => ()) <$> repository.record log
  | .prepare => repository.prepare

/-- The call writes in a transaction. Storing a reading and removing a rule write too, but commit
for themselves. -/
def isTransaction : Call → Bool
  | .createRule _ _ | .updateRule _ _ | .setActive _ _ | .record _ => true
  | _ => false

/-- A call uses connections that only ask, or whose writing is committed unless it fails. -/
theorem call_visiting [IdSupply] (address : String) (call : Call) :
    if isTransaction call then Visiting Transacting (perform (repository address) call)
    else Visiting (fun server before body => Server.Asked body ∨ server.Written before body)
      (perform (repository address) call) := by
  cases call with
  | createRule draft owner => exact .map _ (create_visiting address draft owner)
  | updateRule id change => exact .map _ (update_visiting address id change)
  | setActive id isActive => exact .map _ (set_active_visiting address id isActive)
  | record log => exact .map _ (record_visiting address log)
  | upsertCampaign snapshot =>
    exact .map _ (.mono (fun _ _ _ => .inr) (upsert_visiting address snapshot))
  | deleteRule id => exact .mono (fun _ _ _ => .inr) (delete_visiting address id)
  | prepare => exact .mono (fun _ _ _ => .inr) (prepare_visiting address)
  | latestCampaign => exact .map _ (.mono (fun _ _ _ => .inl) (latest_visiting address))
  | latestCampaignWithLogs limit =>
    exact .map _ (.mono (fun _ _ _ => .inl) (latest_with_logs_visiting address limit))
  | rule id limit =>
    exact .map _ (.mono (fun _ _ _ => .inl) (rule_with_logs_visiting address id limit))
  | rules => exact .map _ (.mono (fun _ _ _ => .inl) (rules_visiting address rfl))
  | activeRules => exact .map _ (.mono (fun _ _ _ => .inl) (rules_visiting address rfl))
  | findLog ruleId campaignId action status =>
    exact .map _ (.mono (fun _ _ _ => .inl)
      (find_log_visiting address ruleId campaignId action status))
  | logs ruleId limit =>
    exact .map _ (.mono (fun _ _ _ => .inl) (logs_visiting address ruleId limit))

/-- Whatever is asked and however the database answers, every connection that is opened is used in
order and closed before the next one is opened and before the operation ends. Where a rule is
created, changed or switched or an execution is recorded, a connection that does more than ask is
rolled back exactly once unless it was committed. -/
theorem connections_disciplined [IdSupply] (address : String) :
    (∀ call, Visiting Server.Orderly (perform (repository address) call)) ∧
      (∀ call, isTransaction call = true →
        Visiting (fun server before body => Server.Asked body ∨ server.Settled before body)
          (perform (repository address) call)) ∧
      Visiting Server.Orderly (probe address) := by
  refine ⟨?_, ?_, ?_⟩
  · intro call
    have visiting := call_visiting address call
    split at visiting
    · refine .mono ?_ visiting
      rintro server before body (asked | transacted)
      · exact asked.orderly
      · exact transacted.orderly
    · refine .mono ?_ visiting
      rintro server before body (asked | written)
      · exact asked.orderly
      · exact written.orderly
  · intro call transacts
    have visiting := call_visiting address call
    rw [if_pos transacts] at visiting
    refine .mono ?_ visiting
    rintro server before body (asked | transacted)
    · exact .inl asked
    · exact .inr transacted.settled
  · exact .mono (fun _ _ _ asked => asked.orderly) (probe_visiting address)

end AdRules.Database
