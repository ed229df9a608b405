import AdRules.Proofs.Discipline

/-!
# Recording an execution in the database

An execution is inserted and counted in one transaction: the first of the connection, the insert,
the count and the commit that fails decides how recording ends, and so does an insert that the
database drops. What is committed is the log together with its count. Servers are arbitrary, so any
of these steps may fail, and the insert may give back any rows.
-/

namespace AdRules.Database

variable {address : String} {link : Link}

/-! ## The course of recording -/

/-- The identifier under which a log is recorded: its own, or a new one. -/
def recordedId [IdSupply] (link : Link) (log : ActionLog) : String :=
  (givenId? log.id).getD (freshId link.issued)

/-- What is asked of the database to record a log: the log first, then its count, and both are
committed together. -/
def recordCalls (address id : String) (log : ActionLog) : List Event :=
  [.connect address, .execute (.insertLog id log), .execute (.countTrigger log), .commit]

/-- What follows a failure: an open connection is rolled back and closed. -/
def undoing : List Event → List Event
  | [] => []
  | _ :: _ => [.rollback, .close]

/-- How recording ends: it stops at the first call that fails, it is given up where the insert gives
no row, or all that was asked for is committed. Given are the events and the row of the log. -/
inductive Recording (server : Server) (before : List Event) (address id : String)
    (log : ActionLog) : List Event → Except Failure (Option Fields) → Prop where
  | stopped (done rest : List Event) (event : Event) (reason : String)
      (calls : recordCalls address id log = done ++ event :: rest)
      (answered : server.Answers before done)
      (refused : server.answer (before ++ done) event = .error reason)
      (inserted : .execute (.insertLog id log) ∈ done →
        ∃ row, server.firstRow (before ++ [.connect address]) (.insertLog id log) =
          .ok (some row)) :
      Recording server before address id log (done ++ event :: undoing done)
        (.error (.database reason))
  | dropped (opens : server.answer before (.connect address) = .ok ())
      (missing : server.firstRow (before ++ [.connect address]) (.insertLog id log) = .ok none) :
      Recording server before address id log
        [.connect address, .execute (.insertLog id log), .rollback, .close] (.ok none)
  | committed (row : Fields) (answered : server.Answers before (recordCalls address id log))
      (inserted : server.firstRow (before ++ [.connect address]) (.insertLog id log) =
        .ok (some row)) :
      Recording server before address id log (recordCalls address id log ++ [.close])
        (.ok (some row))

/-- The statement that counts an execution succeeds if it is accepted. -/
theorem Server.answer_count {server : Server} {before : List Event} {log : ActionLog} :
    server.answer before (.execute (.countTrigger log)) =
      (fun _ => ()) <$> server.execute before (.countTrigger log) := by
  cases answered : server.execute before (.countTrigger log) <;>
    simp only [answer, answered] <;> rfl

section Writing

variable {id reason : String} {log : ActionLog} {row : Fields}

/-- Where the insert of the log is refused, nothing follows it. -/
theorem record_write_refused
    (refused : link.server.firstRow link.trace (.insertLog id log) = .error reason) :
    recordWrite id log link =
      .error (.database reason) (link.after [.execute (.insertLog id log)] link.issued) := by
  simp only [recordWrite, Act.bind_apply, first_row_failed refused]

/-- Where the insert gives no row, the log was dropped for a conflict, and nothing is counted. -/
theorem record_write_dropped
    (missing : link.server.firstRow link.trace (.insertLog id log) = .ok none) :
    recordWrite id log link =
      .ok none (link.after [.execute (.insertLog id log)] link.issued) := by
  simp only [recordWrite, Act.bind_apply, first_row_found missing, Act.pure_apply]

/-- Where the log is inserted and counting it is refused, the operation fails with both statements
sent and nothing committed. -/
theorem record_write_uncounted
    (inserted : link.server.firstRow link.trace (.insertLog id log) = .ok (some row))
    (refused : link.server.execute (link.trace ++ [.execute (.insertLog id log)])
      (.countTrigger log) = .error reason) :
    recordWrite id log link = .error (.database reason)
      (link.after [.execute (.insertLog id log), .execute (.countTrigger log)] link.issued) := by
  have counting : execute (.countTrigger log)
      (link.after [.execute (.insertLog id log)] link.issued) = _ := execute_refused refused
  simp only [recordWrite, Act.bind_apply, first_row_found inserted, counting, Link.after_after]
  rfl

/-- Where both statements are accepted, the row of the log is what the insert gave. -/
theorem record_write_apply {reply : Reply}
    (inserted : link.server.firstRow link.trace (.insertLog id log) = .ok (some row))
    (counted : link.server.execute (link.trace ++ [.execute (.insertLog id log)])
      (.countTrigger log) = .ok reply) :
    recordWrite id log link = .ok (some row)
      (link.after [.execute (.insertLog id log), .execute (.countTrigger log)] link.issued) := by
  have counting : execute (.countTrigger log)
      (link.after [.execute (.insertLog id log)] link.issued) = _ := execute_accepted counted
  simp only [recordWrite, Act.bind_apply, first_row_found inserted, counting, Act.pure_apply,
    Link.after_after]
  rfl

end Writing

/-- Writing and committing a log takes one of the courses, for every way in which the server may
answer. -/
theorem transaction_recording (address id : String) (log : ActionLog) (link : Link) :
    ∃ events outcome, Recording link.server link.trace address id log events outcome ∧
      transaction address (recordWrite id log) link =
        Act.ofExcept outcome (link.after events link.issued) := by
  let insert : Event := .execute (.insertLog id log)
  let count : Event := .execute (.countTrigger log)
  let opened := link.after [.connect address] link.issued
  -- What happens after the connection is opened is seen from before it.
  have joined : ∀ writes ending : List Event,
      (opened.after writes opened.issued).after ending link.issued =
        link.after (.connect address :: writes ++ ending) link.issued := by
    intro writes ending
    rw [Link.after_after, Link.after_after]
    rfl
  have seen : ∀ writes : List Event,
      opened.trace ++ writes = link.trace ++ .connect address :: writes := by
    intro writes
    exact List.append_assoc _ _ _
  cases opens : link.server.connect link.trace with
  | error reason =>
    refine ⟨_, _, .stopped [] [insert, count, .commit] (.connect address) reason rfl trivial
      ?_ (by simp), transaction_refused opens⟩
    rw [List.append_nil]
    exact opens
  | ok _ =>
    cases found : opened.server.firstRow opened.trace (.insertLog id log) with
    | error reason =>
      have answer := (Server.answer_first_row rfl).trans (congrArg _ found)
      refine ⟨_, _, .stopped [.connect address] [count, .commit] insert reason rfl ⟨opens, trivial⟩
        answer (by simp), ?_⟩
      exact (transaction_failed opens (record_write_refused found)).trans (congrArg _ (joined _ _))
    | ok row =>
      have answer := (Server.answer_first_row rfl).trans (congrArg _ found)
      cases row with
      | none =>
        refine ⟨_, _, .dropped opens found, ?_⟩
        exact (transaction_dropped opens (record_write_dropped found)).trans
          (congrArg _ (joined _ _))
      | some row =>
        cases counted : link.server.execute (opened.trace ++ [insert]) (.countTrigger log) with
        | error reason =>
          refine ⟨_, _, .stopped [.connect address, insert] [.commit] count reason rfl
            ⟨opens, answer, trivial⟩ ?_ fun _ => ⟨row, found⟩, ?_⟩
          · rw [← seen]
            exact Server.answer_count.trans (congrArg _ counted)
          · exact (transaction_failed opens (record_write_uncounted found counted)).trans
              (congrArg _ (joined _ _))
        | ok reply =>
          have written := record_write_apply found counted
          have counting := Server.answer_count.trans (congrArg _ counted)
          cases commits : link.server.commit (opened.trace ++ [insert, count]) with
          | error reason =>
            refine ⟨_, _, .stopped [.connect address, insert, count] [] .commit reason rfl
              ⟨opens, answer, counting, trivial⟩ ?_ fun _ => ⟨row, found⟩, ?_⟩
            · rw [← seen]
              exact commits
            · exact (transaction_uncommitted opens written commits).trans
                (congrArg _ (joined _ _))
          | ok _ =>
            refine ⟨_, _, .committed row ⟨opens, answer, counting, ?_, trivial⟩ found, ?_⟩
            · rw [List.append_assoc]
              exact commits
            · exact (transaction_apply opens written commits).trans (congrArg _ (joined _ _))

/-! ## All or nothing -/

/-- What recording gives back: the log in the row that was committed, where there is one. -/
def readBack (depth : Nat) (setting : Setting) : Except Failure (Option Fields) →
    Except Failure (Option ActionLog)
  | .error failure => .error failure
  | .ok none => .ok none
  | .ok (some row) => some <$> logOfRow depth setting row

/-- Reading a single row gives its log, or fails as reading that row does. -/
theorem read_logs_single (row : Fields) (link : Link) :
    (List.head? <$> readLogs [row]) link =
      Act.ofExcept (some <$> logOfRow link.server.depth ⟨link.now, false⟩ row) link := by
  have read : readLogs [row] link =
      Act.ofExcept ([row].mapM (logOfRow link.server.depth ⟨link.now, false⟩)) link := rfl
  rw [Act.map_apply, read, List.mapM_cons, List.mapM_nil]
  cases logOfRow link.server.depth ⟨link.now, false⟩ row <;> rfl

/-- Recording takes one of the courses and gives back the log that was committed. -/
theorem record_recording [IdSupply] (address : String) (log : ActionLog) (link : Link) :
    ∃ events outcome,
      Recording link.server link.trace address (recordedId link log) log events outcome ∧
        record address log link =
          Act.ofExcept (readBack link.server.depth ⟨link.now, false⟩ outcome)
          (link.after events (Store.issuedAfter link.issued log)) := by
  let ready := link.after [] (Store.issuedAfter link.issued log)
  obtain ⟨events, outcome, recording, ran⟩ :=
    transaction_recording address (recordedId link log) log ready
  have seen : ready.trace = link.trace := List.append_nil _
  have reached : ready.after events ready.issued =
      link.after events (Store.issuedAfter link.issued log) := Link.after_after _ _ _ _ _
  rw [seen] at recording
  rw [reached] at ran
  refine ⟨events, outcome, recording, ?_⟩
  rw [record, Act.bind_apply, id_or_apply]
  change (transaction address (recordWrite (recordedId link log) log) >>= _) ready = _
  rw [Act.bind_apply, ran]
  cases outcome with
  | error failure => rfl
  | ok row =>
    cases row with
    | none => rfl
    | some row => exact read_logs_single row _

/-- The event counts an execution for its rule. -/
def Event.isCount : Event → Bool
  | .execute (.countTrigger _) => true
  | _ => false

/-- A log is committed together with its count or not at all: what is asked of the database while it
is recorded, and what comes of that. -/
structure AllOrNothing (server : Server) (before : List Event) (address id : String)
    (log : ActionLog) (setting : Setting) (events : List Event)
    (outcome : Except Failure (Option ActionLog)) : Prop where
  /-- An execution is counted only after the insert of its log over the same connection gave a
  row. -/
  counted : ∀ earlier event later, events = earlier ++ event :: later → event.isCount = true →
    event = .execute (.countTrigger log) ∧
      earlier = [.connect address, .execute (.insertLog id log)] ∧
      ∃ row, server.firstRow (before ++ [.connect address]) (.insertLog id log) = .ok (some row)
  once : events.countP Event.isCount ≤ 1
  /-- Only what succeeded as a whole is committed: the log and its count. -/
  committed : ∀ earlier later, events = earlier ++ .commit :: later →
    earlier = [.connect address, .execute (.insertLog id log), .execute (.countTrigger log)] ∧
      server.Answers before earlier
  /-- There is no log to give back exactly if the insert gave no row. -/
  dropped : outcome = .ok none ↔ server.answer before (.connect address) = .ok () ∧
    server.firstRow (before ++ [.connect address]) (.insertLog id log) = .ok none
  undone : outcome = .ok none →
    events = [.connect address, .execute (.insertLog id log), .rollback, .close]
  /-- Whatever fails decides the outcome, after one rollback if the connection was open. -/
  failed : ∀ earlier event later reason, events = earlier ++ event :: later →
    server.answer (before ++ earlier) event = .error reason →
      outcome = .error (.database reason) ∧
        events.countP Event.isRollback = if event.isOfConnection then 0 else 1
  /-- Where nothing fails and a row was inserted, what is in it is given back as a log. -/
  kept : ∀ row, server.Answers before [.connect address, .execute (.insertLog id log),
      .execute (.countTrigger log), .commit] →
    server.firstRow (before ++ [.connect address]) (.insertLog id log) = .ok (some row) →
      events = [.connect address, .execute (.insertLog id log), .execute (.countTrigger log),
        .commit, .close] ∧ outcome = some <$> logOfRow server.depth setting row

/-- A reading back gives no log exactly if there was no row. -/
theorem read_back_none {depth : Nat} {setting : Setting}
    {outcome : Except Failure (Option Fields)} :
    readBack depth setting outcome = .ok none ↔ outcome = .ok none := by
  match outcome with
  | .error failure => simp [readBack]
  | .ok none => simp [readBack]
  | .ok (some row) =>
    cases read : logOfRow depth setting row <;> simp [readBack, read, Functor.map, Except.map]

/-! ## Where an event stands -/

/-- An event that does not belong to the ending is the last call or stands among those before it. -/
theorem place_of_call {done ending earlier later : List Event} {last event : Event}
    (split : done ++ last :: ending = earlier ++ event :: later) (call : event ∉ ending) :
    (earlier = done ∧ event = last) ∨ ∃ more, done = earlier ++ event :: more := by
  rcases List.append_eq_append_iff.mp split with ⟨between, same, rest⟩ | ⟨between, same, rest⟩
  · cases between with
    | nil =>
      obtain ⟨rfl, _⟩ := List.cons.inj rest
      exact .inl ⟨by simpa using same, rfl⟩
    | cons first others =>
      obtain ⟨_, rfl⟩ := List.cons.inj rest
      exact absurd (by simp) call
  · cases between with
    | nil =>
      obtain ⟨rfl, _⟩ := List.cons.inj rest
      exact .inl ⟨by simpa using same.symm, rfl⟩
    | cons first others =>
      obtain ⟨rfl, _⟩ := List.cons.inj rest
      exact .inr ⟨others, same⟩

/-! ## What a recording shows -/

namespace Recording

variable {server : Server} {before events earlier later : List Event} {event : Event}
  {id reason : String} {log : ActionLog} {outcome : Except Failure (Option Fields)}

/-- The calls of a recording, each with those before it. -/
theorem place {done rest : List Event}
    (calls : recordCalls address id log = done ++ event :: rest) :
    (done = [] ∧ event = .connect address) ∨
      (done = [.connect address] ∧ event = .execute (.insertLog id log)) ∨
      (done = [.connect address, .execute (.insertLog id log)] ∧
        event = .execute (.countTrigger log)) ∨
      (done = [.connect address, .execute (.insertLog id log), .execute (.countTrigger log)] ∧
        event = .commit) := by
  rcases done with _ | ⟨first, _ | ⟨second, _ | ⟨third, _ | ⟨fourth, more⟩⟩⟩⟩ <;>
    simp_all [recordCalls]

/-- A recording is a beginning of the calls, of which only the last one may fail, and an ending. -/
theorem beginning (recording : Recording server before address id log events outcome) :
    ∃ done last rest ending, events = done ++ last :: ending ∧
      recordCalls address id log = done ++ last :: rest ∧ server.Answers before done ∧
      (.execute (.insertLog id log) ∈ done →
        ∃ row, server.firstRow (before ++ [.connect address]) (.insertLog id log) =
          .ok (some row)) ∧
      ∀ event ∈ ending, event = .rollback ∨ event = .close := by
  cases recording with
  | stopped done rest event reason calls answered refused inserted =>
    refine ⟨done, event, rest, undoing done, rfl, calls, answered, inserted, ?_⟩
    cases done <;> simp [undoing]
  | dropped opens missing =>
    exact ⟨[.connect address], _, _, [.rollback, .close], rfl, rfl, ⟨opens, trivial⟩, by simp,
      by simp⟩
  | committed row answered inserted =>
    obtain ⟨opens, writes, counts, _⟩ := answered
    exact ⟨[.connect address, _, _], .commit, [], [.close], rfl, rfl,
      ⟨opens, writes, counts, trivial⟩, fun _ => ⟨row, inserted⟩, by simp⟩

/-- Whatever is asked for before the end is one of the calls, and all calls before it succeeded. -/
theorem called (recording : Recording server before address id log events outcome)
    (split : events = earlier ++ event :: later) (kept : event ≠ .rollback)
    (held : event ≠ .close) :
    (∃ rest, recordCalls address id log = earlier ++ event :: rest) ∧
      server.Answers before earlier ∧
      (.execute (.insertLog id log) ∈ earlier →
        ∃ row, server.firstRow (before ++ [.connect address]) (.insertLog id log) =
          .ok (some row)) := by
  obtain ⟨done, last, rest, ending, rfl, calls, answered, inserted, ends⟩ := recording.beginning
  have call : event ∉ ending := by
    intro ended
    rcases ends event ended with undone | closed
    · exact kept undone
    · exact held closed
  rcases place_of_call split call with ⟨rfl, rfl⟩ | ⟨more, rfl⟩
  · exact ⟨⟨rest, calls⟩, answered, inserted⟩
  · refine ⟨⟨more ++ last :: rest, by simpa using calls⟩, (Server.answers_append.mp answered).1, ?_⟩
    intro listed
    exact inserted (List.mem_append_left _ listed)

/-- Counting comes right after the insert, and only if that gave a row. -/
theorem counted (recording : Recording server before address id log events outcome)
    (split : events = earlier ++ event :: later) (count : event.isCount = true) :
    event = .execute (.countTrigger log) ∧
      earlier = [.connect address, .execute (.insertLog id log)] ∧
      ∃ row, server.firstRow (before ++ [.connect address]) (.insertLog id log) =
        .ok (some row) := by
  obtain ⟨⟨rest, calls⟩, _, inserted⟩ := recording.called split
    (by rintro rfl; cases count) (by rintro rfl; cases count)
  rcases place calls with ⟨_, rfl⟩ | ⟨_, rfl⟩ | ⟨rfl, rfl⟩ | ⟨_, rfl⟩
  · cases count
  · cases count
  · exact ⟨rfl, rfl, inserted (by simp)⟩
  · cases count

/-- A log is counted at most once, whatever the server answers. -/
theorem counted_once (recording : Recording server before address id log events outcome) :
    events.countP Event.isCount ≤ 1 := by
  obtain ⟨done, last, rest, ending, rfl, calls, _, _, ends⟩ := recording.beginning
  have among : (done ++ [last]).countP Event.isCount ≤
      (recordCalls address id log).countP Event.isCount := by
    refine List.Sublist.countP_le ?_
    rw [calls]
    simp
  have uncounted : ending.countP Event.isCount = 0 := by
    rw [List.countP_eq_zero]
    intro event ended
    rcases ends event ended with rfl | rfl <;> simp [Event.isCount]
  have calledOnce : (recordCalls address id log).countP Event.isCount = 1 := rfl
  rw [List.append_cons, List.countP_append, uncounted]
  omega

/-- A commit comes after both statements, and both were accepted. -/
theorem committed_whole (recording : Recording server before address id log events outcome)
    (split : events = earlier ++ .commit :: later) :
    earlier = [.connect address, .execute (.insertLog id log), .execute (.countTrigger log)] ∧
      server.Answers before earlier := by
  obtain ⟨⟨rest, calls⟩, answered, _⟩ := recording.called split (by simp) (by simp)
  rcases place calls with ⟨_, wrong⟩ | ⟨_, wrong⟩ | ⟨_, wrong⟩ | ⟨all, _⟩
  · cases wrong
  · cases wrong
  · cases wrong
  · exact ⟨all, answered⟩

/-- Nothing is recorded exactly if the insert was accepted and gave no row. No failure looks like
that. -/
theorem dropped_iff (recording : Recording server before address id log events outcome) :
    outcome = .ok none ↔ server.answer before (.connect address) = .ok () ∧
      server.firstRow (before ++ [.connect address]) (.insertLog id log) = .ok none := by
  cases recording with
  | stopped done rest event reason calls answered refused inserted =>
    refine ⟨by simp, ?_⟩
    rintro ⟨opens, missing⟩
    have answer : server.answer (before ++ [.connect address]) (.execute (.insertLog id log)) =
        .ok () := (Server.answer_first_row rfl).trans (congrArg _ missing)
    rcases place calls with ⟨rfl, rfl⟩ | ⟨rfl, rfl⟩ | ⟨rfl, rfl⟩ | ⟨rfl, rfl⟩
    · simp [opens] at refused
    · simp [answer] at refused
    · simp [missing] at inserted
    · simp [missing] at inserted
  | dropped opens missing => exact ⟨fun _ => ⟨opens, missing⟩, fun _ => rfl⟩
  | committed row answered inserted => simp [inserted]

/-- What the server refuses is passed on as the failure of the recording. It is rolled back once,
except where there is no connection to roll back on. -/
theorem failed (recording : Recording server before address id log events outcome)
    (split : events = earlier ++ event :: later)
    (refused : server.answer (before ++ earlier) event = .error reason) :
    outcome = .error (.database reason) ∧
      events.countP Event.isRollback = if event.isOfConnection then 0 else 1 := by
  have unanswered : ∀ {others : List Event},
      ¬ server.Answers before (earlier ++ event :: others) := by
    intro others answered
    simp [Server.answer_of_answers answered] at refused
  have call : ∀ ending : List Event, (∀ event ∈ ending, event = .rollback ∨ event = .close) →
      event ∉ ending := by
    intro ending ends ended
    rcases ends event ended with rfl | rfl <;> cases refused
  cases recording with
  | stopped done rest last reason' calls answered refused' inserted =>
    have outside : event ∉ undoing done := call _ (by cases done <;> simp [undoing])
    rcases place_of_call split outside with ⟨rfl, rfl⟩ | ⟨more, rfl⟩
    · obtain ⟨rfl⟩ := refused.symm.trans refused'
      refine ⟨rfl, ?_⟩
      rcases place calls with ⟨rfl, rfl⟩ | ⟨rfl, rfl⟩ | ⟨rfl, rfl⟩ | ⟨rfl, rfl⟩ <;> rfl
    · exact absurd answered unanswered
  | dropped opens missing =>
    have answered : server.Answers before [.connect address, .execute (.insertLog id log)] :=
      ⟨opens, (Server.answer_first_row rfl).trans (congrArg _ missing), trivial⟩
    have inserts : [.connect address, .execute (.insertLog id log)] ++ [.rollback, .close] =
        earlier ++ event :: later := split
    rcases place_of_call inserts (call [.close] (by simp)) with ⟨_, rfl⟩ | ⟨more, same⟩
    · cases refused
    · rw [same] at answered
      exact absurd answered unanswered
  | committed row answered inserted =>
    rcases place_of_call split (call [] (by simp)) with ⟨_, rfl⟩ | ⟨more, same⟩
    · cases refused
    · rw [same] at answered
      exact absurd answered unanswered

/-- Where every call is accepted and the insert gives a row, all calls were made and the row is the
result. -/
theorem kept (recording : Recording server before address id log events outcome) {row : Fields}
    (answered : server.Answers before (recordCalls address id log))
    (inserted : server.firstRow (before ++ [.connect address]) (.insertLog id log) =
      .ok (some row)) :
    events = recordCalls address id log ++ [.close] ∧ outcome = .ok (some row) := by
  cases recording with
  | stopped done rest event reason calls _ refused _ =>
    rw [calls] at answered
    simp [Server.answer_of_answers answered] at refused
  | dropped opens missing => simp [missing] at inserted
  | committed row' _ inserted' =>
    rw [inserted] at inserted'
    cases inserted'
    exact ⟨rfl, rfl⟩

end Recording

/-- However the database answers, recording commits a log together with its count or not at all. A
commit that fails counts as not made; what a server does with one that it has refused is outside. -/
theorem recording_all_or_nothing [IdSupply] (address : String) (log : ActionLog) (link : Link) :
    ∃ events outcome,
      AllOrNothing link.server link.trace address (recordedId link log) log ⟨link.now, false⟩
        events outcome ∧
      record address log link =
        Act.ofExcept outcome (link.after events (Store.issuedAfter link.issued log)) := by
  obtain ⟨events, row, recording, ran⟩ := record_recording address log link
  refine ⟨events, _, ?_, ran⟩
  exact
    { counted := fun earlier event later split count => recording.counted split count
      once := recording.counted_once
      committed := fun earlier later split => recording.committed_whole split
      dropped := read_back_none.trans recording.dropped_iff
      undone := by
        intro dropped
        cases recording with
        | stopped => simp [readBack] at dropped
        | dropped opens missing => rfl
        | committed row _ _ => cases read_back_none.mp dropped
      failed := by
        intro earlier event later reason split refused
        obtain ⟨rfl, undone⟩ := recording.failed split refused
        exact ⟨rfl, undone⟩
      kept := by
        intro row answered inserted
        obtain ⟨rfl, rfl⟩ := recording.kept answered inserted
        exact ⟨rfl, rfl⟩ }

end AdRules.Database
