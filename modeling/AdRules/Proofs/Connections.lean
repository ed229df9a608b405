import AdRules.Database.Connection
import AdRules.Proofs.Outcomes

/-!
# How connections run

Whatever is asked of a database is answered by its server from all that happened before, and leaves
its trace. These laws say, for one answer at a time, how a connection and a transaction go on from
there. Servers are arbitrary: any connection, statement, fetch or commit may fail.
-/

namespace AdRules.Database

variable {α : Type} {address : String} {link between : Link}

/-- The database after some events and the issue of some identifiers. How it answers and the moment
are as before. -/
def Link.after (link : Link) (events : List Event) (issued : Nat) : Link :=
  { link with trace := link.trace ++ events, issued := issued }

/-- Events that happened one after the other are joined in the trace. How many identifiers were
issued in between is of no account afterwards. -/
theorem Link.after_after (link : Link) (first second : List Event) (between issued : Nat) :
    (link.after first between).after second issued = link.after (first ++ second) issued := by
  simp only [Link.after, List.append_assoc]

/-- After no events and no new identifiers a database is what it was. -/
theorem Link.after_nothing (link : Link) : link.after [] link.issued = link := by
  simp only [Link.after, List.append_nil]

/-! ## One question -/

/-- A server that lets a caller in leaves only the event of connecting. -/
theorem connect_apply (opens : link.server.connect link.trace = .ok ()) :
    connect address link = .ok () (link.after [.connect address] link.issued) := by
  simp only [connect, ask, opens, Link.after]

/-- A server that refuses a caller has its reason passed on. The attempt is in the trace all the
same. -/
theorem connect_refused {reason : String}
    (refused : link.server.connect link.trace = .error reason) :
    connect address link =
      .error (.database reason) (link.after [.connect address] link.issued) := by
  simp only [connect, ask, refused, Link.after]

/-- A statement that the server accepts gives its reply. -/
theorem execute_accepted {statement : Statement} {reply : Reply}
    (accepted : link.server.execute link.trace statement = .ok reply) :
    execute statement link = .ok reply (link.after [.execute statement] link.issued) := by
  simp only [execute, ask, accepted, Link.after]

/-- A statement that the server refuses has the reason passed on, and was sent all the same. -/
theorem execute_refused {statement : Statement} {reason : String}
    (refused : link.server.execute link.trace statement = .error reason) :
    execute statement link =
      .error (.database reason) (link.after [.execute statement] link.issued) := by
  simp only [execute, ask, refused, Link.after]

/-- A commit that the server accepts leaves only its event. -/
theorem commit_accepted (commits : link.server.commit link.trace = .ok ()) :
    commit link = .ok () (link.after [.commit] link.issued) := by
  simp only [commit, ask, commits, Link.after]

/-- A commit that the server refuses counts as one that was not made. A server that commits and then
fails to say so is left out. -/
theorem commit_refused {reason : String}
    (refused : link.server.commit link.trace = .error reason) :
    commit link = .error (.database reason) (link.after [.commit] link.issued) := by
  simp only [commit, ask, refused, Link.after]

/-- Rolling back cannot fail here, since nobody waits for an answer. -/
@[simp] theorem rollback_apply (link : Link) :
    rollback link = .ok () (link.after [.rollback] link.issued) := rfl

/-- Closing a connection cannot fail here either. -/
@[simp] theorem close_apply (link : Link) :
    close link = .ok () (link.after [.close] link.issued) := rfl

/-! ## One connection -/

/-- Where no connection is opened, nothing is closed. -/
theorem connected_refused {use : Act Link α} {reason : String}
    (refused : link.server.connect link.trace = .error reason) :
    connected address use link =
      .error (.database reason) (link.after [.connect address] link.issued) := by
  simp only [connected, Act.bind_apply, connect_refused refused]

/-- A connection is opened, used and closed. -/
theorem connected_apply {use : Act Link α} {value : α}
    (opens : link.server.connect link.trace = .ok ())
    (used : use (link.after [.connect address] link.issued) = .ok value between) :
    connected address use link = .ok value (between.after [.close] between.issued) := by
  simp only [connected, Act.bind_apply, connect_apply opens, Act.outcome_apply, used]
  rfl

/-- A connection is closed also where its use fails, and the failure is passed on. -/
theorem connected_failed {use : Act Link α} {failure : Failure}
    (opens : link.server.connect link.trace = .ok ())
    (used : use (link.after [.connect address] link.issued) = .error failure between) :
    connected address use link = .error failure (between.after [.close] between.issued) := by
  simp only [connected, Act.bind_apply, connect_apply opens, Act.outcome_apply, used]
  rfl

/-! ## One transaction -/

section Transactions

variable {write : Act Link (Option α)}

/-- What a transaction wrote is committed. -/
theorem transaction_apply {value : α} (opens : link.server.connect link.trace = .ok ())
    (written : write (link.after [.connect address] link.issued) = .ok (some value) between)
    (commits : between.server.commit between.trace = .ok ()) :
    transaction address write link =
      .ok (some value) (between.after [.commit, .close] between.issued) := by
  have ended : between.after [.commit, .close] between.issued =
      (between.after [.commit] between.issued).after [.close] between.issued :=
    (Link.after_after between [.commit] [.close] _ _).symm
  rw [ended]
  refine connected_apply opens ?_
  simp only [Act.bind_apply, Act.outcome_apply, written, commit_accepted commits, Act.pure_apply]

/-- What was written is rolled back where it cannot be committed. -/
theorem transaction_uncommitted {value : α} {reason : String}
    (opens : link.server.connect link.trace = .ok ())
    (written : write (link.after [.connect address] link.issued) = .ok (some value) between)
    (refused : between.server.commit between.trace = .error reason) :
    transaction address write link =
      .error (.database reason) (between.after [.commit, .rollback, .close] between.issued) := by
  have ended : between.after [.commit, .rollback, .close] between.issued =
      (between.after [.commit, .rollback] between.issued).after [.close] between.issued :=
    (Link.after_after between [.commit, .rollback] [.close] _ _).symm
  rw [ended]
  refine connected_failed opens ?_
  simp only [Act.bind_apply, Act.outcome_apply, written, commit_refused refused, rollback_apply,
    Act.throw_apply, Link.after_after]
  rfl

/-- What was written is rolled back where nothing comes of it. -/
theorem transaction_dropped (opens : link.server.connect link.trace = .ok ())
    (written : write (link.after [.connect address] link.issued) = .ok none between) :
    transaction address write link =
      .ok none (between.after [.rollback, .close] between.issued) := by
  have ended : between.after [.rollback, .close] between.issued =
      (between.after [.rollback] between.issued).after [.close] between.issued :=
    (Link.after_after between [.rollback] [.close] _ _).symm
  rw [ended]
  refine connected_apply opens ?_
  simp only [Act.bind_apply, Act.outcome_apply, written, rollback_apply, Act.pure_apply]

/-- What was written is rolled back where writing fails, and the failure is passed on. -/
theorem transaction_failed {failure : Failure} (opens : link.server.connect link.trace = .ok ())
    (written : write (link.after [.connect address] link.issued) = .error failure between) :
    transaction address write link =
      .error failure (between.after [.rollback, .close] between.issued) := by
  have ended : between.after [.rollback, .close] between.issued =
      (between.after [.rollback] between.issued).after [.close] between.issued :=
    (Link.after_after between [.rollback] [.close] _ _).symm
  rw [ended]
  refine connected_failed opens ?_
  simp only [Act.bind_apply, Act.outcome_apply, written, rollback_apply, Act.throw_apply]

/-- A transaction without a connection ends at once: nothing is written, and nothing is rolled back
or closed. -/
theorem transaction_refused {reason : String}
    (refused : link.server.connect link.trace = .error reason) :
    transaction address write link =
      .error (.database reason) (link.after [.connect address] link.issued) :=
  connected_refused refused

end Transactions

end AdRules.Database
