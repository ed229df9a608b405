import AdRules.Database.Statement
import AdRules.Identifier
import AdRules.Json.Reader
import AdRules.Repository

/-!
# Connections

A database is known by how it answers: every answer may depend on all that happened before. Using it
leaves a trace of events. A connection is closed however its use ends; in a transaction what has
been written is either committed, or rolled back once.
-/

namespace AdRules.Database

/-- Something asked of a database. What the database answered is not part of the event. -/
inductive Event where
  | connect (address : String)
  | execute (statement : Statement)
  | commit
  | rollback
  | close

/-- What comes of a statement: the rows, or the failure to fetch them, and how many rows there are
    said to be. -/
structure Reply where
  rows : Except String (List Fields)
  count : Int

/-- How a database answers after some events, and how deeply a text that it gives may be nested for
    the process to be able to read it. -/
structure Server where
  connect : List Event → Except String Unit
  execute : List Event → Statement → Except String Reply
  commit : List Event → Except String Unit
  depth : Nat := Json.usualDepth

/-- A database in use: how it answers, what has been asked of it, the moment and the number of
    identifiers issued. -/
structure Link where
  server : Server
  trace : List Event
  now : Timestamp
  issued : Nat

variable {α : Type}

/-- A new identifier, which is taken from the supply without asking the database. -/
def issueId [IdSupply] : Act Link String := fun link =>
  .ok (freshId link.issued) { link with issued := link.issued + 1 }

/-- Asks something of the database, which leaves its trace whatever the answer. -/
def ask (event : Event) (answer : Server → List Event → Except String α) : Act Link α :=
  fun link =>
    let next := { link with trace := link.trace ++ [event] }
    match answer link.server link.trace with
    | .ok value => .ok value next
    | .error reason => .error (.database reason) next

/-- Opens a connection at an address. One that is refused need not be closed. -/
def connect (address : String) : Act Link Unit := ask (.connect address) Server.connect

/-- Sends a statement. A statement that is refused has been sent all the same. -/
def execute (statement : Statement) : Act Link Reply :=
  ask (.execute statement) fun server trace => server.execute trace statement

/-- Makes what was written last. Where the server refuses, nothing counts as committed. -/
def commit : Act Link Unit := ask .commit Server.commit

/-- Takes back what was written since the last commit. It is taken to succeed always. -/
def rollback : Act Link Unit := ask .rollback fun _ _ => .ok ()

/-- Closes the connection. It is taken to succeed always. -/
def close : Act Link Unit := ask .close fun _ _ => .ok ()

/-- All rows of a reply, which fails for a statement that has none to give. -/
def Reply.fetchAll (reply : Reply) : Act Link (List Fields) :=
  match reply.rows with
  | .ok rows => pure rows
  | .error reason => throw (.database reason)

/-- The first row of a reply, if there is one at all. -/
def Reply.fetchFirst (reply : Reply) : Act Link (Option Fields) := List.head? <$> reply.fetchAll

/-- The rows that a statement gives, in the order in which the server gives them. -/
def rowsOf (statement : Statement) : Act Link (List Fields) := do (← execute statement).fetchAll

/-- The first row that a statement gives, if there is one at all. -/
def firstRowOf (statement : Statement) : Act Link (Option Fields) := do
  (← execute statement).fetchFirst

/-- Uses a connection and closes it, however the use ends. Nothing is closed that could not be
    opened. -/
def connected (address : String) (use : Act Link α) : Act Link α := do
  connect address
  match ← use.outcome with
  | .ok value =>
    close
    pure value
  | .error failure =>
    close
    throw failure

/-- Writes over a connection. A result is committed; without one, and after a failure, everything is
    rolled back. -/
def transaction (address : String) (write : Act Link (Option α)) : Act Link (Option α) :=
  let attempt : Act Link (Option α) := do
    match ← write with
    | some value =>
      commit
      pure (some value)
    | none =>
      rollback
      pure none
  connected address do
    match ← attempt.outcome with
    | .ok result => pure result
    | .error failure =>
      rollback
      throw failure

end AdRules.Database
