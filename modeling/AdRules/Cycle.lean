import AdRules.Failure

/-!
# The synchronisation cycle

A cycle goes from idle through fetching, persisting and evaluating back to idle. Every working stage
may go to error instead, which leads back to idle.
-/

namespace AdRules

/-- The stages that may follow a stage. Every stage of work may be followed by the error stage, and
    that only by idle. -/
def SyncState.successors : SyncState → List SyncState
  | .idle => [.fetching]
  | .fetching => [.persisting, .error]
  | .persisting => [.evaluating, .error]
  | .evaluating => [.idle, .error]
  | .error => [.idle]

/-- One cycle, with all stages it has been in; the present one comes last. -/
structure Cycle where
  state : SyncState
  history : List SyncState
  deriving DecidableEq

namespace Cycle

/-- A new cycle is idle, and its history begins with that. -/
def start : Cycle := ⟨.idle, [.idle]⟩

/-- Goes on to a stage that may follow; any other stage is refused. -/
def transition (cycle : Cycle) (target : SyncState) : Except Failure Cycle :=
  if target ∈ cycle.state.successors then .ok ⟨target, cycle.history ++ [target]⟩
  else .error (.transition cycle.state target)

/-- The stage after a request, which a refusal does not change. -/
def request (cycle : Cycle) (target : SyncState) : Cycle :=
  match cycle.transition target with
  | .ok next => next
  | .error _ => cycle

end Cycle

end AdRules
