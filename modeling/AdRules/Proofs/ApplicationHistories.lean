import AdRules.Proofs.Applications

/-!
# The histories of applications

Whatever is asked of an application reaches its store one call at a time, at the moments that its
clock shows. So what some operations leave in the store is what a history of calls leaves there, and
what holds of every history holds while rules are executed, synchronised and edited.
-/

namespace AdRules.Application

open Memory (Event Call Reply runFrom)

variable [IdSupply] {application : Application} {origin : Memory}

/-- Some calls have made what is stored out of the origin. What holds after every history then holds
after every run of an application too. -/
def Reached (origin : Memory) (state : Memory × Nat) : Prop :=
  ∃ calls : List Event, state.1 = runFrom origin calls

/-- One more call, at the moment of the next use. -/
theorem Reached.call {state : Memory × Nat} (reached : Reached origin state) (call : Call) :
    Reached origin (left state (call.answer (application.present state)).2) := by
  obtain ⟨calls, same⟩ := reached
  refine ⟨calls ++ [⟨application.moment state.2, call⟩], ?_⟩
  rw [Memory.run_from_append, ← same]
  rfl

/-- An operation that is a call makes one more call. -/
theorem call_reaches {α : Type} {action : Act Memory α} {reply : α → Reply} (call : Call)
    (performs : call.perform = reply <$> action) :
    (action.onPart application.present left).Preserves (Reached origin) := by
  intro state reached
  have called : Reached origin (left state (call.answer (application.present state)).2) :=
    reached.call call
  simp only [Call.answer, Memory.settle, performs, Act.map_apply] at called
  rw [Act.on_part_apply]
  cases ran : action (application.present state) with
  | ok value after =>
    rw [ran] at called
    exact ⟨trivial, called⟩
  | error failure after =>
    rw [ran] at called
    exact called

/-- Looking at the clock is a use in which nothing is done. -/
theorem clock_reaches :
    (Memory.clock.onPart application.present left).Keeps (Reached origin) fun now =>
      now.isAware = false := by
  intro state reached
  exact ⟨rfl, reached.call .prepare⟩

/-- Every service is one call, or none. -/
theorem reaching : application.services.Safe (Reached origin) fun _ => True where
  clock := clock_reaches
  ask := fun _ _ reached => ⟨trivial, reached⟩
  upsert := fun snapshot _ => call_reaches (.upsertCampaign snapshot) rfl
  latest := (call_reaches .latestCampaign rfl).weaken fun _ _ _ _ => trivial
  latestWithLogs := fun limit => call_reaches (.latestCampaignWithLogs limit) rfl
  create := fun draft owner _ => call_reaches (.createRule draft owner) rfl
  rule := fun id limit => call_reaches (.rule id limit) rfl
  rules := call_reaches .rules rfl
  update := fun id change _ => call_reaches (.updateRule id change) rfl
  delete := fun id => call_reaches (.deleteRule id) rfl
  active := call_reaches .activeRules rfl
  find := fun ruleId campaignId action status =>
    call_reaches (.findLog ruleId campaignId action status) rfl
  logs := fun ruleId limit => call_reaches (.logs ruleId limit) rfl
  record := fun log _ _ => call_reaches (.record log) rfl

/-- What some operations leave in the store is what some calls leave there. -/
theorem operations_reach (application : Application) (engine : Engine (Memory × Nat))
    (operations : List Operation) :
    ∃ calls : List Event,
      (operations.foldl application.after engine).outside.1 = runFrom engine.outside.1 calls := by
  have begun : Engine.Holds (Reached engine.outside.1) engine := ⟨[], rfl⟩
  exact operations_preserve reaching (fun _ _ _ _ => trivial) begun

end AdRules.Application
