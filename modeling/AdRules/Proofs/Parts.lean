import AdRules.Executor
import AdRules.Proofs.Outcomes

/-!
# Operations on a part of the state

A store is often a part of a larger state, and its operations are carried over to that state. What
is written with the operations of a store may be carried over as a whole: a pass over the active
rules does on the part what it does on the part alone, and leaves the rest as it is.
-/

namespace AdRules

/-- Reading and writing a part of a state fit together: what was written is read, and writing back
what was read changes nothing. -/
structure Act.IsPart {σ τ : Type} (get : τ → σ) (set : τ → σ → τ) : Prop where
  get_set : ∀ whole part, get (set whole part) = part
  set_get : ∀ whole, set whole (get whole) = whole
  set_set : ∀ whole first second, set (set whole first) second = set whole second

variable {σ τ α β : Type} {get : τ → σ} {set : τ → σ → τ}

namespace Act

/-- The first of two things held together is a part of them. -/
theorem first_is_part : IsPart (Prod.fst : σ × τ → σ) (fun whole part => (part, whole.2)) :=
  ⟨fun _ _ => rfl, fun _ => rfl, fun _ _ _ => rfl⟩

/-- Giving a value is the same on a part and on the whole, because putting back what was taken
changes nothing. -/
theorem on_part_pure (part : IsPart get set) (value : α) :
    (pure value : Act σ α).onPart get set = pure value := by
  funext whole
  simp [part.set_get]

/-- Operations on a part one after the other see what the one before has put back. -/
theorem on_part_bind (part : IsPart get set) (first : Act σ α) (next : α → Act σ β) :
    (first >>= next).onPart get set =
      first.onPart get set >>= fun value => (next value).onPart get set := by
  funext whole
  cases ran : first (get whole) with
  | ok value between => simp [ran, part.get_set, part.set_set]
  | error failure between => simp [ran]

/-- Whether a failure is caught on the part or on the whole is the same. -/
theorem on_part_outcome (action : Act σ α) :
    action.outcome.onPart get set = (action.onPart get set).outcome := by
  funext whole
  cases ran : action (get whole) <;> simp [ran]

/-- A result from elsewhere is the same on a part and on the whole. -/
theorem on_part_of_except (part : IsPart get set) (outcome : Except Failure α) :
    (Act.ofExcept outcome : Act σ α).onPart get set = Act.ofExcept outcome := by
  funext whole
  cases outcome <;> simp [ofExcept, part.set_get]

/-- The outcome of a check is the same on a part and on the whole. -/
theorem on_part_of_checked (part : IsPart get set) (model : String) (checked : Checked α) :
    (Act.ofChecked model checked : Act σ α).onPart get set = Act.ofChecked model checked := by
  funext whole
  cases checked <;> simp [ofChecked, part.set_get]

end Act

namespace Executor

open Act

variable (part : IsPart get set) (repository : Repository σ) (clock : Act σ Timestamp)
  (metrics : Metrics) (campaignId : Value) (rule : Rule)

include part

/-- Looking for an earlier execution through the whole is doing so in the part that holds the store.
-/
theorem already_executed_on_part :
    alreadyExecuted (repository.onPart get set) rule campaignId =
      (alreadyExecuted repository rule campaignId).onPart get set := by
  unfold alreadyExecuted
  split
  · exact (on_part_pure part false).symm
  · rw [on_part_bind part]
    simp only [on_part_pure part]
    rfl

/-- Executing a rule uses no more of the whole than the repository and the clock do. -/
theorem execute_on_part :
    execute (repository.onPart get set) (clock.onPart get set) rule metrics campaignId =
      (execute repository clock rule metrics campaignId).onPart get set := by
  unfold execute
  rw [on_part_bind part, already_executed_on_part part]
  congr 1
  funext done
  cases done with
  | true => exact (on_part_pure part none).symm
  | false =>
    simp only [Bool.false_eq_true, if_false]
    rw [on_part_bind part]
    congr 1
    funext now
    rw [on_part_bind part, on_part_of_checked part]
    rfl

/-- So does the turn of a rule, with the failures that it catches. -/
theorem turn_on_part :
    turn (repository.onPart get set) (clock.onPart get set) metrics campaignId rule =
      (turn repository clock metrics campaignId rule).onPart get set := by
  unfold turn
  rw [on_part_bind part, on_part_of_except part]
  congr 1
  funext triggered
  cases triggered with
  | true => exact execute_on_part part repository clock metrics campaignId rule
  | false => exact (on_part_pure part none).symm

/-- The turns of some rules on a part are their turns on the part alone. -/
theorem turns_on_part (rules : List Rule) :
    turns (repository.onPart get set) (clock.onPart get set) metrics campaignId rules =
      (turns repository clock metrics campaignId rules).onPart get set := by
  induction rules with
  | nil => exact (on_part_pure part []).symm
  | cons rule rest inductionHypothesis =>
    simp only [turns]
    rw [on_part_bind part, turn_on_part part, on_part_outcome]
    congr 1
    funext outcome
    rw [on_part_bind part, inductionHypothesis]
    congr 1
    funext logs
    cases outcome with
    | error failure => exact (on_part_pure part logs).symm
    | ok log =>
      cases log with
      | none => exact (on_part_pure part logs).symm
      | some log => exact (on_part_pure part (log :: logs)).symm

end Executor

end AdRules
