import AdRules.Cycle
import Mathlib.Data.List.Chain
import Mathlib.Data.List.Induction

/-!
# Histories of a cycle

A cycle is asked for stages and refuses those that may not follow the present one. What may follow
is said here once more, by what the stages mean. Whatever is asked, the history of a cycle starts
with idle and goes from each stage to one that may follow it, and every list that does so is the
history of some requests. How the stages of a history stand to each other follows from that alone.
-/

namespace AdRules

namespace SyncState

/-- Something is done in the stage, which may fail. -/
def IsWorking (stage : SyncState) : Prop :=
  stage = .fetching ∨ stage = .persisting ∨ stage = .evaluating

/-- Whether a stage is one of work can be decided, so that the cases of the table are computed. -/
instance (stage : SyncState) : Decidable stage.IsWorking := inferInstanceAs (Decidable (_ ∨ _))

/-- One stage leads to another: the work goes from idle through fetching, persisting and evaluating
back to idle, every working stage may fail, and an error leads back to idle. -/
inductive Leads : SyncState → SyncState → Prop where
  | begun : Leads .idle .fetching
  | fetched : Leads .fetching .persisting
  | stored : Leads .persisting .evaluating
  | evaluated : Leads .evaluating .idle
  | failed {stage : SyncState} (working : stage.IsWorking) : Leads stage .error
  | recovered : Leads .error .idle

/-- The stages that may follow a stage are those that it leads to. -/
theorem mem_successors_iff {present target : SyncState} :
    target ∈ present.successors ↔ Leads present target := by
  constructor
  · intro listed
    cases present with
    | idle =>
      rw [List.mem_singleton.mp listed]
      exact .begun
    | fetching =>
      rcases List.mem_pair.mp listed with rfl | rfl
      · exact .fetched
      · exact .failed (.inl rfl)
    | persisting =>
      rcases List.mem_pair.mp listed with rfl | rfl
      · exact .stored
      · exact .failed (.inr (.inl rfl))
    | evaluating =>
      rcases List.mem_pair.mp listed with rfl | rfl
      · exact .evaluated
      · exact .failed (.inr (.inr rfl))
    | error =>
      rw [List.mem_singleton.mp listed]
      exact .recovered
  · intro leads
    cases leads with
    | failed working => rcases working with rfl | rfl | rfl <;> decide
    | begun | fetched | stored | evaluated | recovered => decide

/-- A shortest way back to idle. -/
def homeward : SyncState → List SyncState
  | .idle => []
  | .fetching | .persisting => [.error, .idle]
  | .evaluating | .error => [.idle]

/-- From every stage idle can be reached in at most two steps. -/
theorem homeward_short (stage : SyncState) : stage.homeward.length ≤ 2 := by
  cases stage <;> decide

/-- The way back ends at idle; from idle it is empty and ends where it began. -/
theorem homeward_ends (stage : SyncState) : stage.homeward.getLastD stage = .idle := by
  cases stage <;> rfl

/-- Every step of the way back is one that the table of transitions allows. -/
theorem homeward_leads (stage : SyncState) : (stage :: stage.homeward).IsChain Leads := by
  cases stage with
  | idle => exact .singleton _
  | fetching => exact .cons_cons (.failed (by decide)) (.cons_cons .recovered (.singleton _))
  | persisting => exact .cons_cons (.failed (by decide)) (.cons_cons .recovered (.singleton _))
  | evaluating => exact .cons_cons .evaluated (.singleton _)
  | error => exact .cons_cons .recovered (.singleton _)

end SyncState

namespace Cycle

open SyncState (Leads)

/-! ## Stages that follow each other -/

section Chains

variable {history before after between : List SyncState} {stage : SyncState}

/-- The history starts with idle, and every stage in it leads to the next one. -/
structure Consecutive (history : List SyncState) : Prop where
  begins : history.head? = some .idle
  leads : history.IsChain Leads

/-- A stage other than idle comes directly after one that leads to it. -/
theorem Consecutive.previous (consecutive : Consecutive (before ++ stage :: after))
    (busy : stage ≠ .idle) :
    ∃ previous, before.getLast? = some previous ∧ Leads previous stage := by
  cases last : before.getLast? with
  | none =>
    rw [List.getLast?_eq_none_iff.mp last] at consecutive
    exact absurd (Option.some.inj consecutive.begins) busy
  | some previous =>
    obtain ⟨_, _, joined⟩ := List.isChain_append.mp consecutive.leads
    exact ⟨previous, rfl, joined previous last stage rfl⟩

/-- A stage leads to the one that comes directly after it, if any does. -/
theorem Consecutive.next (consecutive : Consecutive (before ++ stage :: after)) :
    ∀ next ∈ after.head?, Leads stage next := by
  obtain ⟨_, later, _⟩ := List.isChain_append.mp consecutive.leads
  exact (List.isChain_cons.mp later).1

/-- As long as there is no idle stage, fetching does not come back, because only idle leads to it.
By induction on the stages. -/
theorem fetching_not_again {rest : List SyncState} (leads : (stage :: rest).IsChain Leads)
    (working : .idle ∉ stage :: rest) : .fetching ∉ rest := by
  induction rest generalizing stage with
  | nil => exact List.not_mem_nil
  | cons next rest inductionHypothesis =>
    obtain ⟨step, later⟩ := List.isChain_cons_cons.mp leads
    intro member
    rcases List.mem_cons.mp member with rfl | further
    · cases step
      exact working List.mem_cons_self
    · have stillWorking := fun idle => working (List.mem_cons_of_mem stage idle)
      exact inductionHypothesis later stillWorking further

/-- Between two idle stages with none in between there is one fetching stage, and it comes first. -/
theorem Consecutive.fetches_once
    (consecutive : Consecutive (before ++ .idle :: between ++ .idle :: after))
    (working : .idle ∉ between) : between.count .fetching = 1 := by
  have whole : (before ++ (.idle :: between ++ .idle :: after)).IsChain Leads := by
    simpa only [List.append_assoc] using consecutive.leads
  obtain ⟨_, round, _⟩ := List.isChain_append.mp whole
  cases between with
  | nil =>
    obtain ⟨impossible, _⟩ := List.isChain_cons_cons.mp round
    cases impossible
  | cons first rest =>
    obtain ⟨step, later⟩ := List.isChain_cons_cons.mp round
    cases step with
    | failed idle => exact absurd idle (by decide)
    | begun =>
      have others : SyncState.fetching ∉ rest :=
        fetching_not_again (List.isChain_append.mp later).1 working
      rw [List.count_cons_self, List.count_eq_zero_of_not_mem others]

/-- The stages of a history stand to each other as the work needs it. -/
structure Orderly (history : List SyncState) : Prop where
  /-- Each round from one idle stage to the next fetches once. -/
  rounds : ∀ before between after, history = before ++ .idle :: between ++ .idle :: after →
    .idle ∉ between → between.count .fetching = 1
  /-- What is stored has just been fetched. -/
  persisting : ∀ before after, history = before ++ .persisting :: after →
    before.getLast? = some .fetching
  /-- What is evaluated has just been stored. -/
  evaluating : ∀ before after, history = before ++ .evaluating :: after →
    before.getLast? = some .persisting
  /-- What fails is work, and nothing but idle comes after an error. -/
  errors : ∀ before after, history = before ++ .error :: after →
    (∃ working, before.getLast? = some working ∧ working.IsWorking) ∧
      (after = [] ∨ after.head? = some .idle)

/-- A history in which every stage leads to the next is orderly. Each part looks at the stage before
a given one, or walks back from work to the fetching that began it. -/
theorem Consecutive.orderly (consecutive : Consecutive history) : Orderly history where
  rounds := by
    rintro before between after rfl working
    exact consecutive.fetches_once working
  persisting := by
    rintro before after rfl
    obtain ⟨previous, last, leads⟩ := consecutive.previous (by decide)
    cases leads
    exact last
  evaluating := by
    rintro before after rfl
    obtain ⟨previous, last, leads⟩ := consecutive.previous (by decide)
    cases leads
    exact last
  errors := by
    rintro before after rfl
    constructor
    · obtain ⟨previous, last, leads⟩ := consecutive.previous (by decide)
      cases leads with
      | failed working => exact ⟨previous, last, working⟩
    · cases after with
      | nil => exact .inl rfl
      | cons next rest =>
        have leads : Leads .error next := consecutive.next next rfl
        cases leads with
        | recovered => exact .inr rfl
        | failed working => exact absurd working (by decide)

end Chains

/-! ## Requests -/

/-- The history of the cycle is consecutive, and its last stage is the present one. -/
structure Recorded (cycle : Cycle) : Prop where
  consecutive : Consecutive cycle.history
  present : cycle.history.getLast? = some cycle.state

/-- The outcome of a request: the cycle goes on to a stage that the present one leads to, and
refuses any other without changing. -/
inductive Outcome (cycle : Cycle) (target : SyncState) : Prop where
  | taken (leads : Leads cycle.state target)
      (goes : cycle.transition target = .ok ⟨target, cycle.history ++ [target]⟩)
      (after : cycle.request target = ⟨target, cycle.history ++ [target]⟩)
  | refused (apart : ¬ Leads cycle.state target)
      (fails : cycle.transition target = .error (.transition cycle.state target))
      (after : cycle.request target = cycle)

/-- A request is granted exactly if the stage leads to the target, and then the history grows by it.
Otherwise the cycle stays as it is and the refusal names both stages. -/
theorem request_outcome (cycle : Cycle) (target : SyncState) : Outcome cycle target := by
  by_cases listed : target ∈ cycle.state.successors
  · have goes : cycle.transition target = .ok ⟨target, cycle.history ++ [target]⟩ := if_pos listed
    exact .taken (SyncState.mem_successors_iff.mp listed) goes (by rw [request, goes])
  · have fails : cycle.transition target = .error (.transition cycle.state target) := if_neg listed
    exact .refused (fun leads => listed (SyncState.mem_successors_iff.mpr leads)) fails
      (by rw [request, fails])

/-- A stage that the last one leads to may be added to a history. -/
theorem Recorded.extend {cycle : Cycle} (recorded : Recorded cycle) {target : SyncState}
    (leads : Leads cycle.state target) : Recorded ⟨target, cycle.history ++ [target]⟩ where
  consecutive :=
    { begins := by rw [List.head?_append, recorded.consecutive.begins, Option.some_or]
      leads := by
        refine List.isChain_append.mpr ⟨recorded.consecutive.leads, .singleton target, ?_⟩
        intro last isLast next isNext
        rw [recorded.present] at isLast
        cases isLast
        cases isNext
        exact leads }
  present := List.getLast?_concat

/-- Every request keeps the history recorded. -/
theorem Recorded.request {cycle : Cycle} (recorded : Recorded cycle) (target : SyncState) :
    Recorded (cycle.request target) := by
  cases cycle.request_outcome target with
  | taken leads goes after =>
    rw [after]
    exact recorded.extend leads
  | refused apart fails after =>
    rw [after]
    exact recorded

/-- The cycle after some requests, any of which may have been refused. A refusal is no end: the
requests behind it are made all the same. -/
def afterAll (requests : List SyncState) : Cycle := requests.foldl request start

/-- The last of some requests meets the cycle that the others have left. -/
theorem after_snoc (requests : List SyncState) (target : SyncState) :
    afterAll (requests ++ [target]) = (afterAll requests).request target := List.foldl_append

/-- Whatever is asked of a new cycle, its history is recorded. By induction on the requests. -/
theorem after_recorded (requests : List SyncState) : Recorded (afterAll requests) := by
  induction requests using List.reverseRecOn with
  | nil => exact ⟨⟨rfl, .singleton _⟩, rfl⟩
  | append_singleton requests target inductionHypothesis =>
    rw [after_snoc]
    exact inductionHypothesis.request target

/-- Stages that lead from the present one on are all gone to, one after the other. By induction on
them. -/
theorem path_taken (cycle : Cycle) (path : List SyncState)
    (leads : (cycle.state :: path).IsChain Leads) :
    path.foldlM transition cycle =
        .ok ⟨path.getLastD cycle.state, cycle.history ++ path⟩ ∧
      path.foldl request cycle = ⟨path.getLastD cycle.state, cycle.history ++ path⟩ := by
  induction path generalizing cycle with
  | nil => exact ⟨by rw [List.append_nil]; rfl, by rw [List.append_nil]; rfl⟩
  | cons next rest inductionHypothesis =>
    obtain ⟨step, later⟩ := List.isChain_cons_cons.mp leads
    cases cycle.request_outcome next with
    | refused apart fails after => exact absurd step apart
    | taken _ goes after =>
      have further := inductionHypothesis ⟨next, cycle.history ++ [next]⟩ later
      rw [← List.append_cons] at further
      rw [List.foldlM_cons, goes, List.foldl_cons, after, List.getLastD_cons]
      exact further

/-- Whatever is asked of a cycle: its history starts with idle, each stage in it leads to the next
one, the last one is the present one, and the stages stand to each other as the work needs it. The
next request goes on to its stage if the present one leads there, and is refused without any change
otherwise. Idle is at most two stages away. And every consecutive history is one of a cycle. -/
theorem histories_orderly (requests : List SyncState) :
    let cycle := afterAll requests
    Consecutive cycle.history ∧ cycle.history.getLast? = some cycle.state ∧
      Orderly cycle.history ∧ (∀ target, Outcome cycle target) ∧
      (∃ path : List SyncState, path.length ≤ 2 ∧
        path.foldlM transition cycle = .ok ⟨.idle, cycle.history ++ path⟩) ∧
      ∀ history, Consecutive history → ∃ others, (afterAll others).history = history := by
  intro cycle
  have recorded : Recorded cycle := after_recorded requests
  obtain ⟨home, _⟩ := cycle.path_taken _ cycle.state.homeward_leads
  rw [cycle.state.homeward_ends] at home
  refine ⟨recorded.consecutive, recorded.present, recorded.consecutive.orderly,
    cycle.request_outcome, ⟨_, cycle.state.homeward_short, home⟩, ?_⟩
  rintro history ⟨begins, leads⟩
  obtain ⟨rest, rfl⟩ := List.head?_eq_some_iff.mp begins
  obtain ⟨_, reached⟩ := start.path_taken rest leads
  exact ⟨rest, by rw [afterAll, reached]; rfl⟩

example : afterAll [.fetching, .evaluating, .error, .error, .idle] =
    ⟨.idle, [.idle, .fetching, .error, .idle]⟩ := by decide

end Cycle

end AdRules
