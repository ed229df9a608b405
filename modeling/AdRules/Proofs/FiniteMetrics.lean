import AdRules.Proofs.Applications
import AdRules.Proofs.Synchronisation

/-!
# Finite figures

The metrics source is only read where all figures are finite, so every stored snapshot has finite
figures, and so has every log of a pass over one. The metrics of a manual run come with the request
instead. They are checked for amounts below zero but not for infinity, which `"inf"` spells, so a
log may hold an infinite amount, which cannot be written as JSON. That is the only way for one to
get into the store.
-/

namespace AdRules

/-- Figures are finite exactly where their record can be written as JSON. -/
theorem Metrics.finite_iff (metrics : Metrics) :
    metrics.Finite ↔ metrics.toValue.isFinite = true := by
  have parts : metrics.toValue.isFinite =
      (metrics.spend.isFinite && (metrics.costPerInlineLinkClick.isFinite &&
        (metrics.frequency.isFinite && (metrics.cpc.isFinite && metrics.ctr.isFinite)))) := by
    simp [toValue, toFields, Metric.all, Vocabulary.members, value, Number.toValue, Value.isFinite,
      Value.fieldsFinite]
  simp only [parts, Bool.and_eq_true]
  constructor
  · rintro ⟨spend, cost, frequency, cpc, ctr⟩
    exact ⟨spend, cost, frequency, cpc, ctr⟩
  · rintro ⟨spend, cost, frequency, cpc, ctr⟩
    exact ⟨spend, cost, frequency, cpc, ctr⟩

namespace Application

/-- No figure is negative, and all are finite unless they were handed over for a manual run. -/
def Explained (application : Application) (operations : List Operation) (metrics : Metrics) :
    Prop :=
  metrics.Sound ∧
    (metrics.Finite ∨ ∃ operation ∈ operations, operation.HandsOver application.depth metrics)

/-- What a run stores is vetted, with figures that are explained by what was asked. -/
theorem run_explained [IdSupply] (application : Application) (operations : List Operation) :
    (application.run operations).Vetted (application.Explained operations) := by
  apply application.run_vetted operations
  · intro snapshot read
    exact ⟨read.sound.metrics, .inl read.finite⟩
  · intro operation asked metrics handed
    exact ⟨handed.sound, .inr ⟨operation, asked, handed⟩⟩

/-- Whatever is asked of an application and whatever the metrics source answers, no stored figure is
negative, those of the stored snapshots are finite, and so are those of the stored logs, except
where they were handed over for a manual run. -/
theorem stored_figures_finite [IdSupply] (application : Application)
    (operations : List Operation) :
    (∀ snapshot ∈ (application.run operations).store.campaigns,
      snapshot.metrics.Sound ∧ snapshot.metrics.Finite) ∧
    ∀ log ∈ (application.run operations).store.logs,
      application.Explained operations log.metrics := by
  have vetted := application.run_explained operations
  constructor
  · intro snapshot stored
    have read := vetted.readings snapshot stored
    exact ⟨read.sound.metrics, read.finite⟩
  · exact vetted.fineLogs

/-- A process whose metrics source is never reached, so that what it stores was handed over by a
request. -/
def offline : Application :=
  ⟨Memory.sampleConfiguration, fun _ => 0, fun _ _ => .unreachable "timeout", Json.usualDepth,
    fun _ _ => 0⟩

/-- A request to a path with a body. -/
def posting (path body : String) : Operation := .respond .null ⟨"POST", path, body⟩

/-- A rule that is triggered by every reading is created and then run over infinite costs. -/
def boundless : List Operation :=
  [posting "/api/v1/automation/rules"
      ("\x7b\"name\": \"Spending\", \"action\": \"send_notification\", \"condition_groups\": " ++
        "[\x7b\"operator\": \"AND\", \"conditions\": " ++
        "[\x7b\"metric\": \"spend\", \"operator\": \"gte\", \"threshold\": 0\x7d]\x7d]\x7d"),
    posting "/api/v1/automation/execute"
      "\x7b\"metrics\": \x7b\"spend\": \"inf\"\x7d, \"campaign_id\": \"summer\"\x7d"]

/-- A manual run with infinite costs leaves a log that holds them, so no statement about all stored
figures can leave out what is handed over. -/
theorem infinite_costs_logged :
    ∃ log ∈ (offline.run boundless).store.logs, log.metrics.spend = .infinity false ∧
      ¬ log.metrics.Finite := by
  have logged : (offline.run boundless).store.logs.map (·.metrics.spend) = [.infinity false] := by
    decide +kernel
  obtain ⟨log, stored, infinite⟩ := List.mem_map.mp (logged ▸ List.mem_singleton_self _)
  refine ⟨log, stored, infinite, ?_⟩
  intro finite
  have wrong := finite.spend
  rw [infinite] at wrong
  cases wrong

end Application

end AdRules
