import AdRules.Campaign
import AdRules.Failure
import AdRules.Text.Script

/-!
# Insights

The metrics source answers with an insights record in which figures are numbers or texts. Reading it
gives a snapshot or the reason why the answer is of no use.
-/

namespace AdRules

namespace Insights

/-- The figure that a value stands for: null is zero, anything else is read from its text.
    Infinities and not-a-number are no figures. -/
def figure? (raw : Value) : Option Double :=
  match raw with
  | .null => some .zero
  | raw => (Text.toDouble? (Text.strip raw.plain)).filter Double.isFinite

/-- A figure in the kind of its metric; counts lose their fraction. -/
def settle (metric : Metric) (figure : Double) : Value :=
  if metric.isCount then .int (figure.truncate?.getD 0) else .float figure

/-- The named figures of a record, or the first metric whose value is none. -/
def figures (record : Fields) : List Metric → Except SourceFault Fields
  | [] => .ok []
  | metric :: rest =>
    let raw := record.getD (Vocabulary.word metric)
    match figure? raw with
    | none => .error (.badValue metric raw)
    | some figure => do
      let others ← figures record rest
      pure ((Vocabulary.word metric, settle metric figure) :: others)

/-- The record that an answer is about: its data, or the first entry of its data when that is a list
    with entries. An answer that is no record is taken for the data itself. -/
def subject (answer : Value) : Value :=
  let data := match answer with
    | .record fields => Fields.getD fields "data"
    | other => other
  match data with
  | .list (first :: _) => first
  | data => data

/-- Reads a snapshot of a campaign from an answer that is JSON already. The campaign and the name
    are those that were asked for; nothing in the answer changes them. -/
def read (now : Timestamp) (campaignId name : Value) (answer : Value) :
    Except SourceFault Snapshot :=
  match subject answer with
  | .record (field :: fields) => do
    let values ← figures (field :: fields) Metric.all
    let identity : Fields :=
      [("campaign_id", campaignId), ("name", name), ("synced_at", .time now)]
    match Snapshot.ofFields ⟨now, false⟩ (identity ++ values) with
    | .valid snapshot => pure snapshot
    | .invalid issues => throw (.unsound issues)
  | _ => .error .noData

end Insights

end AdRules
