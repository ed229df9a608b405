import AdRules.Vocabulary

/-!
# Campaign metrics

The nine figures of one reading of a campaign: five amounts, which are doubles, and four counts,
which are integers of any size. None is negative.
-/

namespace AdRules

/-- A figure that a condition can compare. There are no others; stored conditions may name others
    all the same. -/
inductive Metric where
  | spend
  | clicks
  | reach
  | impressions
  | inlineLinkClicks
  | costPerInlineLinkClick
  | frequency
  | cpc
  | ctr
  deriving DecidableEq

/-- The names of the metrics, under which they also stand in records and in answers of the source.
    -/
instance : Vocabulary Metric where
  members := [.spend, .clicks, .reach, .impressions, .inlineLinkClicks, .costPerInlineLinkClick,
    .frequency, .cpc, .ctr]
  word
    | .spend => "spend"
    | .clicks => "clicks"
    | .reach => "reach"
    | .impressions => "impressions"
    | .inlineLinkClicks => "inline_link_clicks"
    | .costPerInlineLinkClick => "cost_per_inline_link_click"
    | .frequency => "frequency"
    | .cpc => "cpc"
    | .ctr => "ctr"

namespace Metric

/-- The nine metrics in order. -/
def all : List Metric := Vocabulary.members

/-- A metric that counts, rather than measures. Its figures are integers of any size, all others are
    doubles. -/
def isCount : Metric → Bool
  | .clicks | .reach | .impressions | .inlineLinkClicks => true
  | _ => false

/-- How a metric is called in a list of choices. -/
def label : Metric → String
  | .spend => "Spend"
  | .clicks => "Clicks"
  | .reach => "Reach"
  | .impressions => "Impressions"
  | .inlineLinkClicks => "Link Clicks"
  | .costPerInlineLinkClick => "Cost per Link Click"
  | .frequency => "Frequency"
  | .cpc => "Cost per Click"
  | .ctr => "Click-through Rate"

/-- The unit a metric is given in. -/
def unit : Metric → String
  | .spend | .costPerInlineLinkClick | .cpc => "USD"
  | .ctr => "%"
  | _ => "count"

/-- The entry of a metric in a list of choices. -/
def entry (metric : Metric) : Value :=
  .record [("value", Vocabulary.toValue metric), ("label", .text metric.label),
    ("unit", .text metric.unit)]

end Metric

/-- One reading of the nine metrics. The type keeps counts from being negative, but not the doubles,
    which are only checked where readings come in. -/
structure Metrics where
  spend : Double
  clicks : Nat
  reach : Nat
  impressions : Nat
  inlineLinkClicks : Nat
  costPerInlineLinkClick : Double
  frequency : Double
  cpc : Double
  ctr : Double
  deriving DecidableEq

/-- A number as a value. -/
def Number.toValue : Number → Value
  | .int value => .int value
  | .float value => .float value

namespace Metrics

/-- The figure of a metric, as a condition compares it. -/
def value (metrics : Metrics) : Metric → Number
  | .spend => .float metrics.spend
  | .clicks => .int metrics.clicks
  | .reach => .int metrics.reach
  | .impressions => .int metrics.impressions
  | .inlineLinkClicks => .int metrics.inlineLinkClicks
  | .costPerInlineLinkClick => .float metrics.costPerInlineLinkClick
  | .frequency => .float metrics.frequency
  | .cpc => .float metrics.cpc
  | .ctr => .float metrics.ctr

/-- All figures under their names, in order. -/
def toFields (metrics : Metrics) : Fields :=
  Metric.all.map fun metric => (Vocabulary.word metric, (metrics.value metric).toValue)

/-- The record of a reading. -/
def toValue (metrics : Metrics) : Value := .record metrics.toFields

/-- Checks the nine fields; an absent one is zero. -/
def ofFields (fields : Fields) : Checked Metrics :=
  Metrics.mk
    <$> Checked.optional fields "spend" .zero Check.amount
    <*> Checked.optional fields "clicks" 0 Check.count
    <*> Checked.optional fields "reach" 0 Check.count
    <*> Checked.optional fields "impressions" 0 Check.count
    <*> Checked.optional fields "inline_link_clicks" 0 Check.count
    <*> Checked.optional fields "cost_per_inline_link_click" .zero Check.amount
    <*> Checked.optional fields "frequency" .zero Check.amount
    <*> Checked.optional fields "cpc" .zero Check.amount
    <*> Checked.optional fields "ctr" .zero Check.amount

/-- Checks a reading that is given as a record. -/
def check (setting : Setting) : Value → Checked Metrics :=
  Check.model setting "CampaignMetrics" ofFields

end Metrics

end AdRules
