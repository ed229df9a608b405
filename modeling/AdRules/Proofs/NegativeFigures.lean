import AdRules.Proofs.InsightsReading

/-!
# Negative figures

Whether a figure is negative is only looked at when it has become a double, and a count has lost its
fraction by then. So an amount below zero is refused where it is rounded to a double below zero, and
a count where it is rounded to minus one or less. Anything closer to zero is kept as zero.
-/

namespace AdRules

/-! ## Neighbours -/

/-- Two finite doubles with none between them. -/
structure Double.Adjacent (lower upper : Double) : Prop where
  lowerFinite : lower.isFinite = true
  upperFinite : upper.isFinite = true
  less : lower.real < upper.real
  gap (double : Double) (finite : double.isFinite = true) :
    double.real ≤ lower.real ∨ upper.real ≤ double.real

namespace Double.Adjacent

variable {lower upper double : Double} {number : ℝ}

section

variable (adjacent : Adjacent lower upper) (nearest : double.Nearest number)

include adjacent nearest

/-- Below the middle the nearest double is not the upper one of two neighbours. -/
theorem below_middle (below : number < (lower.real + upper.real) / 2) :
    double.real ≤ lower.real := by
  refine (adjacent.gap double nearest.finite).resolve_right fun above => ?_
  have less := adjacent.less
  have distance := nearest.closest lower adjacent.lowerFinite
  rw [abs_of_nonneg (by linarith)] at distance
  rcases abs_cases (lower.real - number) with ⟨same, _⟩ | ⟨same, _⟩ <;> linarith

/-- Above it the nearest double is not the lower one. -/
theorem above_middle (above : (lower.real + upper.real) / 2 < number) :
    upper.real ≤ double.real := by
  refine (adjacent.gap double nearest.finite).resolve_left fun below => ?_
  have less := adjacent.less
  have distance := nearest.closest upper adjacent.upperFinite
  rw [abs_of_nonpos (by linarith)] at distance
  rcases abs_cases (upper.real - number) with ⟨same, _⟩ | ⟨same, _⟩ <;> linarith

/-- In the middle it is an even one of the two. -/
theorem at_middle (middle : number = (lower.real + upper.real) / 2) :
    double.IsEven ∧ (double.real = lower.real ∨ double.real = upper.real) := by
  have less := adjacent.less
  have toLower := nearest.closest lower adjacent.lowerFinite
  have toUpper := nearest.closest upper adjacent.upperFinite
  have lowerTie := nearest.even lower adjacent.lowerFinite
  have upperTie := nearest.even upper adjacent.upperFinite
  have lowerDistance : |lower.real - number| = (upper.real - lower.real) / 2 := by
    rw [abs_of_nonpos (by linarith)]
    linarith
  have upperDistance : |upper.real - number| = (upper.real - lower.real) / 2 := by
    rw [abs_of_nonneg (by linarith)]
    linarith
  rcases adjacent.gap double nearest.finite with below | above
  · have distance : |double.real - number| = number - double.real := by
      rw [abs_of_nonpos (by linarith), neg_sub]
    have same : double.real = lower.real := by linarith
    refine ⟨(upperTie (by linarith)).resolve_left fun other => ?_, .inl same⟩
    linarith
  · have distance : |double.real - number| = double.real - number :=
      abs_of_nonneg (by linarith)
    have same : double.real = upper.real := by linarith
    refine ⟨(lowerTie (by linarith)).resolve_left fun other => ?_, .inr same⟩
    linarith

/-- If the upper neighbour is not even, the middle still belongs to the lower one. -/
theorem le_lower_iff (odd : ∀ other : Double, other.real = upper.real → ¬ other.IsEven) :
    double.real ≤ lower.real ↔ number ≤ (lower.real + upper.real) / 2 := by
  have less := adjacent.less
  constructor
  · intro below
    by_contra beyond
    linarith [adjacent.above_middle nearest (not_le.mp beyond)]
  · intro below
    rcases below.lt_or_eq with strictly | middle
    · exact adjacent.below_middle nearest strictly
    · obtain ⟨even, lowest | highest⟩ := adjacent.at_middle nearest middle
      · exact lowest.le
      · exact absurd even (odd double highest)

/-- If the lower neighbour is not even, the middle belongs to the upper one already. -/
theorem upper_le_iff (odd : ∀ other : Double, other.real = lower.real → ¬ other.IsEven) :
    upper.real ≤ double.real ↔ (lower.real + upper.real) / 2 ≤ number := by
  have less := adjacent.less
  constructor
  · intro above
    by_contra beyond
    linarith [adjacent.below_middle nearest (not_le.mp beyond)]
  · intro above
    rcases above.lt_or_eq with strictly | middle
    · exact adjacent.above_middle nearest strictly
    · obtain ⟨even, lowest | highest⟩ := adjacent.at_middle nearest middle.symm
      · exact absurd even (odd double lowest)
      · exact highest.ge

end

end Double.Adjacent

/-- Only finite doubles count as even, so that a tie is never decided for an infinity. -/
theorem Double.finite_of_even {double : Double} (even : double.IsEven) :
    double.isFinite = true := by
  cases double with
  | nan => exact absurd even id
  | infinity => exact absurd even id
  | finite => rfl

/-- A finite double below zero is a magnitude with a minus sign. -/
theorem Double.eq_of_neg {double : Double} (finite : double.isFinite = true)
    (below : double.real < 0) : ∃ size, double = .finite true size := by
  cases double with
  | nan => cases finite
  | infinity => cases finite
  | finite negative size =>
    cases negative with
    | true => exact ⟨size, rfl⟩
    | false => exact absurd below size.real_nonneg.not_gt

/-! ### Zero and the least double above it -/

/-- The smallest magnitude but zero. -/
def Magnitude.least : Magnitude := ⟨1, 0, by decide⟩

/-- The smallest magnitude but zero denotes one unit of the finest grid. -/
theorem Magnitude.least_real : Magnitude.least.real = placeUnit := by
  have counted : Magnitude.least.units = 1 := by decide
  rw [Magnitude.real_eq_units, counted, Nat.cast_one, one_mul]

/-- A magnitude of one unit is odd. -/
theorem Magnitude.one_unit_odd {size : Magnitude} (one : size.units = 1) :
    ¬ Even size.mantissa := by
  have mantissa : size.mantissa = 1 := Nat.eq_one_of_mul_eq_one_right one
  rw [mantissa]
  decide

/-- No double lies between zero and the greatest one below it. -/
theorem zero_and_least : Double.Adjacent (.finite true .least) .zero where
  lowerFinite := rfl
  upperFinite := rfl
  less := by
    rw [Double.real, Double.zero, Double.real, Magnitude.least_real, Magnitude.zero_real]
    linarith [place_unit_pos]
  gap := by
    intro double finite
    obtain ⟨units, _, placed⟩ := Double.level_real finite
    rw [placed, Double.zero, Double.real, Double.real, Magnitude.least_real, Magnitude.zero_real,
      ← neg_one_mul, mul_le_mul_iff_of_pos_right place_unit_pos,
      mul_nonneg_iff_of_pos_right place_unit_pos, Int.cast_nonneg_iff]
    rcases lt_or_ge units 0 with below | above
    · left
      exact_mod_cast Int.le_sub_one_of_lt below
    · exact .inr above

/-- The greatest double below zero is not even. So a number halfway to zero is rounded to zero. -/
theorem least_odd (other : Double) (same : other.real = (Double.finite true .least).real) :
    ¬ other.IsEven := by
  intro even
  rw [Double.real, Magnitude.least_real] at same
  have below : other.real < 0 := by linarith [place_unit_pos]
  obtain ⟨size, rfl⟩ := Double.eq_of_neg (Double.finite_of_even even) below
  rw [Double.real, neg_inj, size.real_eq_units] at same
  have one : (size.units : ℝ) = 1 := (mul_eq_right₀ place_unit_pos.ne').mp same
  exact Magnitude.one_unit_odd (Nat.cast_eq_one.mp one) even

/-! ### One and the greatest double below it -/

/-- One as a magnitude. -/
def Magnitude.one : Magnitude := ⟨leadingBit, 1022, by decide⟩

/-- The greatest magnitude below one. -/
def Magnitude.belowOne : Magnitude := ⟨mantissaBound - 1, 1021, by decide⟩

/-- The magnitude of one denotes one. -/
theorem Magnitude.one_real : Magnitude.one.real = 1 := by
  have counted : Magnitude.one.units = 1 * twoTo unitExponent := by decide +kernel
  rw [Magnitude.real_of_units counted, Nat.cast_one]

/-- The magnitude next below one, as a real number. -/
theorem Magnitude.below_one_real : Magnitude.belowOne.real = 1 - 2 ^ (-53 : ℤ) := by
  norm_num [Magnitude.real, belowOne, mantissaBound]

/-- Nothing is between one and the greatest magnitude below it, which is odd. -/
theorem Magnitude.below_one_greatest {size : Magnitude} (less : size.units < one.units) :
    size.units ≤ belowOne.units ∧ (size.units = belowOne.units → ¬ Even size.mantissa) := by
  have mantissa : size.mantissa ≤ mantissaBound - 1 := Nat.le_sub_one_of_lt size.normal.1
  have fine : size.shift ≤ 1021 := by
    by_contra coarse
    have leading : leadingBit ≤ size.mantissa := size.normal.2.2.resolve_left (by omega)
    have reached : one.units ≤ size.units :=
      Nat.mul_le_mul leading (two_to_le (by omega : 1022 ≤ size.shift))
    exact absurd less (not_lt.mpr reached)
  have power : twoTo size.shift ≤ twoTo 1021 := two_to_le fine
  refine ⟨Nat.mul_le_mul mantissa power, fun same => ?_⟩
  have full : size.mantissa = mantissaBound - 1 := by
    by_contra partly
    have smaller : size.mantissa * twoTo size.shift < (mantissaBound - 1) * twoTo 1021 :=
      lt_of_le_of_lt (Nat.mul_le_mul_left _ power)
        (Nat.mul_lt_mul_of_pos_right (Nat.lt_of_le_of_ne mantissa partly) (two_to_pos 1021))
    simp only [Magnitude.units, belowOne] at same
    exact smaller.ne same
  rw [full]
  decide

/-- No double lies between minus one and the next one above it. -/
theorem one_and_below : Double.Adjacent (.finite true .one) (.finite true .belowOne) where
  lowerFinite := rfl
  upperFinite := rfl
  less := by
    rw [Double.real, Double.real, Magnitude.one_real, Magnitude.below_one_real]
    linarith [zpow_pos (two_pos : (0 : ℝ) < 2) (-53)]
  gap := by
    intro double finite
    rcases lt_or_ge double.real 0 with below | above
    · obtain ⟨size, rfl⟩ := Double.eq_of_neg finite below
      rw [Double.real, Double.real, Double.real, neg_le_neg_iff, neg_le_neg_iff,
        size.real_eq_units, Magnitude.real_eq_units, Magnitude.real_eq_units,
        mul_le_mul_iff_of_pos_right place_unit_pos, mul_le_mul_iff_of_pos_right place_unit_pos,
        Nat.cast_le, Nat.cast_le]
      rcases Nat.lt_or_ge size.units Magnitude.one.units with less | reached
      · exact .inr (Magnitude.below_one_greatest less).1
      · exact .inl reached
    · right
      rw [Double.real]
      linarith [Magnitude.belowOne.real_nonneg]

/-- That next one is not even, so a number halfway between them is rounded to minus one. -/
theorem below_one_odd (other : Double) (same : other.real = (Double.finite true .belowOne).real) :
    ¬ other.IsEven := by
  intro even
  have positive : 0 < Magnitude.belowOne.real := by
    rw [Magnitude.below_one_real]
    norm_num
  rw [Double.real] at same
  obtain ⟨size, rfl⟩ := Double.eq_of_neg (Double.finite_of_even even) (by linarith)
  rw [Double.real, neg_inj, size.real_eq_units, Magnitude.real_eq_units,
    mul_left_inj' place_unit_pos.ne', Nat.cast_inj] at same
  have less : size.units < Magnitude.one.units := by
    rw [same]
    decide +kernel
  exact (Magnitude.below_one_greatest less).2 same even

/-! ## Thresholds -/

section Thresholds

variable {number : ℝ} {double : Double}

/-- A number is rounded to a double that is not negative down to half of the smallest positive
double below zero. -/
theorem Double.Nearest.nonnegative_iff (nearest : double.Nearest number) :
    0 ≤ double.real ↔ -2 ^ (-1075 : ℤ) ≤ number := by
  have middle := zero_and_least.upper_le_iff nearest least_odd
  have half : placeUnit / 2 = 2 ^ (-1075 : ℤ) := by
    rw [placeUnit, show (-1074 : ℤ) = -1075 + 1 by norm_num, zpow_add_one₀ two_ne_zero,
      mul_div_cancel_right₀ _ two_ne_zero]
  rwa [Double.zero, Double.real, Double.real, Magnitude.least_real, Magnitude.zero_real, add_zero,
    neg_div, half] at middle

/-- It is rounded to minus one or less from the middle between minus one and its neighbour on. -/
theorem Double.Nearest.le_neg_one_iff (nearest : double.Nearest number) :
    double.real ≤ -1 ↔ number ≤ 2 ^ (-54 : ℤ) - 1 := by
  have middle := one_and_below.le_lower_iff nearest below_one_odd
  have half : (2 : ℝ) ^ (-53 : ℤ) = 2 * 2 ^ (-54 : ℤ) := by norm_num
  have between : (-1 + -(1 - 2 ^ (-53 : ℤ))) / 2 = (2 ^ (-54 : ℤ) - 1 : ℝ) := by
    rw [half]
    ring
  rwa [Double.real, Double.real, Magnitude.one_real, Magnitude.below_one_real, between] at middle

end Thresholds

/-- Cutting a fraction off gives a negative integer from minus one downwards. What lies between
minus one and zero becomes zero. -/
theorem integer_part_neg_iff (number : ℝ) : integerPart number < 0 ↔ number ≤ -1 := by
  unfold integerPart
  split_ifs with nonnegative
  · exact iff_of_false (not_lt.mpr (Int.floor_nonneg.mpr nonnegative)) (by linarith)
  · rw [← Int.le_sub_one_iff, zero_sub, Int.ceil_le, Int.cast_neg, Int.cast_one]

/-- The numbers that a metric refuses for being negative. -/
def Metric.Refuses (metric : Metric) (number : ℝ) : Prop :=
  if metric.isCount then number ≤ (2 ^ (-54 : ℤ) - 1 : ℚ) else number < (-2 ^ (-1075 : ℤ) : ℚ)

section Refuses

variable {metric : Metric} {number : ℝ}

/-- A count refuses what is rounded to minus one or less. The bound lies between minus one and the
next double above it. -/
theorem Metric.count_refuses_iff (counted : metric.isCount = true) :
    metric.Refuses number ↔ number ≤ 2 ^ (-54 : ℤ) - 1 := by
  rw [Refuses, if_pos counted, Rat.cast_sub, Rat.cast_zpow, Rat.cast_ofNat, Rat.cast_one]

/-- An amount refuses what is rounded to a negative double. The bound lies halfway between zero and
the greatest double below it. -/
theorem Metric.amount_refuses_iff (measured : ¬ metric.isCount = true) :
    metric.Refuses number ↔ number < -2 ^ (-1075 : ℤ) := by
  rw [Refuses, if_neg measured, Rat.cast_neg, Rat.cast_zpow, Rat.cast_ofNat]

end Refuses

namespace Insights

/-! ## What is kept of negative figures -/

section Kept

variable {number : ℝ} {double : Double}

/-- What a metric keeps of a double is negative when it refuses the number that the double is
nearest to. -/
theorem settled_neg_iff (nearest : double.Nearest number) (metric : Metric) :
    (settled metric double).real < 0 ↔ metric.Refuses number := by
  unfold settled
  split_ifs with counted
  · rw [Number.real, Int.cast_lt_zero, integer_part_neg_iff, nearest.le_neg_one_iff,
      Metric.count_refuses_iff counted]
  · rw [Number.real, ← not_le, nearest.nonnegative_iff, not_le, Metric.amount_refuses_iff counted]

/-- Of a negative number nothing above zero is kept. -/
theorem settled_nonpos (nearest : double.Nearest number) (metric : Metric) (below : number < 0) :
    (settled metric double).real ≤ 0 := by
  have rounded : double.real ≤ 0 := by
    have distance := nearest.closest .zero rfl
    rw [Double.zero, Double.real, Magnitude.zero_real, zero_sub, abs_neg, abs_of_neg below]
      at distance
    linarith [le_abs_self (double.real - number)]
  unfold settled
  split_ifs
  · rw [Number.real, Int.cast_nonpos, integerPart]
    split_ifs with nonnegative
    · rw [le_antisymm rounded nonnegative, Int.floor_zero]
    · exact Int.ceil_nonpos.mpr rounded
  · exact rounded

end Kept

/-- The double of a field is nearest to any number that its text denotes. -/
theorem denoted_nearest {raw : Value} {number : Decimal} {double : Double}
    (isRead : figure? raw = some double) (denotes : Text.Denotes raw.plain number) :
    double.Nearest number.value := by
  rw [figure_of_text (denoted_not_null denotes), denotes.read, Option.filter_eq_some_iff] at isRead
  obtain ⟨same, finite⟩ := isRead
  cases same
  exact Double.of_decimal_nearest finite

/-- A metric takes a number that is not negative from a field that is null or denotes a finite
number that the metric does not refuse, and from no other field. -/
theorem taken_nonnegative_iff (metric : Metric) (raw : Value) :
    (∃ double, figure? raw = some double ∧ 0 ≤ (settled metric double).real) ↔
      raw = .null ∨ ∃ number : Decimal, Text.Denotes raw.plain number ∧
        |number.value| < Double.limit ∧ ¬ metric.Refuses number.value := by
  constructor
  · rintro ⟨double, isRead, nonnegative⟩
    cases figure_read isRead with
    | absent => exact .inl rfl
    | given denotes below nearest =>
      exact .inr ⟨_, denotes, below, (settled_neg_iff nearest metric).not.mp nonnegative.not_gt⟩
  · rintro (rfl | ⟨number, denotes, below, kept⟩)
    · refine ⟨.zero, rfl, ?_⟩
      unfold settled
      split_ifs
      · rw [Double.zero, Double.real, Magnitude.zero_real, integerPart, if_pos le_rfl,
          Int.floor_zero, Number.real, Int.cast_zero]
      · exact Magnitude.zero_real.ge
    · have finite := (Double.of_decimal_finite_iff number).mpr below
      refine ⟨Double.ofDecimal number, figure_denoted denotes below, ?_⟩
      rw [← not_lt, settled_neg_iff (Double.of_decimal_nearest finite)]
      exact kept

/-! ## Answers with negative figures -/

section Answers

variable (now : Timestamp) (campaignId name : String) {answer : Value} {fields : Fields}

/-- An answer is read when the identifier is sound and every metric takes a number that is not
negative. -/
theorem read_succeeds_iff (is : subject answer = .record fields) (filled : fields ≠ []) :
    (∃ snapshot, read now (.text campaignId) (.text name) answer = .ok snapshot) ↔
      (campaignId ≠ "" ∧ Text.isWhole campaignId = true) ∧
      ∀ metric : Metric, ∃ double, figure? (fields.getD (Vocabulary.word metric)) = some double ∧
        0 ≤ (settled metric double).real := by
  constructor
  · rintro ⟨snapshot, made⟩
    obtain ⟨figure, given, identified, nonnegative, _⟩ :=
      (read_ok_iff now campaignId name is filled).mp made
    exact ⟨identified, fun metric => ⟨figure metric, given metric, nonnegative metric⟩⟩
  · rintro ⟨identified, each⟩
    choose figure given nonnegative using each
    exact ⟨_, (read_ok_iff now campaignId name is filled).mpr
      ⟨figure, given, identified, nonnegative, rfl⟩⟩

/-- An answer whose element is a record with fields is read exactly when the identifier is whole and
not empty and each field of a metric is null or denotes a finite number that the metric does not
refuse. So a figure that is refused makes the reading fail. A negative figure that is not refused is
kept as zero. -/
theorem negative_figures_refused_or_zero (selected : Selects answer (.record fields))
    (filled : fields ≠ []) :
    ((∃ snapshot, read now (.text campaignId) (.text name) answer = .ok snapshot) ↔
      (campaignId ≠ "" ∧ Text.isWhole campaignId = true) ∧
      ∀ metric : Metric, fields.getD (Vocabulary.word metric) = .null ∨
        ∃ number : Decimal, Text.Denotes (fields.getD (Vocabulary.word metric)).plain number ∧
          |number.value| < Double.limit ∧ ¬ metric.Refuses number.value) ∧
    ∀ (metric : Metric) (number : Decimal),
      Text.Denotes (fields.getD (Vocabulary.word metric)).plain number →
      (metric.Refuses number.value →
        ∃ fault, read now (.text campaignId) (.text name) answer = .error fault) ∧
      ∀ snapshot, read now (.text campaignId) (.text name) answer = .ok snapshot →
        number.value < 0 → (snapshot.metrics.value metric).real = 0 := by
  have is := selected.subject
  refine ⟨?_, fun metric number denotes => ⟨fun refused => ?_, fun snapshot made below => ?_⟩⟩
  · rw [read_succeeds_iff now campaignId name is filled]
    simp only [taken_nonnegative_iff]
  · cases made : read now (.text campaignId) (.text name) answer with
    | error fault => exact ⟨fault, rfl⟩
    | ok snapshot =>
      obtain ⟨figure, given, _, nonnegative, _⟩ :=
        (read_ok_iff now campaignId name is filled).mp made
      have negative := (settled_neg_iff (denoted_nearest (given metric) denotes) metric).mpr refused
      exact absurd negative (nonnegative metric).not_gt
  · obtain ⟨figure, given, _, nonnegative, rfl⟩ :=
      (read_ok_iff now campaignId name is filled).mp made
    rw [settled_metrics_value metric (nonnegative metric)]
    exact le_antisymm (settled_nonpos (denoted_nearest (given metric) denotes) metric below)
      (nonnegative metric)

end Answers

/-- An answer with a single figure. -/
def singleFigure (metric : Metric) (text : String) : Value :=
  .record [("data", .list [.record [(Vocabulary.word metric, .text text)]])]

/-- An answer with one figure is about the record of that figure. -/
theorem single_figure_selected (metric : Metric) (text : String) :
    Selects (singleFigure metric text) (.record [(Vocabulary.word metric, .text text)]) :=
  ⟨_, .given rfl, .first⟩

/-- The text denotes the decimal that one would expect. -/
theorem minus_half_denoted : Text.Denotes "-0.5" ⟨true, 5, -1⟩ := by
  have front : Text.Run ['0'] [0] := .one (by decide)
  have back : Text.Run ['5'] [5] := .one (by decide)
  exact ⟨[], ['-', '0', '.', '5'], [], by decide, List.forall_mem_nil _, List.forall_mem_nil _,
    .number .minus (.both front back) .absent⟩

/-- The decimal denotes minus one half. -/
theorem minus_half_value : (⟨true, 5, -1⟩ : Decimal).value = -(1 / 2) := by
  norm_num [Decimal.value, Decimal.size, withSign]

/-- Minus a half is refused as an amount and kept as a count of zero, so that the kind of the metric
decides. -/
theorem minus_half_read :
    (∃ fault, read ⟨0, none⟩ (.text "summer") (.text "Summer") (singleFigure .spend "-0.5") =
      .error fault) ∧
    ∃ snapshot, read ⟨0, none⟩ (.text "summer") (.text "Summer") (singleFigure .clicks "-0.5") =
      .ok snapshot ∧ (snapshot.metrics.value .clicks).real = 0 := by
  have amount := negative_figures_refused_or_zero ⟨0, none⟩ "summer" "Summer"
    (single_figure_selected .spend "-0.5") (List.cons_ne_nil _ _)
  have count := negative_figures_refused_or_zero ⟨0, none⟩ "summer" "Summer"
    (single_figure_selected .clicks "-0.5") (List.cons_ne_nil _ _)
  constructor
  · refine (amount.2 .spend _ minus_half_denoted).1 ?_
    have tiny : (2 : ℝ) ^ (-1075 : ℤ) < 2 ^ (-1 : ℤ) :=
      zpow_lt_zpow_right₀ one_lt_two (by norm_num)
    rw [minus_half_value, Metric.amount_refuses_iff (by decide), one_div, neg_lt_neg_iff]
    rwa [zpow_neg_one] at tiny
  · have kept : ∃ snapshot, read ⟨0, none⟩ (.text "summer") (.text "Summer")
        (singleFigure .clicks "-0.5") = .ok snapshot := by
      refine count.1.mpr ⟨⟨by decide, by decide⟩, fun metric => ?_⟩
      cases metric with
      | clicks =>
        refine .inr ⟨_, minus_half_denoted, ?_, ?_⟩
        · rw [minus_half_value, abs_neg, abs_of_pos one_half_pos]
          linarith [Double.one_lt_limit]
        · rw [minus_half_value, Metric.count_refuses_iff rfl]
          norm_num
      | spend | reach | impressions | inlineLinkClicks | costPerInlineLinkClick | frequency | cpc
        | ctr => exact .inl rfl
    obtain ⟨snapshot, made⟩ := kept
    refine ⟨snapshot, made, (count.2 .clicks _ minus_half_denoted).2 snapshot made ?_⟩
    rw [minus_half_value]
    linarith

/-- So not every negative figure makes the reading fail: that of a count is cut to an integer before
anybody looks at its sign. -/
theorem negative_figure_kept :
    ¬ ∀ (now : Timestamp) (campaignId name : String) (answer : Value) (fields : Fields)
      (metric : Metric) (number : Decimal), Selects answer (.record fields) → fields ≠ [] →
      Text.Denotes (fields.getD (Vocabulary.word metric)).plain number → number.value < 0 →
      ∃ fault, read now (.text campaignId) (.text name) answer = .error fault := by
  intro every
  have below : (⟨true, 5, -1⟩ : Decimal).value < 0 := by
    rw [minus_half_value]
    linarith
  obtain ⟨fault, refused⟩ := every ⟨0, none⟩ "summer" "Summer" _ _ .clicks _
    (single_figure_selected .clicks "-0.5") (List.cons_ne_nil _ _) minus_half_denoted below
  have made : (read ⟨0, none⟩ (.text "summer") (.text "Summer")
      (singleFigure .clicks "-0.5")).toOption.isSome = true := by
    decide +kernel
  rw [refused] at made
  cases made

end Insights

end AdRules
