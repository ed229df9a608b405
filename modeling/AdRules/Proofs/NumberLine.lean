import AdRules.Evaluation
import Mathlib.Data.EReal.Basic

/-!
# Numbers as extended reals

Every number but not-a-number denotes an extended real: an integer denotes itself, however large it
is, a finite double its mantissa times a power of two, an infinity one of the two ends. Comparing
places on the number line is comparing these reals, so that no comparison ever rounds, also where an
integer meets a double.
-/

namespace AdRules

/-- The real number that a magnitude denotes. -/
noncomputable def Magnitude.real (size : Magnitude) : ℝ :=
  size.mantissa * 2 ^ ((size.shift : ℤ) - 1074)

/-- The extended real that a double denotes. Infinities are the ends of the line, and not-a-number
denotes nothing. -/
noncomputable def Double.extended? : Double → Option EReal
  | .nan => none
  | .infinity true => some ⊥
  | .infinity false => some ⊤
  | .finite true size => some ((-size.real : ℝ) : EReal)
  | .finite false size => some (size.real : EReal)

/-- The extended real that a number denotes. An integer denotes itself, however large it is, without
being rounded to a double. -/
noncomputable def Number.extended? : Number → Option EReal
  | .int value => some ((value : ℝ) : EReal)
  | .float value => value.extended?

/-- The extended real that a value denotes: a number denotes itself, true and false denote one and
zero, and nothing else denotes any. -/
noncomputable def Value.extended? : Value → Option EReal
  | .bool true => some 1
  | .bool false => some 0
  | .int value => some ((value : ℝ) : EReal)
  | .float value => value.extended?
  | _ => none

/-- The relation of extended reals that a comparison names. This is what comparisons are meant to
be, said without doubles and integers. -/
def Comparison.relation : Comparison → EReal → EReal → Prop
  | .greater, figure, threshold => threshold < figure
  | .less, figure, threshold => figure < threshold
  | .equal, figure, threshold => figure = threshold
  | .atLeast, figure, threshold => threshold ≤ figure
  | .atMost, figure, threshold => figure ≤ threshold

/-! ## Places -/

/-- The smallest positive double, which finite places are counted in. -/
noncomputable def placeUnit : ℝ := 2 ^ (-1074 : ℤ)

/-- One unit of the finest grid is positive, so that counting in units keeps the order. -/
theorem place_unit_pos : 0 < placeUnit := zpow_pos (by norm_num) _

/-- The extended real at a place. -/
noncomputable def Level.extended : Level → EReal
  | .below => ⊥
  | .exact units => ((units * placeUnit : ℝ) : EReal)
  | .above => ⊤

/-- A magnitude is its count of the smallest positive double. -/
theorem Magnitude.real_eq_units (size : Magnitude) : size.real = size.units * placeUnit := by
  have split : (2 : ℝ) ^ ((size.shift : ℤ) - 1074) = 2 ^ size.shift * placeUnit := by
    rw [placeUnit, sub_eq_add_neg, zpow_add₀ (by norm_num), zpow_natCast]
  have power : twoTo size.shift = 2 ^ size.shift := rfl
  rw [Magnitude.real, split, Magnitude.units, power, Nat.cast_mul, Nat.cast_pow, Nat.cast_ofNat,
    mul_assoc]

/-- An integer is its count of the smallest positive double. -/
theorem int_eq_units (value : Int) :
    (value : ℝ) = ((value * twoTo unitExponent : Int) : ℝ) * placeUnit := by
  have power : ((twoTo unitExponent : Nat) : ℝ) = 2 ^ (1074 : ℤ) := by
    rw [twoTo, Nat.pow_eq, Nat.cast_pow, Nat.cast_ofNat]
    exact (zpow_natCast 2 unitExponent).symm
  have cancel : (2 : ℝ) ^ (1074 : ℤ) * placeUnit = 1 := by
    rw [placeUnit, ← zpow_add₀ (by norm_num), add_neg_cancel, zpow_zero]
  rw [Int.cast_mul, Int.cast_natCast, power, mul_assoc, cancel, mul_one]

/-- The place of a double is that of the extended real it denotes. -/
theorem Double.extended?_eq (value : Double) :
    value.extended? = value.level?.map Level.extended := by
  match value with
  | .nan => rfl
  | .infinity true => rfl
  | .infinity false => rfl
  | .finite true size =>
    simp only [extended?, level?, Option.map_some, Level.extended, size.real_eq_units,
      Int.cast_neg, Int.cast_natCast, neg_mul]
  | .finite false size =>
    simp only [extended?, level?, Option.map_some, Level.extended, size.real_eq_units,
      Int.cast_natCast]

/-- The place of a number is that of the extended real it denotes. -/
theorem Number.extended?_eq (number : Number) :
    number.extended? = number.level?.map Level.extended := by
  cases number with
  | int value => simp only [extended?, level?, Option.map_some, Level.extended, ← int_eq_units]
  | float value => exact value.extended?_eq

/-- A value denotes what the number that it is denotes. -/
theorem Value.extended?_eq (value : Value) :
    value.extended? = value.number?.bind Number.extended? := by
  match value with
  | .bool true => simp [extended?, number?, Number.extended?]
  | .bool false => simp [extended?, number?, Number.extended?]
  | .int _ | .float _ | .null | .text _ | .time _ | .list _ | .record _ => rfl

/-! ## Comparisons -/

namespace Level

variable (left right : Level)

/-- Places are ordered as the extended reals at them are. -/
theorem le_iff : left.le right = true ↔ left.extended ≤ right.extended := by
  match left, right with
  | .below, _ => simp [le, extended]
  | .exact _, .above => simp [le, extended]
  | .above, .above => simp [le, extended]
  | .above, .below => simp [le, extended]
  | .exact _, .below => simp only [le, Bool.false_eq_true, extended, le_bot_iff, EReal.coe_ne_bot]
  | .above, .exact _ => simp only [le, Bool.false_eq_true, extended, top_le_iff, EReal.coe_ne_top]
  | .exact _, .exact _ =>
    simp only [le, decide_eq_true_eq, extended, EReal.coe_le_coe_iff]
    rw [mul_le_mul_iff_of_pos_right place_unit_pos, Int.cast_le]

/-- The order of levels is that of the extended reals that they stand for. -/
theorem lt_iff : left.lt right = true ↔ left.extended < right.extended := by
  rw [lt, Bool.not_eq_true', ← not_iff_not, Bool.not_eq_false, le_iff, not_lt]

/-- Places are equal when neither is beyond the other. -/
theorem eq_of_le (forward : left.le right = true) (backward : right.le left = true) :
    left = right := by
  cases left <;> cases right <;> simp_all [le, Int.le_antisymm_iff]

/-- Different places have different extended reals. -/
theorem eq_iff : (left == right) = true ↔ left.extended = right.extended := by
  rw [beq_iff_eq]
  constructor
  · rintro rfl
    rfl
  · intro same
    have forward : left.le right = true := (le_iff left right).mpr same.le
    have backward : right.le left = true := (le_iff right left).mpr same.ge
    exact eq_of_le left right forward backward

end Level

namespace Comparison

/-- Two places stand in the relation of a comparison exactly when the extended reals at them do. -/
theorem relates_iff (comparison : Comparison) (figure threshold : Level) :
    comparison.relates figure threshold = true ↔
      comparison.relation figure.extended threshold.extended := by
  cases comparison with
  | greater => exact Level.lt_iff threshold figure
  | less => exact Level.lt_iff figure threshold
  | equal => exact Level.eq_iff figure threshold
  | atLeast => exact Level.le_iff threshold figure
  | atMost => exact Level.le_iff figure threshold

/-- Two numbers stand in the relation of a comparison exactly when they denote extended reals that
do. -/
theorem compares_iff (comparison : Comparison) (figure threshold : Number) :
    comparison.compares figure threshold = true ↔
      ∃ left right, figure.extended? = some left ∧ threshold.extended? = some right ∧
        comparison.relation left right := by
  rw [Number.extended?_eq, Number.extended?_eq]
  cases placed : figure.level? with
  | none => simp [compares, placed]
  | some place =>
    cases bounded : threshold.level? with
    | none => simp [compares, bounded]
    | some bound => simp [compares, placed, bounded, relates_iff]

end Comparison

end AdRules
