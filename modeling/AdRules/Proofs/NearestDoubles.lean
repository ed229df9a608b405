import AdRules.Double.Decimal
import AdRules.Proofs.NumberLine
import Mathlib

/-!
# Nearest doubles

Rounding gives the finite double that is nearest to a number, and of two equally near ones the one
with the even mantissa. Beyond the largest finite double by half of its last place or more there is
no such double, and an infinity is given. The proof compares the chosen multiple of the grid step
with the other multiples, and the doubles of finer grids with the least number of the grid's own
range, which lies between them and the number.
-/

namespace AdRules

/-! ## Nearest integers -/

section Integers

variable {numerator denominator : Nat}

/-- A quotient is its integer part and a fraction. -/
theorem quotient_and_fraction (positive : 0 < denominator) :
    (numerator : ℝ) / denominator =
      (numerator / denominator : Nat) + (numerator % denominator : Nat) / (denominator : ℝ) := by
  have nonzero : (denominator : ℝ) ≠ 0 := by exact_mod_cast positive.ne'
  have whole : (numerator : ℝ) =
      denominator * (numerator / denominator : Nat) + (numerator % denominator : Nat) := by
    exact_mod_cast (Nat.div_add_mod numerator denominator).symm
  conv_lhs => rw [whole, add_div, mul_div_cancel_left₀ _ nonzero]

/-- The nearest integer is at most one half away, and even if it is one half away. -/
theorem nearest_half (numerator : Nat) (positive : 0 < denominator) :
    |(nearest numerator denominator : ℝ) - numerator / denominator| ≤ 1 / 2 ∧
      (|(nearest numerator denominator : ℝ) - numerator / denominator| = 1 / 2 →
        Even (nearest numerator denominator)) := by
  have positiveReal : (0 : ℝ) < denominator := by exact_mod_cast positive
  have below : numerator % denominator < denominator := Nat.mod_lt numerator positive
  rw [quotient_and_fraction positive]
  unfold nearest
  dsimp only
  generalize numerator / denominator = quotient
  generalize numerator % denominator = rest at below ⊢
  have fractionLess : (rest : ℝ) / denominator < 1 / 2 ↔ 2 * rest < denominator := by
    rw [div_lt_div_iff₀ positiveReal two_pos, one_mul, mul_comm]
    exact_mod_cast Iff.rfl
  have fractionMore : (1 : ℝ) / 2 < rest / denominator ↔ denominator < 2 * rest := by
    rw [div_lt_div_iff₀ two_pos positiveReal, one_mul, mul_comm (rest : ℝ)]
    exact_mod_cast Iff.rfl
  have nonnegative : (0 : ℝ) ≤ rest / denominator := by positivity
  have lessThanOne : (rest : ℝ) / denominator < 1 := by
    rw [div_lt_one positiveReal]
    exact_mod_cast below
  generalize (rest : ℝ) / denominator = fraction at *
  have downward : |(quotient : ℝ) - (quotient + fraction)| = fraction := by
    rw [sub_add_cancel_left, abs_neg, abs_of_nonneg nonnegative]
  have upward : |((quotient + 1 : Nat) : ℝ) - (quotient + fraction)| = 1 - fraction := by
    rw [Nat.cast_add_one, add_sub_add_left_eq_sub, abs_of_pos (by linarith)]
  split_ifs with less more even
  · have small := fractionLess.mpr less
    rw [downward]
    exact ⟨small.le, fun same => absurd same small.ne⟩
  · have large := fractionMore.mpr more
    rw [upward]
    exact ⟨by linarith, fun same => absurd same (by linarith)⟩
  · rw [downward]
    exact ⟨not_lt.mp (mt fractionMore.mp more), fun _ => Nat.even_iff.mpr even⟩
  · have atLeastHalf := not_lt.mp (mt fractionLess.mp less)
    rw [upward]
    refine ⟨by linarith, fun _ => ?_⟩
    rw [Nat.even_add_one, Nat.even_iff]
    exact even

variable {number : ℝ} {chosen other : Nat}

/-- Any other integer is at least one half away from what the chosen one is at most one half away
from. -/
theorem half_le_distance (half : |(chosen : ℝ) - number| ≤ 1 / 2) (different : other ≠ chosen) :
    1 / 2 ≤ |(other : ℝ) - number| := by
  obtain ⟨low, high⟩ := abs_le.mp half
  rcases different.lt_or_gt with less | more
  · have step : (other : ℝ) + 1 ≤ chosen := by exact_mod_cast less
    rw [le_abs]
    right
    linarith
  · have step : (chosen : ℝ) + 1 ≤ other := by exact_mod_cast more
    rw [le_abs]
    left
    linarith

/-- An integer that is at most one half away is nearest. -/
theorem closest_of_half (half : |(chosen : ℝ) - number| ≤ 1 / 2) (other : Nat) :
    |(chosen : ℝ) - number| ≤ |(other : ℝ) - number| := by
  by_cases same : other = chosen
  · rw [same]
  · exact half.trans (half_le_distance half same)

/-- An equally near integer is the same one, or the chosen one is even. -/
theorem even_of_tie (half : |(chosen : ℝ) - number| ≤ 1 / 2)
    (even : |(chosen : ℝ) - number| = 1 / 2 → Even chosen)
    (tie : |(other : ℝ) - number| = |(chosen : ℝ) - number|) : other = chosen ∨ Even chosen := by
  by_cases same : other = chosen
  · exact .inl same
  · exact .inr (even (half.antisymm (tie ▸ half_le_distance half same)))

end Integers

/-! ## The grid -/

/-- Powers of two are positive, so they can be divided by. -/
theorem two_to_pos (exponent : Nat) : 0 < twoTo exponent := Nat.two_pow_pos exponent

/-- Exponents are added where powers are multiplied. -/
theorem two_to_add (left right : Nat) : twoTo (left + right) = twoTo left * twoTo right :=
  Nat.pow_add 2 left right

/-- The next power is twice as large. -/
theorem two_to_succ (exponent : Nat) : twoTo (exponent + 1) = twoTo exponent * 2 :=
  Nat.pow_succ 2 exponent

/-- Powers grow with their exponents. -/
theorem two_to_le {small large : Nat} (least : small ≤ large) : twoTo small ≤ twoTo large :=
  Nat.pow_le_pow_right two_pos least

/-- A larger exponent makes a power at least twice as large. This is stated of reals, where
distances are measured. -/
theorem two_to_double_le {small large : Nat} (less : small < large) :
    (twoTo small * 2 : ℝ) ≤ twoTo large := by
  have doubled : twoTo small * 2 ≤ twoTo large :=
    two_to_succ small ▸ two_to_le (Nat.succ_le_of_lt less)
  exact_mod_cast doubled

/-- A mantissa has at most fifty-three binary digits. -/
theorem mantissa_bound_eq : mantissaBound = twoTo 53 := rfl

/-- The least mantissa with fifty-three binary digits. -/
theorem leading_bit_eq : leadingBit = twoTo 52 := rfl

/-- Mantissas of full length lie between the leading bit and its double. -/
theorem leading_bit_double : leadingBit * 2 = mantissaBound := rfl

/-- The shift of the grid on which a quotient is rounded: the quotient has 53 binary digits in front
of the grid's point, or the grid is the finest one. -/
def gridShift (numerator denominator : Nat) : Nat := Nat.log2 (numerator / denominator) - 52

section Grid

variable {numerator denominator : Nat}

/-- The grid is fine enough for the quotient to need no more than 53 binary digits. -/
theorem quotient_below (positive : 0 < denominator) :
    numerator < mantissaBound * (denominator * twoTo (gridShift numerator denominator)) := by
  have digits : numerator / denominator < twoTo (53 + gridShift numerator denominator) :=
    calc numerator / denominator
        < 2 ^ ((numerator / denominator).log2 + 1) := Nat.lt_log2_self
      _ ≤ 2 ^ (53 + gridShift numerator denominator) :=
          Nat.pow_le_pow_right two_pos (by unfold gridShift; omega)
  rw [mantissa_bound_eq, mul_left_comm, ← two_to_add, mul_comm]
  exact (Nat.div_lt_iff_lt_mul positive).mp digits

/-- A grid that is not the finest one is coarse enough for the quotient to need 53 binary digits. -/
theorem quotient_above (positive : 0 < denominator) (coarse : gridShift numerator denominator ≠ 0) :
    leadingBit * (denominator * twoTo (gridShift numerator denominator)) ≤ numerator := by
  have digits : twoTo (52 + gridShift numerator denominator) ≤ numerator / denominator :=
    calc 2 ^ (52 + gridShift numerator denominator)
        ≤ 2 ^ (numerator / denominator).log2 :=
          Nat.pow_le_pow_right two_pos (by unfold gridShift at coarse ⊢; omega)
      _ ≤ numerator / denominator :=
          Nat.log2_self_le (by rintro zero; simp [gridShift, zero] at coarse)
  rw [leading_bit_eq, mul_left_comm, ← two_to_add, mul_comm]
  exact (Nat.le_div_iff_mul_le positive).mp digits

end Grid

/-- A magnitude of a finer grid than one with a shift lies below the least number of steps that need
53 binary digits there. -/
theorem finer_units_lt {other : Magnitude} {shift : Nat} (finer : other.shift < shift) :
    other.units < leadingBit * twoTo shift := by
  obtain ⟨before, rfl⟩ := Nat.exists_eq_add_of_lt finer
  rw [two_to_succ, mul_comm (twoTo _) 2, ← mul_assoc, leading_bit_double]
  calc other.mantissa * twoTo other.shift
      < mantissaBound * twoTo other.shift :=
        Nat.mul_lt_mul_of_pos_right other.normal.1 (two_to_pos _)
    _ ≤ mantissaBound * twoTo (other.shift + before) :=
        Nat.mul_le_mul_left _ (two_to_le (by omega))

/-! ## Nearest magnitudes -/

/-- A number of units counted in steps of a grid: the steps are nearest to it, even ones if it lies
halfway, and it needs 53 binary digits in front of the grid's point, or fewer on the finest grid. -/
structure Gridded (number : ℝ) (steps shift : Nat) : Prop where
  half : |(steps : ℝ) - number / twoTo shift| ≤ 1 / 2
  even : |(steps : ℝ) - number / twoTo shift| = 1 / 2 → Even steps
  least : shift ≠ 0 → leadingBit * twoTo shift ≤ number
  below : number < mantissaBound * twoTo shift

/-- A quotient on its grid. -/
theorem gridded (numerator : Nat) {denominator : Nat} (positive : 0 < denominator) :
    let shift := gridShift numerator denominator
    Gridded (numerator / denominator) (nearest numerator (denominator * twoTo shift)) shift := by
  intro shift
  have denominatorPositive : (0 : ℝ) < denominator := by exact_mod_cast positive
  have scaled : (numerator : ℝ) / denominator / twoTo shift =
      numerator / (denominator * twoTo shift : Nat) := by
    rw [div_div, Nat.cast_mul]
  obtain ⟨half, even⟩ := nearest_half numerator (Nat.mul_pos positive (two_to_pos shift))
  refine ⟨scaled ▸ half, scaled ▸ even, fun coarse => ?_, ?_⟩
  · rw [le_div_iff₀ denominatorPositive, mul_right_comm, mul_assoc]
    exact_mod_cast quotient_above positive coarse
  · rw [div_lt_iff₀ denominatorPositive, mul_right_comm, mul_assoc]
    exact_mod_cast quotient_below positive

/-- Counting in steps of a grid scales distances. -/
theorem step_distance (count shift : Nat) (number : ℝ) :
    |(count : ℝ) * twoTo shift - number| = twoTo shift * |(count : ℝ) - number / twoTo shift| := by
  have positive : (0 : ℝ) < twoTo shift := by exact_mod_cast two_to_pos shift
  have factored : (count : ℝ) * twoTo shift - number =
      twoTo shift * ((count : ℝ) - number / twoTo shift) := by
    field_simp
  rw [factored, abs_mul, abs_of_pos positive]

/-- The magnitude of a number of steps; a full number of them is one step of the next grid. -/
def Magnitude.ofSteps? (steps shift : Nat) : Option Magnitude :=
  if steps = mantissaBound then ofParts? leadingBit (shift + 1) else ofParts? steps shift

/-- The number of units half a step beyond the largest magnitude. -/
noncomputable def unitLimit : ℝ := mantissaBound * twoTo maximalShift - twoTo (maximalShift - 1)

/-- The limit lies half a step of the coarsest grid beyond the largest magnitude. -/
theorem unit_limit_eq : unitLimit = (mantissaBound - 1 / 2) * twoTo maximalShift := by
  have double : (twoTo maximalShift : ℝ) = twoTo (maximalShift - 1) * 2 := by
    exact_mod_cast two_to_succ (maximalShift - 1)
  rw [unitLimit, double]
  ring

namespace Gridded

variable {number : ℝ} {steps shift : Nat}

/-- No magnitude is closer to a number than its steps, and if another one is equally near they are
even. A magnitude of the same or a coarser grid is a number of steps. One of a finer grid lies below
the least number of steps that need 53 binary digits, which does not lie above the number. -/
theorem closest (given : Gridded number steps shift) (other : Magnitude) :
    |(steps : ℝ) * twoTo shift - number| ≤ |other.units - number| ∧
      (|other.units - number| = |(steps : ℝ) * twoTo shift - number| →
        other.units = steps * twoTo shift ∨ Even steps) := by
  have positive : (0 : ℝ) < twoTo shift := by exact_mod_cast two_to_pos shift
  by_cases grid : shift ≤ other.shift
  · have counted : other.units = other.mantissa * twoTo (other.shift - shift) * twoTo shift := by
      rw [Magnitude.units, mul_assoc, ← two_to_add, Nat.sub_add_cancel grid]
    rw [counted, Nat.cast_mul _ (twoTo shift), step_distance, step_distance,
      mul_le_mul_iff_of_pos_left positive, mul_right_inj' positive.ne',
      Nat.mul_left_inj (two_to_pos shift).ne']
    exact ⟨closest_of_half given.half _, even_of_tie given.half given.even⟩
  · have least : (leadingBit : ℝ) * twoTo shift ≤ number := given.least (by omega)
    have below : (other.units : ℝ) < leadingBit * twoTo shift := by
      exact_mod_cast finer_units_lt (not_le.mp grid)
    have closer : |(steps : ℝ) * twoTo shift - number| < |other.units - number| :=
      calc |(steps : ℝ) * twoTo shift - number| ≤ |(leadingBit : ℝ) * twoTo shift - number| := by
            rw [step_distance, step_distance, mul_le_mul_iff_of_pos_left positive]
            exact closest_of_half given.half leadingBit
        _ = number - leadingBit * twoTo shift := by rw [abs_of_nonpos (by linarith), neg_sub]
        _ < number - other.units := by linarith
        _ = |other.units - number| := by rw [abs_of_neg (by linarith), neg_sub]
    exact ⟨closer.le, fun tie => absurd tie closer.ne'⟩

/-- A number needs at most a full number of steps of its grid, which is reached only by rounding up.
-/
theorem steps_le (given : Gridded number steps shift) : steps ≤ mantissaBound := by
  have positive : (0 : ℝ) < twoTo shift := by exact_mod_cast two_to_pos shift
  have below : number / twoTo shift < mantissaBound := (div_lt_iff₀ positive).mpr given.below
  have less : (steps : ℝ) < (mantissaBound + 1 : Nat) := by
    rw [Nat.cast_add_one]
    linarith [(abs_le.mp given.half).2]
  exact Nat.le_of_lt_add_one (Nat.cast_lt.mp less)

/-- On a coarse grid a number needs at least as many steps as have full length. Only the finest grid
has fewer. -/
theorem le_steps (given : Gridded number steps shift) (coarse : shift ≠ 0) :
    leadingBit ≤ steps := by
  have positive : (0 : ℝ) < twoTo shift := by exact_mod_cast two_to_pos shift
  have above : leadingBit ≤ number / twoTo shift := (le_div_iff₀ positive).mpr (given.least coarse)
  have less : (leadingBit : ℝ) < (steps + 1 : Nat) := by
    rw [Nat.cast_add_one]
    linarith [(abs_le.mp given.half).1]
  exact Nat.le_of_lt_add_one (Nat.cast_lt.mp less)

/-- Steps of a grid below the coarsest one stay below the limit. -/
theorem lt_limit (given : Gridded number steps shift) (fine : shift < maximalShift) :
    number < unitLimit := by
  have power : (twoTo shift * 2 : ℝ) ≤ twoTo maximalShift := two_to_double_le fine
  have bound : (mantissaBound : ℝ) / 2 ≤ mantissaBound - 1 / 2 := by
    norm_num [mantissaBound]
  have nonnegative : (0 : ℝ) ≤ mantissaBound - 1 / 2 :=
    (div_nonneg (Nat.cast_nonneg _) zero_le_two).trans bound
  have positive : (0 : ℝ) ≤ twoTo shift * 2 := mul_nonneg (Nat.cast_nonneg _) zero_le_two
  calc number < mantissaBound * twoTo shift := given.below
    _ = mantissaBound / 2 * (twoTo shift * 2) := by ring
    _ ≤ (mantissaBound - 1 / 2) * (twoTo shift * 2) := mul_le_mul_of_nonneg_right bound positive
    _ ≤ (mantissaBound - 1 / 2) * twoTo maximalShift := mul_le_mul_of_nonneg_left power nonnegative
    _ = unitLimit := unit_limit_eq.symm

/-- Steps of a grid beyond the coarsest one do not stay below the limit. -/
theorem limit_le (given : Gridded number steps shift) (coarse : maximalShift < shift) :
    unitLimit ≤ number := by
  have power : (twoTo maximalShift * 2 : ℝ) ≤ twoTo shift := two_to_double_le coarse
  have bound : (mantissaBound : ℝ) = leadingBit * 2 := by exact_mod_cast leading_bit_double.symm
  calc unitLimit ≤ mantissaBound * twoTo maximalShift := sub_le_self _ (Nat.cast_nonneg _)
    _ = leadingBit * (twoTo maximalShift * 2) := by rw [bound, mul_assoc, mul_comm (2 : ℝ)]
    _ ≤ leadingBit * twoTo shift := mul_le_mul_of_nonneg_left power (Nat.cast_nonneg _)
    _ ≤ number := given.least (Nat.ne_zero_of_lt coarse)

/-- On the coarsest grid only a full number of steps reaches the limit: an odd number of them lies
below it, and halfway between that and a full number lies the limit itself. -/
theorem limit_le_iff (given : Gridded number steps maximalShift) :
    unitLimit ≤ number ↔ steps = mantissaBound := by
  have positive : (0 : ℝ) < twoTo maximalShift := by exact_mod_cast two_to_pos maximalShift
  obtain ⟨low, high⟩ := abs_le.mp given.half
  rw [unit_limit_eq, ← le_div_iff₀ positive]
  constructor
  · intro reached
    by_contra partly
    have less : steps + 1 ≤ mantissaBound := Nat.lt_of_le_of_ne given.steps_le partly
    have lessReal : (steps : ℝ) + 1 ≤ mantissaBound := by exact_mod_cast less
    have halfway : |(steps : ℝ) - number / twoTo maximalShift| = 1 / 2 :=
      given.half.antisymm (le_abs.mpr (.inr (by linarith)))
    obtain ⟨double, even⟩ := given.even halfway
    have last : (steps : ℝ) + 1 = mantissaBound := by linarith
    have lastCount : steps + 1 = mantissaBound := by exact_mod_cast last
    unfold mantissaBound at lastCount
    omega
  · intro full
    rw [full] at high
    linarith

/-- Steps are those of a magnitude below the limit, and of none from there on. -/
theorem magnitude (given : Gridded number steps shift) :
    (number < unitLimit ∧ ∃ size, Magnitude.ofSteps? steps shift = some size ∧
        size.units = steps * twoTo shift ∧ (Even steps → Even size.mantissa)) ∨
      (unitLimit ≤ number ∧ Magnitude.ofSteps? steps shift = none) := by
  have kept (partly : steps ≠ mantissaBound) (inside : shift ≤ maximalShift) :
      ∃ size, Magnitude.ofSteps? steps shift = some size ∧
        size.units = steps * twoTo shift ∧ (Even steps → Even size.mantissa) := by
    have normal : steps < mantissaBound ∧ shift ≤ maximalShift ∧
        (shift = 0 ∨ leadingBit ≤ steps) :=
      ⟨Nat.lt_of_le_of_ne given.steps_le partly, inside,
        or_iff_not_imp_left.mpr given.le_steps⟩
    exact ⟨⟨steps, shift, normal⟩, by rw [Magnitude.ofSteps?, if_neg partly, Magnitude.ofParts?,
      dif_pos normal], rfl, id⟩
  rcases lt_trichotomy shift maximalShift with fine | rfl | coarse
  · refine .inl ⟨given.lt_limit fine, ?_⟩
    by_cases full : steps = mantissaBound
    · have normal : leadingBit < mantissaBound ∧ shift + 1 ≤ maximalShift ∧
          (shift + 1 = 0 ∨ leadingBit ≤ leadingBit) :=
        ⟨by decide, Nat.succ_le_of_lt fine, .inr le_rfl⟩
      have even : Even leadingBit := by decide
      refine ⟨⟨leadingBit, shift + 1, normal⟩, ?_, ?_, fun _ => even⟩
      · rw [Magnitude.ofSteps?, if_pos full, Magnitude.ofParts?, dif_pos normal]
      · rw [Magnitude.units, full, two_to_succ, mul_comm (twoTo shift), ← mul_assoc,
          leading_bit_double]
    · exact kept full fine.le
  · by_cases full : steps = mantissaBound
    · refine .inr ⟨given.limit_le_iff.mpr full, ?_⟩
      rw [Magnitude.ofSteps?, if_pos full, Magnitude.ofParts?, dif_neg (by omega)]
    · exact .inl ⟨not_le.mp (mt given.limit_le_iff.mp full), kept full le_rfl⟩
  · refine .inr ⟨given.limit_le coarse, ?_⟩
    rw [Magnitude.ofSteps?, Magnitude.ofParts?, Magnitude.ofParts?, dif_neg (by omega),
      dif_neg (by omega), ite_self]

end Gridded

/-! ## Nearest doubles -/

/-- The real number that a double denotes; one that is not finite counts as zero. -/
noncomputable def Double.real : Double → ℝ
  | .finite true size => -size.real
  | .finite false size => size.real
  | _ => 0

/-- A double whose last binary digit is zero. -/
def Double.IsEven : Double → Prop
  | .finite _ size => Even size.mantissa
  | _ => False

/-- The magnitude that is nearest to a number, the even one of two. -/
structure Magnitude.Nearest (number : ℝ) (size : Magnitude) : Prop where
  closest (other : Magnitude) : |size.real - number| ≤ |other.real - number|
  even (other : Magnitude) (tie : |other.real - number| = |size.real - number|) :
    other.real = size.real ∨ Even size.mantissa

/-- The finite double that is nearest to a number, the even one of two. -/
structure Double.Nearest (number : ℝ) (double : Double) : Prop where
  finite : double.isFinite = true
  closest (other : Double) (otherFinite : other.isFinite = true) :
    |double.real - number| ≤ |other.real - number|
  even (other : Double) (otherFinite : other.isFinite = true)
    (tie : |other.real - number| = |double.real - number|) :
    other.real = double.real ∨ double.IsEven

/-- Half of the last place beyond the largest finite double. From here on numbers become infinite.
-/
noncomputable def Double.limit : ℝ := (2 ^ 1024 - 2 ^ 970 : ℤ)

/-- The limit in plain numbers. What is below it is rounded to a finite double. -/
theorem Double.limit_eq : Double.limit = 2 ^ 1024 - 2 ^ 970 := by
  rw [limit, Int.cast_sub, Int.cast_pow, Int.cast_pow, Int.cast_ofNat]

/-- A power of two as a real number. -/
theorem two_to_real (exponent : Nat) : (twoTo exponent : ℝ) = 2 ^ (exponent : ℤ) := by
  rw [twoTo, Nat.pow_eq, Nat.cast_pow, Nat.cast_ofNat, zpow_natCast]

/-- One is made of so many units that their places add up to it. -/
theorem units_of_one : (twoTo unitExponent : ℝ) * placeUnit = 1 := by
  rw [two_to_real, placeUnit, ← zpow_add₀ two_ne_zero]
  exact zpow_zero 2

/-- The limit in units, so that it can be compared with steps of a grid. -/
theorem limit_eq_units : Double.limit = unitLimit * placeUnit := by
  have bound : (mantissaBound : ℝ) = 2 ^ 53 := by norm_num [mantissaBound]
  have step : (twoTo maximalShift : ℝ) * placeUnit = 2 ^ 971 := by
    rw [two_to_real, placeUnit, ← zpow_add₀ two_ne_zero]
    exact zpow_natCast 2 971
  have whole : (2 : ℝ) ^ 1024 = 2 ^ 53 * 2 ^ 971 := by rw [← pow_add]
  have half : (2 : ℝ) ^ 970 = 1 / 2 * 2 ^ 971 := by
    rw [pow_succ (2 : ℝ) 970, one_div_mul_eq_div, mul_div_cancel_right₀ _ two_ne_zero]
  rw [Double.limit_eq, unit_limit_eq, mul_assoc, step, bound, sub_mul, whole, half]

/-- No magnitude reaches the limit. -/
theorem Magnitude.real_lt_limit (size : Magnitude) : size.real < Double.limit := by
  have mantissa : (size.mantissa : ℝ) + 1 ≤ mantissaBound := by
    exact_mod_cast Nat.succ_le_of_lt size.normal.1
  have shift : (twoTo size.shift : ℝ) ≤ twoTo maximalShift :=
    Nat.cast_le.mpr (two_to_le size.normal.2.1)
  have positive : (0 : ℝ) < twoTo maximalShift := Nat.cast_pos.mpr (two_to_pos _)
  rw [size.real_eq_units, limit_eq_units, mul_lt_mul_iff_of_pos_right place_unit_pos,
    Magnitude.units, Nat.cast_mul]
  calc (size.mantissa : ℝ) * twoTo size.shift ≤ size.mantissa * twoTo maximalShift :=
        mul_le_mul_of_nonneg_left shift (Nat.cast_nonneg _)
    _ < (mantissaBound - 1 / 2) * twoTo maximalShift :=
        mul_lt_mul_of_pos_right (by linarith) positive
    _ = unitLimit := unit_limit_eq.symm

/-- The magnitude of a quotient is the nearest one; there is none from the limit on. -/
theorem Magnitude.of_ratio_nearest {numerator denominator : Nat} (positive : 0 < denominator) :
    ((numerator / denominator : ℝ) < Double.limit ∧
      ∃ size, Magnitude.ofRatio? numerator denominator = some size ∧
        size.Nearest (numerator / denominator)) ∨
    (Double.limit ≤ (numerator / denominator : ℝ) ∧
      Magnitude.ofRatio? numerator denominator = none) := by
  have scaled : (numerator / denominator : ℝ) =
      (numerator * twoTo unitExponent : Nat) / denominator * placeUnit := by
    rw [Nat.cast_mul, div_mul_eq_mul_div, mul_assoc, units_of_one, mul_one]
  have distance (units : ℝ) (number : ℝ) :
      |units * placeUnit - number * placeUnit| = |units - number| * placeUnit := by
    rw [← sub_mul, abs_mul, abs_of_pos place_unit_pos]
  have given := gridded (numerator * twoTo unitExponent) positive
  rw [scaled, limit_eq_units, mul_lt_mul_iff_of_pos_right place_unit_pos,
    mul_le_mul_iff_of_pos_right place_unit_pos]
  rcases given.magnitude with ⟨below, size, made, counted, even⟩ | ⟨reached, none⟩
  · have units := congrArg (Nat.cast : Nat → ℝ) counted
    rw [Nat.cast_mul] at units
    refine .inl ⟨below, size, made, fun other => ?_, fun other tie => ?_⟩
    · rw [size.real_eq_units, other.real_eq_units, distance, distance, units]
      exact mul_le_mul_of_nonneg_right (given.closest other).1 place_unit_pos.le
    · rw [size.real_eq_units, other.real_eq_units, distance, distance, units,
        mul_left_inj' place_unit_pos.ne'] at tie
      rw [size.real_eq_units, other.real_eq_units, counted]
      rcases (given.closest other).2 tie with same | evenSteps
      · exact .inl (by rw [same])
      · exact .inr (even evenSteps)
  · exact .inr ⟨reached, none⟩

/-! ## Signs -/

/-- Magnitudes are not negative; signs are added to them. -/
theorem Magnitude.real_nonneg (size : Magnitude) : 0 ≤ size.real := by
  unfold Magnitude.real
  positivity

/-- The magnitude zero denotes zero. -/
theorem Magnitude.zero_real : Magnitude.zero.real = 0 := by
  simp [Magnitude.real, Magnitude.zero]

/-- A number with a sign in front. -/
def withSign (negative : Bool) (number : ℝ) : ℝ := if negative then -number else number

/-- A finite double denotes its magnitude under its sign. Both zeros denote zero. -/
theorem Double.finite_real (negative : Bool) (size : Magnitude) :
    (Double.finite negative size).real = withSign negative size.real := by
  cases negative <;> rfl

/-- A sign does not change the size of a number. -/
theorem abs_with_sign (negative : Bool) (number : ℝ) : |withSign negative number| = |number| := by
  cases negative
  · rfl
  · exact abs_neg number

/-- Under one sign two numbers are as far apart as without it. -/
theorem with_sign_sub (negative : Bool) (left right : ℝ) :
    |withSign negative left - withSign negative right| = |left - right| := by
  cases negative
  · rfl
  · rw [withSign, withSign, if_pos rfl, if_pos rfl, neg_sub_neg, abs_sub_comm]

/-- A finite double is a magnitude with a given sign or with the other one. -/
theorem Double.real_signed {double : Double} (finite : double.isFinite = true) (negative : Bool) :
    ∃ size : Magnitude, double.real = withSign negative size.real ∨
      double.real = withSign negative (-size.real) := by
  match double, negative with
  | .finite true size, true => exact ⟨size, .inl rfl⟩
  | .finite false size, false => exact ⟨size, .inl rfl⟩
  | .finite true size, false => exact ⟨size, .inr rfl⟩
  | .finite false size, true => exact ⟨size, .inr (neg_neg size.real).symm⟩

/-- With its sign the nearest magnitude is the nearest double: one with the other sign is no closer
than zero. -/
theorem Magnitude.Nearest.signed {number : ℝ} {size : Magnitude} (nearest : size.Nearest number)
    (nonnegative : 0 ≤ number) (negative : Bool) :
    (Double.finite negative size).Nearest (withSign negative number) := by
  have opposite (other : Magnitude) : |-other.real - number| = other.real + number := by
    rw [neg_sub_left, abs_neg, add_comm, abs_of_nonneg (add_nonneg other.real_nonneg nonnegative)]
  have fromZero : |Magnitude.zero.real - number| = number := by
    rw [Magnitude.zero_real, zero_sub, abs_neg, abs_of_nonneg nonnegative]
  have toZero := nearest.closest .zero
  refine ⟨rfl, fun other finite => ?_, fun other finite tie => ?_⟩
  · obtain ⟨otherSize, same | opposed⟩ := Double.real_signed finite negative
    · rw [same, Double.finite_real, with_sign_sub, with_sign_sub]
      exact nearest.closest otherSize
    · rw [opposed, Double.finite_real, with_sign_sub, with_sign_sub, opposite]
      linarith [otherSize.real_nonneg]
  · obtain ⟨otherSize, same | opposed⟩ := Double.real_signed finite negative
    · rw [same, Double.finite_real, with_sign_sub, with_sign_sub] at tie
      rw [same, Double.finite_real]
      exact (nearest.even otherSize tie).imp_left (congrArg (withSign negative))
    · rw [opposed, Double.finite_real, with_sign_sub, with_sign_sub, opposite] at tie
      have none : otherSize.real = 0 := by linarith [otherSize.real_nonneg]
      have tieAtZero : |Magnitude.zero.real - number| = |size.real - number| := by linarith
      rw [opposed, Double.finite_real, none, neg_zero, ← Magnitude.zero_real]
      exact (nearest.even .zero tieAtZero).imp_left (congrArg (withSign negative))

/-! ## Rounding -/

/-- What a number of a given sign and size is rounded to: the nearest magnitude below the limit, an
infinity from there on. -/
inductive Double.Rounds (negative : Bool) (number : ℝ) : Double → Prop
  | finite {size : Magnitude} (below : number < limit) (nearest : size.Nearest number) :
      Rounds negative number (.finite negative size)
  | infinite (reached : limit ≤ number) : Rounds negative number (.infinity negative)

/-- A ratio is rounded correctly. The steps are those of integer division, and the remainder says
whether half a step is left. -/
theorem Double.of_ratio_rounds {numerator denominator : Nat} (positive : 0 < denominator)
    (negative : Bool) :
    Double.Rounds negative (numerator / denominator)
      (Double.ofRatio negative numerator denominator) := by
  rw [Double.ofRatio]
  rcases Magnitude.of_ratio_nearest positive with ⟨below, size, made, nearest⟩ | ⟨reached, made⟩
  · rw [made]
    exact .finite below nearest
  · rw [made]
    exact .infinite reached

/-- The number that a decimal denotes, without its sign. -/
noncomputable def Decimal.size (number : Decimal) : ℝ := number.digits * 10 ^ number.exponent

/-- The number that a decimal denotes. -/
noncomputable def Decimal.value (number : Decimal) : ℝ := withSign number.negative number.size

/-- A decimal without its sign is not negative. -/
theorem Decimal.size_nonneg (number : Decimal) : 0 ≤ number.size := by
  unfold size
  positivity

/-- A positive number lies between the powers of ten that its digits allow. So numbers that are far
too large or too small are told by their digits alone. -/
theorem digit_count_bounds {number : Nat} (positive : 0 < number) :
    10 ^ (digitCount number - 1) ≤ number ∧ number < 10 ^ digitCount number := by
  have some : 0 < digitCount number := Nat.length_toDigits_pos
  constructor
  · by_contra short
    by_cases single : digitCount number = 1
    · rw [single] at short
      omega
    · have fits := (Nat.length_toDigits_le_iff (b := 10) (by decide)
        (by omega : 0 < digitCount number - 1)).mpr (not_le.mp short)
      unfold digitCount at *
      omega
  · exact (Nat.length_toDigits_le_iff (by decide) some).mp le_rfl

/-- Counting digits places a decimal between two powers of ten. -/
theorem Decimal.size_bounds {number : Decimal} (some : number.digits ≠ 0) :
    (10 : ℝ) ^ (digitCount number.digits + number.exponent - 1) ≤ number.size ∧
      number.size < 10 ^ (digitCount number.digits + number.exponent) := by
  have count : 0 < digitCount number.digits := Nat.length_toDigits_pos
  have power : (0 : ℝ) < 10 ^ number.exponent := by positivity
  obtain ⟨low, high⟩ := digit_count_bounds (Nat.pos_of_ne_zero some)
  have lowReal : (10 : ℝ) ^ (digitCount number.digits - 1) ≤ number.digits := by exact_mod_cast low
  have highReal : (number.digits : ℝ) < 10 ^ digitCount number.digits := by exact_mod_cast high
  constructor
  · have split : (digitCount number.digits + number.exponent - 1 : ℤ) =
        (digitCount number.digits - 1 : Nat) + number.exponent := by omega
    rw [split, zpow_add₀ (by norm_num), zpow_natCast]
    exact mul_le_mul_of_nonneg_right lowReal power.le
  · rw [zpow_add₀ (by norm_num), zpow_natCast]
    exact mul_lt_mul_of_pos_right highReal power

/-- A number that is no more than half of the smallest positive double is nearest to zero. -/
theorem Magnitude.zero_nearest {number : ℝ} (nonnegative : 0 ≤ number)
    (small : 2 * number ≤ placeUnit) : Magnitude.zero.Nearest number := by
  have even : Even Magnitude.zero.mantissa := by decide
  refine ⟨fun other => ?_, fun _ _ => .inr even⟩
  rw [zero_real, zero_sub, abs_neg, abs_of_nonneg nonnegative]
  by_cases none : other.units = 0
  · rw [other.real_eq_units, none, Nat.cast_zero, zero_mul, zero_sub, abs_neg]
    exact le_abs_self number
  · have count : (1 : ℝ) ≤ other.units := by exact_mod_cast Nat.pos_of_ne_zero none
    have least : placeUnit ≤ other.real := by
      rw [other.real_eq_units]
      exact le_mul_of_one_le_left place_unit_pos.le count
    exact le_abs.mpr (.inl (by linarith))

/-- One is below the limit, as are all numbers without an exponent worth mentioning. -/
theorem Double.one_lt_limit : 1 < Double.limit := by
  have double : (2 : ℝ) ^ 970 = 2 ^ 971 - 2 ^ 970 := by
    rw [pow_succ (2 : ℝ) 970, mul_two, add_sub_cancel_right]
  calc (1 : ℝ) < 2 ^ 970 := one_lt_pow₀ one_lt_two (by decide)
    _ = 2 ^ 971 - 2 ^ 970 := double
    _ ≤ 2 ^ 1024 - 2 ^ 970 := sub_le_sub_right (pow_le_pow_right₀ one_le_two (by decide)) _
    _ = limit := limit_eq.symm

/-- A power of ten beyond which every number is infinite. It need not be the least one. -/
theorem Double.limit_le : Double.limit ≤ 10 ^ (311 : ℤ) := by
  have powers : ((2 ^ 1024 : Nat) : ℝ) ≤ (10 ^ 311 : Nat) := Nat.cast_le.mpr (by decide +kernel)
  rw [Nat.cast_pow, Nat.cast_pow, Nat.cast_ofNat, Nat.cast_ofNat] at powers
  calc Double.limit = 2 ^ 1024 - 2 ^ 970 := limit_eq
    _ ≤ 2 ^ 1024 := sub_le_self _ (pow_nonneg zero_le_two 970)
    _ ≤ 10 ^ 311 := powers
    _ = 10 ^ (311 : ℤ) := (zpow_natCast 10 311).symm

/-- A power of ten below which every number is rounded to zero. It need not be the largest one. -/
theorem half_place_unit_ge : 2 * (10 : ℝ) ^ (-331 : ℤ) ≤ placeUnit := by
  have powers : ((2 ^ 1074 * 2 : Nat) : ℝ) ≤ (10 ^ 331 : Nat) := Nat.cast_le.mpr (by decide +kernel)
  rw [Nat.cast_mul, Nat.cast_pow, Nat.cast_pow, Nat.cast_ofNat, Nat.cast_ofNat] at powers
  have ten : (10 : ℝ) ^ (-331 : ℤ) = (10 ^ 331)⁻¹ := zpow_neg_coe_of_pos 10 (by decide)
  have two : placeUnit = (2 ^ 1074)⁻¹ := zpow_neg_coe_of_pos 2 (by decide)
  rw [ten, two, ← div_eq_mul_inv, div_le_iff₀ (by positivity), inv_mul_eq_div,
    le_div_iff₀ (by positivity), mul_comm]
  exact powers

/-- A power of ten as a real number. -/
theorem ten_to_real (exponent : Nat) : (tenTo exponent : ℝ) = 10 ^ (exponent : ℤ) := by
  rw [tenTo, Nat.pow_eq, Nat.cast_pow, Nat.cast_ofNat, zpow_natCast]

/-- A decimal is read as the double that is nearest to it, or as an infinity from the limit on. -/
theorem Double.of_decimal_rounds (number : Decimal) :
    Double.Rounds number.negative number.size (Double.ofDecimal number) := by
  have inside {size : ℝ} (small : 2 * size ≤ placeUnit) : size < limit := by
    have unit : placeUnit ≤ 1 := zpow_le_one_of_nonpos₀ one_le_two (by decide)
    linarith [one_lt_limit]
  unfold Double.ofDecimal
  dsimp only
  split_ifs with none large small fraction
  · have zero : number.size = 0 := by rw [Decimal.size, none, Nat.cast_zero, zero_mul]
    have tiny : 2 * number.size ≤ placeUnit := by
      rw [zero, mul_zero]
      exact place_unit_pos.le
    exact .finite (inside tiny) (Magnitude.zero_nearest number.size_nonneg tiny)
  · refine .infinite ?_
    calc limit ≤ 10 ^ (311 : ℤ) := limit_le
      _ ≤ 10 ^ (digitCount number.digits + number.exponent - 1) :=
          zpow_le_zpow_right₀ (by norm_num) (by omega)
      _ ≤ number.size := (Decimal.size_bounds none).1
  · have tiny : 2 * number.size ≤ placeUnit :=
      calc 2 * number.size ≤ 2 * 10 ^ (digitCount number.digits + number.exponent) :=
            mul_le_mul_of_nonneg_left (Decimal.size_bounds none).2.le zero_le_two
        _ ≤ 2 * 10 ^ (-331 : ℤ) :=
            mul_le_mul_of_nonneg_left (zpow_le_zpow_right₀ (by norm_num) (by omega)) zero_le_two
        _ ≤ placeUnit := half_place_unit_ge
    exact .finite (inside tiny) (Magnitude.zero_nearest number.size_nonneg tiny)
  · have quotient : number.size = number.digits / tenTo number.exponent.natAbs := by
      have absolute : ((number.exponent.natAbs : Nat) : ℤ) = -number.exponent := by omega
      rw [Decimal.size, ten_to_real, absolute, zpow_neg, div_inv_eq_mul]
    rw [quotient]
    exact of_ratio_rounds (Nat.pow_pos (by decide)) number.negative
  · have quotient : number.size =
        (number.digits * tenTo number.exponent.natAbs : Nat) / (1 : Nat) := by
      have absolute : ((number.exponent.natAbs : Nat) : ℤ) = number.exponent := by omega
      rw [Decimal.size, Nat.cast_mul, ten_to_real, absolute, Nat.cast_one, div_one]
    rw [quotient]
    exact of_ratio_rounds Nat.one_pos number.negative

namespace Double.Rounds

variable {negative : Bool} {number : ℝ} {double : Double}

/-- What is rounded to a finite double is what lies below the limit. -/
theorem finite_iff (rounds : Double.Rounds negative number double) :
    double.isFinite = true ↔ number < limit := by
  cases rounds with
  | finite below nearest => exact iff_of_true rfl below
  | infinite reached => exact iff_of_false Bool.false_ne_true (not_lt.mpr reached)

/-- Where the outcome is finite, no double is nearer to the number, and of two that are equally near
the even one was chosen. -/
theorem nearest (rounds : Double.Rounds negative number double) (nonnegative : 0 ≤ number)
    (finite : double.isFinite = true) : double.Nearest (withSign negative number) := by
  cases rounds with
  | finite below nearest => exact nearest.signed nonnegative negative
  | infinite reached => cases finite

end Double.Rounds

/-- A decimal below the limit is read as the finite double nearest to it, and only such a decimal is
read as a finite double. -/
theorem Double.of_decimal_finite_iff (number : Decimal) :
    (Double.ofDecimal number).isFinite = true ↔ |number.value| < Double.limit := by
  rw [Decimal.value, abs_with_sign, abs_of_nonneg number.size_nonneg]
  exact (Double.of_decimal_rounds number).finite_iff

/-- The double of a decimal is the nearest one to what the decimal denotes, whenever it is finite.
-/
theorem Double.of_decimal_nearest {number : Decimal}
    (finite : (Double.ofDecimal number).isFinite = true) :
    (Double.ofDecimal number).Nearest number.value :=
  (Double.of_decimal_rounds number).nearest number.size_nonneg finite

/-! ## Whole numbers -/

/-- The integer part of a number, what is left of it without its fraction. -/
noncomputable def integerPart (number : ℝ) : ℤ := if 0 ≤ number then ⌊number⌋ else ⌈number⌉

/-- The whole part of a magnitude is the integer below it. -/
theorem Magnitude.whole_eq (size : Magnitude) : (size.whole : ℤ) = ⌊size.real⌋ := by
  have unit : placeUnit = 1 / twoTo unitExponent := eq_one_div_of_mul_eq_one_right units_of_one
  rw [size.real_eq_units, unit, mul_one_div, Int.floor_div_natCast, Int.floor_natCast]
  rfl

/-- Turning a finite double into an integer leaves its integer part. -/
theorem Double.truncate_eq {double : Double} (finite : double.isFinite = true) :
    double.truncate? = some (integerPart double.real) := by
  match double with
  | .finite false size =>
    rw [truncate?, size.whole_eq, real, integerPart, if_pos size.real_nonneg]
  | .finite true size =>
    rw [truncate?, size.whole_eq, real, integerPart]
    split_ifs with nonnegative
    · have zero : size.real = 0 := le_antisymm (by linarith) size.real_nonneg
      rw [zero, neg_zero, Int.floor_zero, neg_zero]
    · rw [Int.ceil_neg]

/-- A magnitude that counts a number of ones in units denotes the number. -/
theorem Magnitude.real_of_units {size : Magnitude} {number : Nat}
    (counted : size.units = number * twoTo unitExponent) : size.real = number := by
  rw [size.real_eq_units, counted, Nat.cast_mul, mul_assoc, units_of_one, mul_one]

/-- Every integer that needs no more than 53 binary digits is a magnitude, and so is the next one.
-/
theorem Magnitude.exists_whole {number : Nat} (small : number ≤ mantissaBound) :
    ∃ size : Magnitude, size.real = number := by
  rcases Nat.eq_zero_or_pos number with rfl | positive
  · exact ⟨.zero, by rw [zero_real, Nat.cast_zero]⟩
  rcases small.eq_or_lt with rfl | less
  · refine ⟨⟨leadingBit, 1075, by decide⟩, real_of_units ?_⟩
    rw [units, two_to_succ, mul_comm (twoTo _) 2, ← mul_assoc, leading_bit_double, unitExponent]
  · obtain ⟨length, is⟩ : ∃ length, number.log2 = length := ⟨_, rfl⟩
    have low : twoTo length ≤ number := is ▸ Nat.log2_self_le positive.ne'
    have high : number < twoTo (length + 1) := is ▸ Nat.lt_log2_self
    have short : length ≤ 52 := by
      by_contra long
      exact absurd (two_to_le (not_le.mp long)) (not_le.mpr (low.trans_lt less))
    have normal : number * twoTo (52 - length) < mantissaBound ∧
        1022 + length ≤ maximalShift ∧
        (1022 + length = 0 ∨ leadingBit ≤ number * twoTo (52 - length)) := by
      have lower : twoTo length * twoTo (52 - length) = leadingBit := by
        rw [← two_to_add, Nat.add_sub_cancel' short, leading_bit_eq]
      have upper : twoTo (length + 1) * twoTo (52 - length) = mantissaBound := by
        rw [two_to_succ, mul_right_comm, lower, leading_bit_double]
      refine ⟨upper ▸ Nat.mul_lt_mul_of_pos_right high (two_to_pos _), ?_,
        .inr (lower ▸ Nat.mul_le_mul_right _ low)⟩
      unfold maximalShift
      omega
    refine ⟨⟨_, _, normal⟩, real_of_units ?_⟩
    have exponents : 52 - length + (1022 + length) = unitExponent := by
      unfold unitExponent
      omega
    rw [units, mul_assoc, ← two_to_add, exponents]

/-- A double that is nearest to a number is the number if any double is. -/
theorem Double.Nearest.exact {number : ℝ} {double other : Double} (nearest : double.Nearest number)
    (finite : other.isFinite = true) (same : other.real = number) : double.real = number := by
  have distance := nearest.closest other finite
  rw [same, sub_self, abs_zero] at distance
  exact sub_eq_zero.mp (abs_nonpos_iff.mp distance)

end AdRules
