import Mathlib.Data.Nat.Log
import Mathlib.Data.Rat.Floor
import Mathlib.Tactic.FieldSimp
import Mathlib.Tactic.Ring

/-!
# Binary floating-point formats over exact rationals

A format is a finite set of rationals, given by its precision, its smallest
positive value and its range.  Membership is decidable, and rounding picks the
nearest member, a tie going to the even one.
-/

namespace Lyv.Library

/-- `precision` significant bits, smallest positive value `2 ^ -scale`, magnitudes below `2 ^ bound`. -/
structure FloatFormat where
  precision : Nat
  scale : Nat
  bound : Nat

namespace FloatFormat

def single : FloatFormat := ⟨24, 149, 128⟩

def double : FloatFormat := ⟨53, 1074, 1024⟩

variable (format : FloatFormat)

/-- The value counted in units of the smallest positive member. -/
def scaled (value : ℚ) : ℚ := value * 2 ^ format.scale

/-- The bits of a count that the precision has no room for. -/
def excess (count : Nat) : Nat := Nat.log2 count + 1 - format.precision

def Represents (value : ℚ) : Prop :=
  (format.scaled value).den = 1 ∧
    (format.scaled value).num.natAbs < 2 ^ (format.scale + format.bound) ∧
    2 ^ format.excess (format.scaled value).num.natAbs ∣ (format.scaled value).num.natAbs

instance (value : ℚ) : Decidable (format.Represents value) :=
  inferInstanceAs (Decidable (_ ∧ _ ∧ _))

/-- The nearest natural number to a non-negative value, ties to even. -/
def nearest (value : ℚ) : Nat :=
  let below := ⌊value⌋.toNat
  if value - below < 1 / 2 then below
  else if 1 / 2 < value - below then below + 1
  else if below % 2 = 0 then below else below + 1

/-- The member nearest to the value, wherever the format's range reaches. -/
def round (value : ℚ) : ℚ :=
  let magnitude := |format.scaled value|
  let step : Nat := 2 ^ format.excess ⌊magnitude⌋.toNat
  let count : Nat := nearest (magnitude / step) * step
  (if value < 0 then -(count : ℚ) else count) / 2 ^ format.scale

@[simp] theorem represents_zero : format.Represents 0 := by
  simp [Represents, scaled]

/-- The natural numbers that fit into the precision are members. -/
theorem represents_natCast {count : Nat} (small : count < 2 ^ format.precision)
    (within : format.precision ≤ format.bound) : format.Represents count := by
  have scaled : format.scaled count = (count * 2 ^ format.scale : Nat) := by simp [scaled]
  rw [Represents, scaled, Rat.den_natCast, Rat.num_natCast, Int.natAbs_natCast]
  refine ⟨rfl, ?_, ?_⟩
  · calc count * 2 ^ format.scale < 2 ^ format.precision * 2 ^ format.scale := by gcongr
      _ ≤ 2 ^ format.bound * 2 ^ format.scale := by gcongr; norm_num
      _ = 2 ^ (format.scale + format.bound) := by ring
  · -- the factor `2 ^ scale` covers whatever the precision has no room for
    by_cases zero : count = 0
    · simp [zero]
    · have bits : Nat.log2 (count * 2 ^ format.scale) < format.precision + format.scale := by
        rw [Nat.log2_lt (by positivity), pow_add]
        gcongr
      have excess : format.excess (count * 2 ^ format.scale) ≤ format.scale := by
        unfold FloatFormat.excess
        omega
      exact (pow_dvd_pow 2 excess).trans (dvd_mul_left _ _)

@[simp] theorem nearest_natCast (count : Nat) : nearest (count : ℚ) = count := by
  simp [nearest]

/-- Rounding leaves the members of the format as they are. -/
theorem round_of_represents {value : ℚ} (represents : format.Represents value) :
    format.round value = value := by
  obtain ⟨integral, -, divides⟩ := represents
  set count := (format.scaled value).num.natAbs with count_eq
  have magnitude : |format.scaled value| = count := by
    rw [count_eq, ← Rat.num_div_den (format.scaled value), integral]
    simp [Nat.cast_natAbs]
  -- the step divides a member's count, so the quotient to be rounded is a whole number
  obtain ⟨quotient, factored⟩ := divides
  have exactly : (count : ℚ) / (2 ^ format.excess count : Nat) = (quotient : ℚ) := by
    rw [div_eq_iff (by positivity)]
    exact_mod_cast by rw [mul_comm]; exact factored
  have unscaled : format.scaled value / 2 ^ format.scale = value := by
    simp [scaled]
  simp only [round, magnitude, Int.floor_natCast, Int.toNat_natCast, exactly, nearest_natCast]
  have product : ((quotient * 2 ^ format.excess count : Nat) : ℚ) = |format.scaled value| := by
    rw [magnitude, mul_comm, ← factored]
  rw [product]
  split
  next negative =>
    have scaledNegative : format.scaled value < 0 := mul_neg_of_neg_of_pos negative (by positivity)
    rw [abs_of_neg scaledNegative, neg_neg, unscaled]
  next nonnegative =>
    have scaledNonnegative : 0 ≤ format.scaled value :=
      mul_nonneg (not_lt.mp nonnegative) (by positivity)
    rw [abs_of_nonneg scaledNonnegative, unscaled]

/-! ## Order and error -/

/-- A non-negative value lies between its floor and the next natural number. -/
theorem floor_le_lt {value : ℚ} (nonnegative : 0 ≤ value) :
    (⌊value⌋.toNat : ℚ) ≤ value ∧ value < ⌊value⌋.toNat + 1 := by
  have floor : ((⌊value⌋.toNat : ℤ) : ℚ) = (⌊value⌋ : ℚ) := by
    rw [Int.toNat_of_nonneg (Int.floor_nonneg.mpr nonnegative)]
  rw [Int.cast_natCast] at floor
  rw [floor]
  exact ⟨Int.floor_le value, Int.lt_floor_add_one value⟩

/-- The nearest natural number is at most a half away. -/
theorem abs_nearest_sub_le {value : ℚ} (nonnegative : 0 ≤ value) : |(nearest value : ℚ) - value| ≤ 1 / 2 := by
  obtain ⟨below, above⟩ := floor_le_lt nonnegative
  simp only [nearest]
  split
  next low => exact abs_le.mpr ⟨by linarith, by linarith⟩
  next notLow =>
    split
    next high =>
      push_cast
      exact abs_le.mpr ⟨by linarith, by linarith⟩
    next notHigh =>
      -- a tie, which is a half away from either side
      have tie : value - ⌊value⌋.toNat = 1 / 2 := le_antisymm (not_lt.mp notHigh) (not_lt.mp notLow)
      split
      · exact abs_le.mpr ⟨by linarith, by linarith⟩
      · push_cast
        exact abs_le.mpr ⟨by linarith, by linarith⟩

theorem nearest_bounds (value : ℚ) : ⌊value⌋.toNat ≤ nearest value ∧ nearest value ≤ ⌊value⌋.toNat + 1 := by
  simp only [nearest]
  repeat' split
  all_goals omega

theorem nearest_mono {value other : ℚ} (le : value ≤ other) : nearest value ≤ nearest other := by
  have floors : ⌊value⌋.toNat ≤ ⌊other⌋.toNat := Int.toNat_le_toNat (Int.floor_mono le)
  obtain less | same := Nat.lt_or_eq_of_le floors
  · have upper := (nearest_bounds value).2
    have lower := (nearest_bounds other).1
    omega
  · -- within one interval the two are decided by the same half
    simp only [nearest, ← same]
    obtain low | tie | high := lt_trichotomy (value - ⌊value⌋.toNat) (1 / 2)
    · rw [if_pos low]
      repeat' split
      all_goals omega
    · have notLow : ¬ other - ⌊value⌋.toNat < 1 / 2 := fun low => by linarith
      rw [if_neg tie.not_lt, if_neg tie.symm.not_lt, if_neg notLow]
      repeat' split
      all_goals omega
    · have high' : 1 / 2 < other - ⌊value⌋.toNat := by linarith
      rw [if_neg high.not_gt, if_pos high, if_neg high'.not_gt, if_pos high']

/-- The magnitude of a rounded value, in units of the smallest positive member. -/
def roundCount (magnitude : ℚ) : Nat :=
  nearest (magnitude / (2 ^ format.excess ⌊magnitude⌋.toNat : Nat)) * 2 ^ format.excess ⌊magnitude⌋.toNat

theorem round_eq (value : ℚ) : format.round value =
    (if value < 0 then -(format.roundCount |format.scaled value| : ℚ) else format.roundCount |format.scaled value|) /
      2 ^ format.scale := rfl

/-- A count is a multiple of every power of two up to its own size, when it is one of two itself. -/
theorem nearest_pow_div_mul {exponent power : Nat} (le : exponent ≤ power) :
    nearest ((2 ^ power : Nat) / (2 ^ exponent : Nat) : ℚ) * 2 ^ exponent = 2 ^ power := by
  have quotient : ((2 ^ power : Nat) / (2 ^ exponent : Nat) : ℚ) = (2 ^ (power - exponent) : Nat) := by
    push_cast
    rw [div_eq_iff (by positivity), ← pow_add, Nat.sub_add_cancel le]
  rw [quotient, nearest_natCast, ← pow_add, Nat.sub_add_cancel le]

variable {format} in
theorem roundCount_mono (bits : 0 < format.precision) {value other : ℚ} (nonnegative : 0 ≤ value)
    (le : value ≤ other) : format.roundCount value ≤ format.roundCount other := by
  have floors : ⌊value⌋.toNat ≤ ⌊other⌋.toNat := Int.toNat_le_toNat (Int.floor_mono le)
  have logarithms : Nat.log2 ⌊value⌋.toNat ≤ Nat.log2 ⌊other⌋.toNat := by
    rw [Nat.log2_eq_log_two, Nat.log2_eq_log_two]
    exact Nat.log_mono_right floors
  simp only [roundCount]
  obtain less | same := Nat.lt_or_eq_of_le
    (show format.excess ⌊value⌋.toNat ≤ format.excess ⌊other⌋.toNat by unfold excess; omega)
  · -- the power of two at which the larger step begins lies between the two
    obtain ⟨power, power_eq⟩ : ∃ power, power = Nat.log2 ⌊other⌋.toNat := ⟨_, rfl⟩
    have large : format.excess ⌊other⌋.toNat ≤ power := by unfold excess; omega
    have smaller : Nat.log2 ⌊value⌋.toNat < power := by unfold excess at less; omega
    have positive : ⌊other⌋.toNat ≠ 0 := by
      intro zero
      simp [zero] at power_eq
      omega
    have above : (2 ^ power : Nat) ≤ other := by
      have reached : 2 ^ power ≤ ⌊other⌋.toNat := power_eq ▸ Nat.log2_self_le positive
      calc ((2 ^ power : Nat) : ℚ) ≤ (⌊other⌋.toNat : ℚ) := by exact_mod_cast reached
        _ ≤ other := (floor_le_lt (nonnegative.trans le)).1
    have below : value ≤ (2 ^ power : Nat) := by
      have short : ⌊value⌋.toNat < 2 ^ power := by
        by_cases zero : ⌊value⌋.toNat = 0
        · rw [zero]
          positivity
        · exact (Nat.log2_lt zero).mp smaller
      calc value ≤ (⌊value⌋.toNat : ℚ) + 1 := (floor_le_lt nonnegative).2.le
        _ ≤ (2 ^ power : Nat) := by exact_mod_cast short
    calc nearest (value / (2 ^ format.excess ⌊value⌋.toNat : Nat)) * 2 ^ format.excess ⌊value⌋.toNat
        ≤ nearest ((2 ^ power : Nat) / (2 ^ format.excess ⌊value⌋.toNat : Nat) : ℚ) *
            2 ^ format.excess ⌊value⌋.toNat :=
          Nat.mul_le_mul_right _ (nearest_mono (by gcongr))
      _ = 2 ^ power := nearest_pow_div_mul (less.le.trans large)
      _ = nearest ((2 ^ power : Nat) / (2 ^ format.excess ⌊other⌋.toNat : Nat) : ℚ) *
            2 ^ format.excess ⌊other⌋.toNat := (nearest_pow_div_mul large).symm
      _ ≤ nearest (other / (2 ^ format.excess ⌊other⌋.toNat : Nat)) * 2 ^ format.excess ⌊other⌋.toNat :=
          Nat.mul_le_mul_right _ (nearest_mono (by gcongr))
  · rw [← same]
    exact Nat.mul_le_mul_right _ (nearest_mono (by gcongr))

/-- Rounding keeps the order. -/
theorem round_mono (bits : 0 < format.precision) {value other : ℚ} (le : value ≤ other) :
    format.round value ≤ format.round other := by
  have scaledLe : format.scaled value ≤ format.scaled other := by
    unfold scaled
    gcongr
  have negative : ∀ {value : ℚ}, value < 0 → format.scaled value < 0 :=
    fun negative => mul_neg_of_neg_of_pos negative (by positivity)
  have nonnegative : ∀ {value : ℚ}, ¬ value < 0 → 0 ≤ format.scaled value :=
    fun nonnegative => mul_nonneg (not_lt.mp nonnegative) (by positivity)
  simp only [round_eq]
  refine div_le_div_of_nonneg_right ?_ (by positivity)
  split
  next below =>
    split
    next below' =>
      have counts : format.roundCount |format.scaled other| ≤ format.roundCount |format.scaled value| := by
        refine roundCount_mono bits (abs_nonneg _) ?_
        rw [abs_of_neg (negative below), abs_of_neg (negative below')]
        exact neg_le_neg scaledLe
      exact neg_le_neg (by exact_mod_cast counts)
    next =>
      have first : (0 : ℚ) ≤ format.roundCount |format.scaled value| := Nat.cast_nonneg _
      have second : (0 : ℚ) ≤ format.roundCount |format.scaled other| := Nat.cast_nonneg _
      linarith
  next above =>
    rw [if_neg fun below => above (lt_of_le_of_lt le below)]
    have counts : format.roundCount |format.scaled value| ≤ format.roundCount |format.scaled other| := by
      refine roundCount_mono bits (abs_nonneg _) ?_
      rw [abs_of_nonneg (nonnegative above), abs_of_nonneg ((nonnegative above).trans scaledLe)]
      exact scaledLe
    exact_mod_cast counts

end FloatFormat

end Lyv.Library
