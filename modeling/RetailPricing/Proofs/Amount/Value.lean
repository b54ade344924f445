import Mathlib.Data.Int.Log
import Mathlib.Data.Rat.Floor
import Mathlib.Data.Sign.Basic
import Mathlib.Tactic.Ring
import RetailPricing.Amount.Arithmetic

/-!
# The value of an amount

An amount stands for a rational number.  Its leading exponent is the logarithm
of its magnitude, and its order is the order of the values:

* `leadingExponent_eq_log` ties the count of digits to the magnitude;
* `order_eq_compare_value` says that no comparison of amounts ever rounds.

The second one holds for coefficients and exponents of any size, although the
comparison itself looks at leading exponents first.
-/

namespace RetailPricing

theorem countDigitsWithin_eq_log {fuel n : Nat} (enough : n ≤ fuel) :
    countDigitsWithin fuel n = Nat.log 10 n + 1 := by
  induction fuel generalizing n with
  | zero =>
      have isZero : n = 0 := Nat.le_zero.1 enough
      simp [countDigitsWithin, isZero]
  | succ fuel ih =>
      by_cases oneDigit : n < 10
      · rw [countDigitsWithin, if_pos oneDigit, Nat.log_of_lt oneDigit]
      · have shorter : n / 10 ≤ fuel := by omega
        rw [countDigitsWithin, if_neg oneDigit, ih shorter,
          Nat.log_of_one_lt_of_le (by norm_num) (Nat.le_of_not_lt oneDigit)]

theorem digitCount_eq_log (n : Nat) : digitCount n = Nat.log 10 n + 1 :=
  countDigitsWithin_eq_log (Nat.le_refl n)

namespace Amount

/-- The value without its sign. -/
def magnitude (x : Amount) : ℚ :=
  x.coefficient * (10 : ℚ) ^ x.exponent

/-- The rational number that an amount stands for. -/
def value (x : Amount) : ℚ :=
  if x.negative then -x.magnitude else x.magnitude

theorem magnitude_nonneg (x : Amount) : 0 ≤ x.magnitude :=
  mul_nonneg (Nat.cast_nonneg _) (zpow_nonneg (by norm_num) _)

theorem magnitude_eq_zero_iff {x : Amount} :
    x.magnitude = 0 ↔ x.coefficient = 0 := by
  have scale : (10 : ℚ) ^ x.exponent ≠ 0 := zpow_ne_zero _ (by norm_num)
  rw [magnitude, mul_eq_zero, or_iff_left scale, Nat.cast_eq_zero]

theorem magnitude_pos {x : Amount} (nonzero : x.coefficient ≠ 0) :
    0 < x.magnitude :=
  lt_of_le_of_ne x.magnitude_nonneg <| by
    rw [ne_comm, Ne, magnitude_eq_zero_iff]
    exact nonzero

theorem abs_value (x : Amount) : |x.value| = x.magnitude := by
  rw [value]
  split
  · rw [abs_neg, abs_of_nonneg x.magnitude_nonneg]
  · exact abs_of_nonneg x.magnitude_nonneg

theorem value_eq_zero_iff {x : Amount} : x.value = 0 ↔ x.coefficient = 0 := by
  rw [← abs_eq_zero, abs_value, magnitude_eq_zero_iff]

@[simp]
theorem value_zero : Amount.zero.value = 0 :=
  value_eq_zero_iff.2 rfl

@[simp]
theorem value_ofInt (n : Int) : (ofInt n).value = n := by
  rw [value, magnitude, ofInt, zpow_zero, mul_one, Nat.cast_natAbs]
  rcases lt_or_ge n 0 with negative | nonneg
  · rw [if_pos (decide_eq_true negative), abs_of_neg negative, Int.cast_neg, neg_neg]
  · rw [if_neg (by simpa using nonneg), abs_of_nonneg nonneg]

@[simp]
theorem magnitude_zero : Amount.zero.magnitude = 0 :=
  magnitude_eq_zero_iff.2 rfl

theorem isNegative_iff {x : Amount} : x.isNegative = true ↔ x.value < 0 := by
  by_cases nonzero : x.coefficient = 0
  · have isZero : x.value = 0 := value_eq_zero_iff.2 nonzero
    simp [isNegative, Amount.isZero, nonzero, isZero]
  · have positive : 0 < x.magnitude := magnitude_pos nonzero
    cases sign : x.negative with
    | true => simp [isNegative, Amount.isZero, nonzero, value, sign, positive]
    | false =>
        simp [isNegative, value, sign, x.magnitude_nonneg]

theorem leadingExponent_eq_log {x : Amount} (nonzero : x.coefficient ≠ 0) :
    x.leadingExponent = Int.log 10 x.magnitude := by
  have positive : (0 : ℚ) < x.coefficient :=
    Nat.cast_pos.2 (Nat.pos_of_ne_zero nonzero)
  have digits : x.leadingExponent = (Nat.log 10 x.coefficient : Int) + x.exponent := by
    rw [leadingExponent, digitCount_eq_log]
    push_cast
    ring
  have scale : (0 : ℚ) < (10 : ℚ) ^ x.exponent := zpow_pos (by norm_num) _
  have lower : (10 : ℚ) ^ (Nat.log 10 x.coefficient : Int) ≤ x.coefficient := by
    rw [zpow_natCast]
    exact_mod_cast Nat.pow_log_le_self 10 nonzero
  have upper : (x.coefficient : ℚ) < (10 : ℚ) ^ ((Nat.log 10 x.coefficient : Int) + 1) := by
    rw [← Nat.cast_succ, zpow_natCast]
    exact_mod_cast Nat.lt_pow_succ_log_self (by norm_num) x.coefficient
  have magnitudePos : 0 < x.magnitude := mul_pos positive scale
  rw [digits]
  apply le_antisymm
  · rw [← Int.zpow_le_iff_le_log (by norm_num) magnitudePos]
    calc ((10 : Nat) : ℚ) ^ ((Nat.log 10 x.coefficient : Int) + x.exponent)
        = (10 : ℚ) ^ (Nat.log 10 x.coefficient : Int) * (10 : ℚ) ^ x.exponent := by
          rw [Nat.cast_ofNat, zpow_add₀ (by norm_num)]
      _ ≤ x.coefficient * (10 : ℚ) ^ x.exponent := by gcongr
  · rw [← Int.lt_add_one_iff, ← Int.lt_zpow_iff_log_lt (by norm_num) magnitudePos]
    calc x.coefficient * (10 : ℚ) ^ x.exponent
        < (10 : ℚ) ^ ((Nat.log 10 x.coefficient : Int) + 1) * (10 : ℚ) ^ x.exponent := by
          gcongr
      _ = ((10 : Nat) : ℚ) ^ ((Nat.log 10 x.coefficient : Int) + x.exponent + 1) := by
          rw [Nat.cast_ofNat, ← zpow_add₀ (by norm_num)]
          congr 1
          ring

theorem magnitude_lt_iff {x : Amount} (nonzero : x.coefficient ≠ 0) (e : Int) :
    x.magnitude < (10 : ℚ) ^ e ↔ x.leadingExponent < e := by
  rw [leadingExponent_eq_log nonzero,
    ← Int.lt_zpow_iff_log_lt (by norm_num) (magnitude_pos nonzero), Nat.cast_ofNat]

/-- The coefficient that an amount has over a finer exponent. -/
theorem coefficientAt_mul_zpow {x : Amount} {e : Int} (finer : e ≤ x.exponent) :
    (x.coefficientAt e : ℚ) * (10 : ℚ) ^ e = x.magnitude := by
  have distance : ((x.exponent - e).toNat : Int) = x.exponent - e :=
    Int.toNat_of_nonneg (by omega)
  rw [coefficientAt_eq, magnitude, Nat.pow_eq]
  push_cast
  rw [mul_assoc, ← zpow_natCast, distance, ← zpow_add₀ (by norm_num), sub_add_cancel]

private theorem compare_eq_of_lt_iff {α β : Type} [LinearOrder α] [LinearOrder β]
    {a b : α} {c d : β} (less : a < b ↔ c < d) (greater : b < a ↔ d < c) :
    compare a b = compare c d := by
  rcases lt_trichotomy a b with lower | same | higher
  · rw [compare_lt_iff_lt.2 lower, compare_lt_iff_lt.2 (less.1 lower)]
  · subst same
    have notLess : ¬ c < d := fun lt => lt_irrefl a (less.2 lt)
    have notGreater : ¬ d < c := fun gt => lt_irrefl a (greater.2 gt)
    rw [compare_eq_iff_eq.2 rfl, compare_eq_iff_eq.2 (le_antisymm
      (le_of_not_gt notGreater) (le_of_not_gt notLess))]
  · rw [compare_gt_iff_gt.2 higher, compare_gt_iff_gt.2 (greater.1 higher)]

theorem compareMagnitude_eq_compare {x y : Amount}
    (left : x.coefficient ≠ 0) (right : y.coefficient ≠ 0) :
    x.compareMagnitude y = compare x.magnitude y.magnitude := by
  have xPos := magnitude_pos left
  have yPos := magnitude_pos right
  rw [compareMagnitude, leadingExponent_eq_log left, leadingExponent_eq_log right]
  split
  next sameLead =>
      -- Equal leading exponents leave the decision to the digits.
      set finer := min x.exponent y.exponent with finerEq
      have scale : (0 : ℚ) < (10 : ℚ) ^ finer := zpow_pos (by norm_num) _
      rw [← coefficientAt_mul_zpow (min_le_left x.exponent y.exponent),
        ← coefficientAt_mul_zpow (min_le_right x.exponent y.exponent), ← finerEq]
      apply compare_eq_of_lt_iff <;>
        rw [mul_lt_mul_iff_of_pos_right scale, Nat.cast_lt]
  next different =>
      rcases lt_trichotomy (Int.log 10 x.magnitude) (Int.log 10 y.magnitude) with
        lower | same | higher
      · rw [compare_lt_iff_lt.2 lower, eq_comm, compare_lt_iff_lt]
        exact lt_of_not_ge fun ge =>
          absurd (Int.log_mono_right yPos ge) (not_le.2 lower)
      · exact absurd (compare_eq_iff_eq.2 same) different
      · rw [compare_gt_iff_gt.2 higher, eq_comm, compare_gt_iff_gt]
        exact lt_of_not_ge fun ge =>
          absurd (Int.log_mono_right xPos ge) (not_le.2 higher)

theorem sign_eq_zero_iff {x : Amount} : x.sign = 0 ↔ x.coefficient = 0 := by
  by_cases nonzero : x.coefficient = 0
  · simp [sign, nonzero]
  · cases negative : x.negative <;> simp [sign, nonzero, negative]

theorem sign_eq_sign_value (x : Amount) :
    x.sign = (SignType.sign x.value : Int) := by
  by_cases nonzero : x.coefficient = 0
  · have isZero : x.value = 0 := value_eq_zero_iff.2 nonzero
    simp [sign, nonzero, isZero]
  · have positive : 0 < x.magnitude := magnitude_pos nonzero
    cases negative : x.negative with
    | true =>
        have below : x.value < 0 := by simp [value, negative, positive]
        simp [sign, nonzero, negative, sign_neg below]
    | false =>
        have above : 0 < x.value := by simp [value, negative, positive]
        simp [sign, nonzero, negative, sign_pos above]

theorem value_lt_of_sign_lt {x y : Amount} (lower : x.sign < y.sign) :
    x.value < y.value := by
  refine lt_of_not_ge fun ge => absurd ?_ (not_le.2 lower)
  have monotone : SignType.sign y.value ≤ SignType.sign x.value :=
    SignType.sign.monotone ge
  have castMonotone : ∀ s t : SignType, s ≤ t → (s : Int) ≤ (t : Int) := by decide
  rw [sign_eq_sign_value, sign_eq_sign_value]
  exact castMonotone _ _ monotone

/-- Comparing two amounts compares their values, exactly. -/
theorem order_eq_compare_value (x y : Amount) :
    x.order y = compare x.value y.value := by
  rw [order]
  split
  next sameSign =>
      have same : x.sign = y.sign := compare_eq_iff_eq.1 sameSign
      by_cases isZero : x.sign = 0
      · have xZero : x.value = 0 := value_eq_zero_iff.2 (sign_eq_zero_iff.1 isZero)
        have yZero : y.value = 0 :=
          value_eq_zero_iff.2 (sign_eq_zero_iff.1 (same ▸ isZero))
        rw [if_pos isZero, xZero, yZero, compare_eq_iff_eq.2 rfl]
      · have left : x.coefficient ≠ 0 := fun zero =>
          isZero (sign_eq_zero_iff.2 zero)
        have right : y.coefficient ≠ 0 := fun zero =>
          isZero (same.trans (sign_eq_zero_iff.2 zero))
        have sameNegative : x.negative = y.negative := by
          cases xSign : x.negative <;> cases ySign : y.negative <;>
            simp_all [sign]
        rw [if_neg isZero, compareMagnitude_eq_compare left right,
          compareMagnitude_eq_compare right left, value, value, ← sameNegative]
        cases x.negative with
        | true => exact compare_eq_of_lt_iff neg_lt_neg_iff.symm neg_lt_neg_iff.symm
        | false => rfl
  next different =>
      rcases lt_trichotomy x.sign y.sign with lower | same | higher
      · rw [compare_lt_iff_lt.2 lower, compare_lt_iff_lt.2 (value_lt_of_sign_lt lower)]
      · exact absurd (compare_eq_iff_eq.2 same) different
      · rw [compare_gt_iff_gt.2 higher, compare_gt_iff_gt.2 (value_lt_of_sign_lt higher)]

end Amount

end RetailPricing
