import Mathlib.Data.Nat.Cast.Field
import Mathlib.Data.Nat.Cast.Order.Field
import RetailPricing.Proofs.Amount.Value

/-!
# How far arithmetic goes

Arithmetic on amounts ends with an amount or with the overflow signal and with
nothing else.  It rounds once, and rounding takes an amount below a power of
ten to one below the next power at most.  So a bound on the operands bounds the
result, and far enough below the greatest exponent there is one:
`exists_add_eq_ok`, `exists_mul_eq_ok` and `exists_hundredth_eq_ok` say so of
the single operations.
-/

namespace RetailPricing

/-- The precision keeps some digit, and `10 ^ e` lies between its limits. -/
structure WorkingPrecision.Holds (p : WorkingPrecision) (e : Int) : Prop where
  someDigit : 0 < p.digits
  finest_lt : p.finestExponent < e
  le_greatest : e ≤ p.greatestExponent

namespace Amount

variable {p : WorkingPrecision}

theorem round_error {x : Amount} {s : Signal} (stopped : x.round p = .error s) :
    s = .overflow := by
  rw [round] at stopped
  split at stopped
  · cases stopped
  · split at stopped
    · exact (Except.error.inj stopped).symm
    · dsimp only at stopped
      split at stopped
      · cases stopped
      · split at stopped
        · exact (Except.error.inj stopped).symm
        · cases stopped

theorem dropDigits_le (coefficient dropped : Nat) :
    dropDigits coefficient dropped ≤ coefficient / 10 ^ dropped + 1 := by
  rw [dropDigits]
  split
  · exact Nat.zero_le _
  · exact halfEvenQuotient_le_div_succ _ _

/-- Leaving out digits adds no more than a unit of the last one kept. -/
theorem magnitude_dropDigits_le {x : Amount} {kept : Int} (coarser : x.exponent ≤ kept) :
    (dropDigits x.coefficient (kept - x.exponent).toNat : ℚ) * 10 ^ kept ≤
      x.magnitude + 10 ^ kept := by
  set dropped := (kept - x.exponent).toNat with droppedEq
  have distance : (dropped : Int) = kept - x.exponent :=
    Int.toNat_of_nonneg (by omega)
  have scale : (0 : ℚ) < 10 ^ kept := zpow_pos (by norm_num) _
  have quotient : ((x.coefficient / 10 ^ dropped : Nat) : ℚ) ≤
      x.coefficient / (10 : ℚ) ^ dropped := by
    exact_mod_cast Nat.cast_div_le (α := ℚ) (m := x.coefficient) (n := 10 ^ dropped)
  have shifted : x.magnitude = x.coefficient / (10 : ℚ) ^ dropped * 10 ^ kept := by
    rw [magnitude, ← zpow_natCast, distance, div_mul_eq_mul_div, mul_div_assoc,
      ← zpow_sub₀ (by norm_num), sub_sub_cancel]
  have atMost : (dropDigits x.coefficient dropped : ℚ) ≤
      x.coefficient / (10 : ℚ) ^ dropped + 1 :=
    calc (dropDigits x.coefficient dropped : ℚ)
        ≤ (x.coefficient / 10 ^ dropped + 1 : Nat) :=
          Nat.cast_le.2 (dropDigits_le x.coefficient dropped)
      _ ≤ x.coefficient / (10 : ℚ) ^ dropped + 1 := by
          push_cast
          exact add_le_add_left quotient 1
  calc (dropDigits x.coefficient dropped : ℚ) * 10 ^ kept
      ≤ (x.coefficient / (10 : ℚ) ^ dropped + 1) * 10 ^ kept :=
        mul_le_mul_of_nonneg_right atMost scale.le
    _ = x.magnitude + 10 ^ kept := by rw [shifted, add_mul, one_mul]

theorem magnitude_trimCarry_le (x : Amount) : (x.trimCarry p).magnitude ≤ x.magnitude := by
  rw [trimCarry]
  split
  · have quotient : ((x.coefficient / 10 : Nat) : ℚ) ≤ x.coefficient / (10 : ℚ) := by
      exact_mod_cast Nat.cast_div_le (α := ℚ) (m := x.coefficient) (n := 10)
    calc ((x.coefficient / 10 : Nat) : ℚ) * 10 ^ (x.exponent + 1)
        ≤ x.coefficient / (10 : ℚ) * 10 ^ (x.exponent + 1) :=
          mul_le_mul_of_nonneg_right quotient (zpow_nonneg (by norm_num) _)
      _ = x.magnitude := by
          rw [magnitude, zpow_add_one₀ (by norm_num)]
          ring
  · exact le_rfl

theorem exponent_trimCarry_le (x : Amount) : (x.trimCarry p).exponent ≤ x.exponent + 1 := by
  rw [trimCarry]
  split
  · exact le_rfl
  · exact (Int.lt_succ x.exponent).le

/-- The leading exponent of a zero is its exponent, which no magnitude bounds. -/
theorem leadingExponent_le {x : Amount} {e : Int} (exponent_le : x.exponent ≤ e)
    (small : x.magnitude < 10 ^ (e + 1)) : x.leadingExponent ≤ e := by
  by_cases isZero : x.coefficient = 0
  · rw [leadingExponent, isZero]
    change x.exponent + 1 - 1 ≤ e
    omega
  · exact Int.lt_add_one_iff.1 ((magnitude_lt_iff isZero _).1 small)

/-- An amount below a power of ten within the limits is rounded to one below
the next power. -/
theorem exists_round_eq_ok {x : Amount} {e : Int} (holds : p.Holds e)
    (small : x.magnitude < 10 ^ e) :
    ∃ y, x.round p = .ok y ∧ y.magnitude < 10 ^ (e + 1) := by
  obtain ⟨someDigit, finest_lt, le_greatest⟩ := holds
  have scale : (0 : ℚ) < 10 ^ e := zpow_pos (by norm_num) _
  have nextPower : (10 : ℚ) ^ (e + 1) = 10 * 10 ^ e := by
    rw [zpow_add_one₀ (by norm_num), mul_comm]
  rw [round]
  by_cases isZero : x.coefficient = 0
  · rw [if_pos (by simp [Amount.isZero, isZero])]
    refine ⟨_, rfl, lt_of_eq_of_lt (magnitude_eq_zero_iff.2 isZero) ?_⟩
    exact zpow_pos (by norm_num) _
  · have lead : x.leadingExponent < e := (magnitude_lt_iff isZero e).1 small
    rw [if_neg (by simp [Amount.isZero, isZero]), if_neg (by omega)]
    dsimp only
    split
    · refine ⟨x, rfl, small.trans ?_⟩
      rw [nextPower]
      linarith
    next coarser =>
        set kept := x.keptExponent p with keptEq
        set rounded := trimCarry p
          ⟨x.negative, dropDigits x.coefficient (kept - x.exponent).toNat, kept⟩
        -- At most one unit of the last place is added, and that place is below `e`.
        have kept_lt : kept < e := by
          rw [keptEq, keptExponent]
          rw [leadingExponent] at lead
          omega
        have unit : (10 : ℚ) ^ kept ≤ 10 ^ e :=
          zpow_le_zpow_right₀ (by norm_num) kept_lt.le
        have below : rounded.magnitude < 10 ^ (e + 1) :=
          calc rounded.magnitude
              ≤ (dropDigits x.coefficient (kept - x.exponent).toNat : ℚ) * 10 ^ kept :=
                magnitude_trimCarry_le _
            _ ≤ x.magnitude + 10 ^ kept := magnitude_dropDigits_le (by omega)
            _ < 10 * 10 ^ e := by linarith
            _ = 10 ^ (e + 1) := nextPower.symm
        have exponent_le : rounded.exponent ≤ e :=
          (exponent_trimCarry_le _).trans kept_lt
        have fits : ¬ p.greatestExponent < rounded.leadingExponent :=
          not_lt.2 ((leadingExponent_le exponent_le below).trans le_greatest)
        exact ⟨rounded, if_neg fits, below⟩

/-- An amount with the sign and the digits of a whole number. -/
theorem value_of_total (total e : Int) (zeroSign : Bool) :
    (⟨if total = 0 then zeroSign else total < 0, total.natAbs, e⟩ : Amount).value =
      total * 10 ^ e := by
  rw [value, magnitude]
  rcases lt_trichotomy total 0 with below | isZero | above
  · have size : ((total.natAbs : Nat) : ℚ) = -total := by
      rw [Nat.cast_natAbs, abs_of_neg below, Int.cast_neg]
    simp only [if_neg below.ne, below, decide_true, ↓reduceIte, size, neg_mul, neg_neg]
  · subst isZero
    simp
  · have size : ((total.natAbs : Nat) : ℚ) = total := by
      rw [Nat.cast_natAbs, abs_of_pos above]
    simp only [if_neg above.ne', not_lt.2 above.le, decide_false, Bool.false_eq_true,
      ↓reduceIte, size]

/-- The digits of an amount over a finer exponent, with their sign. -/
theorem signed_coefficientAt_mul_zpow {x : Amount} {e : Int} (finer : e ≤ x.exponent) :
    ((if x.negative then -(x.coefficientAt e : Int) else x.coefficientAt e : Int) : ℚ) *
      10 ^ e = x.value := by
  rw [value, ← coefficientAt_mul_zpow finer]
  cases x.negative with
  | true =>
      simp only [↓reduceIte, Int.cast_neg, Int.cast_natCast, neg_mul]
  | false =>
      simp only [Bool.false_eq_true, ↓reduceIte, Int.cast_natCast]

/-- Sums are exact before they are rounded. -/
theorem value_exactSum (x y : Amount) : (exactSum x y).value = x.value + y.value := by
  rw [exactSum, value_of_total, Int.cast_add, add_mul,
    signed_coefficientAt_mul_zpow (min_le_left x.exponent y.exponent),
    signed_coefficientAt_mul_zpow (min_le_right x.exponent y.exponent)]

theorem magnitude_exactSum_le (x y : Amount) :
    (exactSum x y).magnitude ≤ x.magnitude + y.magnitude := by
  rw [← abs_value, ← abs_value, ← abs_value, value_exactSum]
  exact abs_add_le x.value y.value

theorem zpow_exponent_le_magnitude {x : Amount} (nonzero : x.coefficient ≠ 0) :
    (10 : ℚ) ^ x.exponent ≤ x.magnitude := by
  have atLeastOne : (1 : ℚ) ≤ x.coefficient := Nat.one_le_cast.2 (Nat.pos_of_ne_zero nonzero)
  exact le_mul_of_one_le_left (zpow_nonneg (by norm_num) _) atLeastOne

theorem reach_le_exponent (x : Amount) : x.reach p ≤ x.exponent := by
  rw [reach]
  split <;> omega

/-- The sliver that stands for a small operand is no greater than the other
operand. -/
theorem magnitude_asSeenFrom_le (x y : Amount) :
    (asSeenFrom p x y).magnitude ≤ max x.magnitude y.magnitude := by
  rw [asSeenFrom]
  split
  · exact le_max_right _ _
  next nonzero =>
      split
      · by_cases isZero : y.isZero
        · rw [if_pos isZero]
          refine (magnitude_eq_zero_iff.2 ?_).trans_le (le_max_of_le_left x.magnitude_nonneg)
          rfl
        · rw [if_neg isZero]
          have present : x.coefficient ≠ 0 := by
            simpa [Amount.isZero] using nonzero
          calc ((1 : Nat) : ℚ) * 10 ^ x.reach p
              = 10 ^ x.reach p := by rw [Nat.cast_one, one_mul]
            _ ≤ 10 ^ x.exponent := zpow_le_zpow_right₀ (by norm_num) x.reach_le_exponent
            _ ≤ x.magnitude := zpow_exponent_le_magnitude present
            _ ≤ max x.magnitude y.magnitude := le_max_left _ _
      · exact le_max_right _ _

theorem add_error {x y : Amount} {s : Signal} (stopped : add p x y = .error s) :
    s = .overflow :=
  round_error stopped

theorem mul_error {x y : Amount} {s : Signal} (stopped : mul p x y = .error s) :
    s = .overflow :=
  round_error stopped

theorem hundredth_error {x : Amount} {s : Signal} (stopped : hundredth p x = .error s) :
    s = .overflow :=
  round_error stopped

theorem mul_eq_round (x y : Amount) :
    ∃ unrounded : Amount, mul p x y = unrounded.round p ∧
      unrounded.value = x.value * y.value := by
  refine ⟨_, rfl, ?_⟩
  have product : ((x.coefficient * y.coefficient : Nat) : ℚ) * 10 ^ (x.exponent + y.exponent) =
      x.magnitude * y.magnitude := by
    rw [magnitude, magnitude, zpow_add₀ (by norm_num)]
    push_cast
    ring
  rw [value, magnitude, product, value, value]
  cases x.negative <;> cases y.negative <;> simp

theorem hundredth_eq_round (x : Amount) :
    ∃ unrounded : Amount, hundredth p x = unrounded.round p ∧
      unrounded.value = x.value / 100 := by
  have shifted (k : Nat) (divides : x.coefficient % 10 ^ k = 0) :
      ((x.coefficient / 10 ^ k : Nat) : ℚ) * 10 ^ (x.exponent - (2 - k)) =
        x.magnitude / 100 := by
    have whole : 10 ^ k ∣ x.coefficient := Nat.dvd_of_mod_eq_zero divides
    rw [Nat.cast_div whole (by positivity), magnitude, zpow_sub₀ (by norm_num),
      zpow_sub₀ (by norm_num)]
    push_cast
    rw [zpow_natCast]
    field_simp
  have signed (shrunk : Amount) (sameSign : shrunk.negative = x.negative)
      (size : shrunk.magnitude = x.magnitude / 100) : shrunk.value = x.value / 100 := by
    rw [value, value, sameSign, size, neg_div']
    split <;> ring
  rw [hundredth]
  split
  next divides => exact ⟨_, rfl, signed _ rfl (by simpa [magnitude] using shifted 2 divides)⟩
  · split
    next divides => exact ⟨_, rfl, signed _ rfl (by simpa [magnitude] using shifted 1 divides)⟩
    · exact ⟨_, rfl, signed _ rfl (by simpa [magnitude] using shifted 0 (Nat.mod_one _))⟩

theorem exists_add_eq_ok {x y : Amount} {e : Int} (holds : p.Holds (e + 1))
    (left : x.magnitude < 10 ^ e) (right : y.magnitude < 10 ^ e) :
    ∃ z, add p x y = .ok z := by
  have nextPower : (10 : ℚ) ^ (e + 1) = 10 * 10 ^ e := by
    rw [zpow_add_one₀ (by norm_num), mul_comm]
  have scale : (0 : ℚ) < 10 ^ e := zpow_pos (by norm_num) _
  have small {w z : Amount} (wSmall : w.magnitude < 10 ^ e) (zSmall : z.magnitude < 10 ^ e) :
      (exactSum w z).magnitude < 10 ^ (e + 1) := by
    have := magnitude_exactSum_le w z
    rw [nextPower]
    linarith
  have seen {w z : Amount} (wSmall : w.magnitude < 10 ^ e) (zSmall : z.magnitude < 10 ^ e) :
      (asSeenFrom p w z).magnitude < 10 ^ e :=
    (magnitude_asSeenFrom_le w z).trans_lt (max_lt wSmall zSmall)
  rw [add]
  split
  · obtain ⟨z, rounded, _⟩ := exists_round_eq_ok holds (small left (seen left right))
    exact ⟨z, rounded⟩
  · split
    · obtain ⟨z, rounded, _⟩ := exists_round_eq_ok holds (small (seen right left) right)
      exact ⟨z, rounded⟩
    · obtain ⟨z, rounded, _⟩ := exists_round_eq_ok holds (small left right)
      exact ⟨z, rounded⟩

theorem exists_mul_eq_ok {x y : Amount} {e : Int} (holds : p.Holds e)
    (small : x.magnitude * y.magnitude < 10 ^ e) :
    ∃ z, mul p x y = .ok z ∧ z.magnitude < 10 ^ (e + 1) := by
  obtain ⟨unrounded, rounded, valued⟩ := mul_eq_round (p := p) x y
  rw [rounded]
  apply exists_round_eq_ok holds
  rwa [← abs_value, valued, abs_mul, abs_value, abs_value]

theorem exists_hundredth_eq_ok {x : Amount} {e : Int} (holds : p.Holds (e - 1))
    (small : x.magnitude < 10 ^ (e + 1)) :
    ∃ z, hundredth p x = .ok z ∧ z.magnitude < 10 ^ e := by
  obtain ⟨unrounded, rounded, valued⟩ := hundredth_eq_round (p := p) x
  have hundredfold : (10 : ℚ) ^ (e + 1) = 10 ^ (e - 1) * 100 := by
    rw [zpow_add_one₀ (by norm_num), zpow_sub_one₀ (by norm_num)]
    ring
  have below : unrounded.magnitude < 10 ^ (e - 1) := by
    rw [← abs_value, valued, abs_div, abs_value, abs_of_pos (by norm_num),
      div_lt_iff₀ (by norm_num), ← hundredfold]
    exact small
  obtain ⟨z, kept, zSmall⟩ := exists_round_eq_ok holds below
  rw [sub_add_cancel] at zSmall
  exact ⟨z, rounded.trans kept, zSmall⟩

end Amount

end RetailPricing
