import RetailPricing.Proofs.Amount.Rounding

/-!
# Sums are rounded once

In a sum whose operands lie far apart, the smaller one is replaced by a sliver
before anything is added.  The sliver and the operand leave the sum in the same
gap between two numbers at which rounding changes its mind, so the sum is that
of the operands themselves, rounded once (`map_value_add`).
-/

namespace RetailPricing

/-- A power of ten is an even multiple of `5 * 10 ^ r` for every finer `r`. -/
theorem exists_zpow_eq_two_mul {e r : ℤ} (finer : r < e) :
    ∃ n : ℕ, 0 < n ∧ (10 : ℚ) ^ e = 2 * n * (5 * 10 ^ r) := by
  obtain ⟨places, split⟩ := exists_zpow_eq_pow_mul (Int.add_one_le_of_lt finer)
  refine ⟨10 ^ places, Nat.pow_pos (by norm_num), ?_⟩
  rw [split, zpow_add_one₀ (by norm_num)]
  push_cast
  ring

namespace WorkingPrecision

variable {p : WorkingPrecision}

/-- Two numbers between neighbouring multiples of `5 * 10 ^ r` have a unit of the
same size, unless it is finer than these multiples. -/
theorem unitExponent_le_of_between (someDigit : 0 < p.digits) {a b : ℚ} {r : ℤ} {j : ℕ}
    (aLower : j * (5 * 10 ^ r) < a) (aUpper : a < (j + 1) * (5 * 10 ^ r))
    (bLower : j * (5 * 10 ^ r) < b) (fine : r < p.unitExponent b) :
    p.unitExponent a ≤ p.unitExponent b := by
  have gap : (0 : ℚ) < 5 * 10 ^ r := by positivity
  have aPos : 0 < a := lt_of_le_of_lt (by positivity) aLower
  have bPos : 0 < b := lt_of_le_of_lt (by positivity) bLower
  rw [unitExponent, abs_of_pos aPos]
  refine max_le ?_ (le_max_right _ _)
  set lead := Int.log 10 a with leadEq
  by_cases low : lead ≤ r
  · omega
  · -- The leading power of ten is one of the multiples, so `b` reaches it too.
    obtain ⟨n, _, power⟩ := exists_zpow_eq_two_mul (not_le.1 low)
    have reached : ((2 * n : ℕ) : ℚ) * (5 * 10 ^ r) ≤ a := by
      push_cast
      rw [← power]
      exact_mod_cast Int.zpow_log_le_self (b := 10) (by norm_num) aPos
    have below : 2 * n < j + 1 := by
      exact_mod_cast lt_of_mul_lt_mul_right (reached.trans_lt aUpper) gap.le
    have alsoReached : (10 : ℚ) ^ lead ≤ b :=
      calc (10 : ℚ) ^ lead
          = ((2 * n : ℕ) : ℚ) * (5 * 10 ^ r) := by rw [power, Nat.cast_mul, Nat.cast_two]
        _ ≤ j * (5 * 10 ^ r) :=
          mul_le_mul_of_nonneg_right (Nat.cast_le.2 (Nat.lt_succ_iff.1 below)) gap.le
        _ ≤ b := bLower.le
    have leads : lead ≤ Int.log 10 b := by
      rw [← Int.zpow_le_iff_le_log (by norm_num) bPos, Nat.cast_ofNat]
      exact alsoReached
    rw [unitExponent, abs_of_pos bPos]
    exact le_trans (by omega) (le_max_left _ _)

/-- Two positive numbers between neighbouring multiples of `5 * 10 ^ r` are rounded
alike when their units are coarser than `10 ^ r`. -/
theorem rounded_eq_of_between_nat (someDigit : 0 < p.digits) {a b : ℚ} {r : ℤ} {j : ℕ}
    (aLower : j * (5 * 10 ^ r) < a) (aUpper : a < (j + 1) * (5 * 10 ^ r))
    (bLower : j * (5 * 10 ^ r) < b) (bUpper : b < (j + 1) * (5 * 10 ^ r))
    (aFine : r < p.unitExponent a) (bFine : r < p.unitExponent b) :
    p.rounded a = p.rounded b := by
  have gap : (0 : ℚ) < 5 * 10 ^ r := by positivity
  have sameUnit : p.unitExponent a = p.unitExponent b :=
    le_antisymm (unitExponent_le_of_between someDigit aLower aUpper bLower bFine)
      (unitExponent_le_of_between someDigit bLower bUpper aLower aFine)
  rw [rounded, rounded, sameUnit]
  set unit := p.unitExponent b
  obtain ⟨n, nPos, power⟩ := exists_zpow_eq_two_mul bFine
  have scale : (0 : ℚ) < n := Nat.cast_pos.2 nPos
  -- Half a unit is `n` of the multiples.
  have half (q : ℚ) : 2 * (q / 10 ^ unit) = q / (5 * 10 ^ r) / n := by
    rw [power]
    field_simp
  have lower {q : ℚ} (above : j * (5 * 10 ^ r) < q) :
      ((j / n : ℕ) : ℤ) < 2 * (q / 10 ^ unit) := by
    have whole : ((j / n : ℕ) : ℚ) * n ≤ j := by exact_mod_cast Nat.div_mul_le_self j n
    rw [half, Int.cast_natCast, lt_div_iff₀ scale, lt_div_iff₀ gap]
    exact (mul_le_mul_of_nonneg_right whole gap.le).trans_lt above
  have upper {q : ℚ} (below : q < (j + 1) * (5 * 10 ^ r)) :
      2 * (q / 10 ^ unit) < ((j / n : ℕ) : ℤ) + 1 := by
    have next : j + 1 ≤ (j / n + 1) * n := by
      rw [Nat.add_one_mul]
      exact Nat.lt_div_mul_add nPos
    have whole : (j : ℚ) + 1 ≤ ((j / n : ℕ) + 1) * n := by exact_mod_cast next
    rw [half, Int.cast_natCast, div_lt_iff₀ scale, div_lt_iff₀ gap]
    exact below.trans_le (mul_le_mul_of_nonneg_right whole gap.le)
  rw [nearestWhole_eq_of_between (lower aLower) (upper aUpper) (lower bLower) (upper bUpper)]

/-- The same of numbers of any sign. -/
theorem rounded_eq_of_between (someDigit : 0 < p.digits) {a b : ℚ} {r j : ℤ}
    (aLower : j * (5 * 10 ^ r) < a) (aUpper : a < (j + 1) * (5 * 10 ^ r))
    (bLower : j * (5 * 10 ^ r) < b) (bUpper : b < (j + 1) * (5 * 10 ^ r))
    (aFine : r < p.unitExponent a) (bFine : r < p.unitExponent b) :
    p.rounded a = p.rounded b := by
  have sameUnit (q : ℚ) : p.unitExponent (-q) = p.unitExponent q := by
    rw [← unitExponent_abs, abs_neg, unitExponent_abs]
  cases j with
  | ofNat n => exact rounded_eq_of_between_nat someDigit aLower aUpper bLower bUpper aFine bFine
  | negSucc n =>
      -- Between negative multiples, the mirrored numbers are positive.
      push_cast at aLower aUpper bLower bUpper
      have mirrored : p.rounded (-a) = p.rounded (-b) :=
        rounded_eq_of_between_nat someDigit (j := n) (r := r) (by linarith) (by linarith)
          (by linarith) (by linarith) (sameUnit a ▸ aFine) (sameUnit b ▸ bFine)
      rwa [rounded_neg, rounded_neg, neg_inj] at mirrored

end WorkingPrecision

namespace Amount

variable {p : WorkingPrecision}

/-- What decides nothing but a direction lies below the last digit of the other
operand and far below its leading one. -/
theorem reach_lt (x : Amount) :
    x.reach p < x.exponent ∧ x.reach p < x.leadingExponent - p.digits := by
  rw [reach, leadingExponent]
  split <;> constructor <;> omega

/-- A small change of an amount leaves its unit coarse. -/
theorem reach_lt_unitExponent_add (someDigit : 0 < p.digits) {x : Amount}
    (nonzero : x.coefficient ≠ 0) {change : ℚ} (small : |change| ≤ 10 ^ x.reach p) :
    x.reach p < p.unitExponent (x.value + change) := by
  have far := x.reach_lt (p := p)
  have tenth : (10 : ℚ) ^ (x.leadingExponent - 1) * 10 = 10 ^ x.leadingExponent := by
    rw [← zpow_add_one₀ (by norm_num), sub_add_cancel]
  have positive : (0 : ℚ) < 10 ^ (x.leadingExponent - 1) := zpow_pos (by norm_num) _
  have changeLe : |change| ≤ 10 ^ (x.leadingExponent - 1) :=
    small.trans (zpow_le_zpow_right₀ (by norm_num) (by omega))
  have size : 10 ^ x.leadingExponent ≤ |x.value| := by
    have reached := (lt_leadingExponent_iff nonzero (x.leadingExponent - 1)).1 (by omega)
    rwa [sub_add_cancel] at reached
  have left : 10 ^ (x.leadingExponent - 1) ≤ |x.value + change| := by
    have triangle := abs_sub_abs_le_abs_sub x.value (-change)
    rw [sub_neg_eq_add, abs_neg] at triangle
    linarith
  have lead : x.leadingExponent - 1 ≤ Int.log 10 |x.value + change| := by
    rw [← Int.zpow_le_iff_le_log (by norm_num) (positive.trans_le left), Nat.cast_ofNat]
    exact left
  exact lt_of_lt_of_le (by omega) (le_max_left _ _)

/-- An amount is a whole multiple of `10 ^ (reach + 1)`. -/
theorem exists_value_eq_mul_reach (x : Amount) :
    ∃ j : ℤ, x.value = j * (5 * 10 ^ x.reach p) := by
  have far := (x.reach_lt (p := p)).1
  obtain ⟨n, _, power⟩ := exists_zpow_eq_two_mul far
  refine ⟨x.signedCoefficient * (2 * n), ?_⟩
  rw [value_eq_signedCoefficient_mul, power]
  push_cast
  ring

/-- Changes of one sign within reach are rounded away alike. -/
theorem rounded_add_of_within_reach (someDigit : 0 < p.digits) {x : Amount}
    (nonzero : x.coefficient ≠ 0) {s t : ℚ} (sPos : 0 < s) (sSmall : s ≤ 10 ^ x.reach p)
    (tPos : 0 < t) (tSmall : t ≤ 10 ^ x.reach p) :
    p.rounded (x.value + s) = p.rounded (x.value + t) ∧
      p.rounded (x.value + -s) = p.rounded (x.value + -t) := by
  have gap : (0 : ℚ) < 10 ^ x.reach p := zpow_pos (by norm_num) _
  obtain ⟨j, multiple⟩ := x.exists_value_eq_mul_reach (p := p)
  have fine {change : ℚ} (small : |change| ≤ 10 ^ x.reach p) :=
    reach_lt_unitExponent_add someDigit nonzero small
  have sAbs : |s| ≤ 10 ^ x.reach p := (abs_of_pos sPos).trans_le sSmall
  have tAbs : |t| ≤ 10 ^ x.reach p := (abs_of_pos tPos).trans_le tSmall
  constructor
  · apply WorkingPrecision.rounded_eq_of_between someDigit (r := x.reach p) (j := j)
    · linarith
    · linarith
    · linarith
    · linarith
    · exact fine sAbs
    · exact fine tAbs
  · apply WorkingPrecision.rounded_eq_of_between someDigit (r := x.reach p) (j := j - 1)
    · push_cast
      linarith
    · push_cast
      linarith
    · push_cast
      linarith
    · push_cast
      linarith
    · exact fine (by rwa [abs_neg])
    · exact fine (by rwa [abs_neg])

/-- What an operand is seen as gives the same sum after rounding. -/
theorem rounded_value_add_asSeenFrom (someDigit : 0 < p.digits) (x y : Amount) :
    p.rounded (x.value + (asSeenFrom p x y).value) = p.rounded (x.value + y.value) := by
  rw [asSeenFrom]
  split
  · rfl
  next present =>
      split
      next far =>
          have nonzero : x.coefficient ≠ 0 := by simpa [Amount.isZero] using present
          by_cases isZero : y.coefficient = 0
          · have noValue : y.value = 0 := value_eq_zero_iff.2 isZero
            have noSliver : (⟨y.negative, if y.isZero then 0 else 1, x.reach p⟩ : Amount).value =
                0 := value_eq_zero_iff.2 (by simp [Amount.isZero, isZero])
            rw [noValue, noSliver]
          · have sliver : (⟨y.negative, if y.isZero then 0 else 1, x.reach p⟩ : Amount).value =
                if y.negative then -(10 ^ x.reach p) else 10 ^ x.reach p := by
              simp [value, magnitude, Amount.isZero, isZero]
            have small : y.magnitude ≤ 10 ^ x.reach p :=
              ((magnitude_lt_iff isZero _).2 far).le
            obtain ⟨upward, downward⟩ := rounded_add_of_within_reach someDigit nonzero
              (zpow_pos (by norm_num) _) le_rfl (magnitude_pos isZero) small
            rw [sliver, value.eq_def y]
            split
            · exact downward
            · exact upward
      · rfl

/-- A sum is the exact sum, rounded once. -/
theorem map_value_add (usable : p.Usable) (x y : Amount) :
    (add p x y).map value = p.keep (x.value + y.value) := by
  have keeps {q t : ℚ} (same : p.rounded q = p.rounded t) : p.keep q = p.keep t := by
    rw [WorkingPrecision.keep, same, WorkingPrecision.keep]
  rw [add, map_value_round usable]
  split
  · rw [value_exactSum]
    exact keeps (rounded_value_add_asSeenFrom usable.someDigit x y)
  · split
    · rw [value_exactSum, add_comm, add_comm x.value]
      exact keeps (rounded_value_add_asSeenFrom usable.someDigit y x)
    · rw [value_exactSum]

theorem value_negate (x : Amount) : x.negate.value = -x.value := by
  rw [negate, value, value]
  cases x.negative <;> simp [magnitude]

theorem map_value_sub (usable : p.Usable) (x y : Amount) :
    (sub p x y).map value = p.keep (x.value - y.value) := by
  rw [sub, map_value_add usable, value_negate, sub_eq_add_neg]

end Amount

end RetailPricing
