import RetailPricing.Proofs.Amount.Rounding

/-!
# Rounding keeps the order

A larger number is never rounded to a smaller one (`rounded_mono`).  Numbers of
one unit are rounded to its multiples, and there the nearest whole number keeps
the order.  Where the unit changes, a power of ten lies between the two numbers,
and rounding passes it on neither side.

So whatever is computed by rounded steps keeps the order of its operands, also
below the smallest normal number, as long as nothing overflows (`keep_mono`).
-/

namespace RetailPricing

theorem floor_le_nearestWhole (q : ℚ) : ⌊q⌋ ≤ nearestWhole q :=
  le_nearestWhole (Int.floor_le q)

theorem nearestWhole_le_floor_add_one (q : ℚ) : nearestWhole q ≤ ⌊q⌋ + 1 := by
  rw [nearestWhole]
  split
  · omega
  · split <;> omega

theorem nearestWhole_mono {q r : ℚ} (le : q ≤ r) : nearestWhole q ≤ nearestWhole r := by
  rcases (Int.floor_mono le).eq_or_lt with sameFloor | lower
  · -- Over one whole number, the part behind the point decides.
    by_cases below : q < ⌊q⌋ + 1 / 2
    · rw [nearestWhole_of_below_half (Int.floor_le q) below]
      exact le_nearestWhole ((Int.floor_le q).trans le)
    · rcases le.eq_or_lt with rfl | less
      · rfl
      · have beyond : nearestWhole r = ⌊r⌋ + 1 := by
          refine nearestWhole_of_above_half ?_ (Int.lt_floor_add_one r)
          rw [← sameFloor]
          linarith
        rw [beyond, ← sameFloor]
        exact nearestWhole_le_floor_add_one q
  · calc nearestWhole q
        ≤ ⌊q⌋ + 1 := nearestWhole_le_floor_add_one q
      _ ≤ ⌊r⌋ := lower
      _ ≤ nearestWhole r := floor_le_nearestWhole r

namespace WorkingPrecision

variable {p : WorkingPrecision}

theorem unitExponent_mono {q r : ℚ} (positive : 0 < q) (le : q ≤ r) :
    p.unitExponent q ≤ p.unitExponent r := by
  have lead : Int.log 10 q ≤ Int.log 10 r := Int.log_mono_right positive le
  rw [unitExponent, unitExponent, abs_of_pos positive, abs_of_pos (positive.trans_le le)]
  omega

/-- Rounding does not rise above a power of ten. -/
theorem rounded_le_zpow {q : ℚ} {e : ℤ} (coarser : p.unitExponent q ≤ e)
    (small : q ≤ 10 ^ e) : p.rounded q ≤ 10 ^ e := by
  have scale : (0 : ℚ) < 10 ^ p.unitExponent q := zpow_pos (by norm_num) _
  obtain ⟨places, split⟩ := exists_zpow_eq_pow_mul coarser
  have atMost : nearestWhole (q / 10 ^ p.unitExponent q) ≤ 10 ^ places := by
    have whole : q / 10 ^ p.unitExponent q ≤ ((10 ^ places : ℤ) : ℚ) := by
      rw [div_le_iff₀ scale]
      push_cast
      rwa [← split]
    exact (nearestWhole_mono whole).trans_eq (nearestWhole_intCast _)
  have castAtMost : (nearestWhole (q / 10 ^ p.unitExponent q) : ℚ) ≤ 10 ^ places := by
    exact_mod_cast atMost
  rw [split, rounded]
  exact mul_le_mul_of_nonneg_right castAtMost scale.le

/-- Where the unit grows, a power of ten lies between the two numbers. -/
theorem exists_zpow_between (someDigit : 0 < p.digits) {q r : ℚ} (positive : 0 < q)
    (le : q ≤ r) (grows : p.unitExponent q < p.unitExponent r) :
    ∃ e : ℤ, p.unitExponent r ≤ e ∧ q ≤ 10 ^ e ∧ 10 ^ e ≤ r := by
  have rPositive : 0 < r := positive.trans_le le
  rw [unitExponent, unitExponent, abs_of_pos positive, abs_of_pos rPositive] at grows
  have higher : Int.log 10 q < Int.log 10 r := by omega
  refine ⟨Int.log 10 r, ?_, ?_, ?_⟩
  · rw [unitExponent, abs_of_pos rPositive]
    omega
  · refine (((Int.lt_zpow_iff_log_lt (b := 10) (by norm_num) positive).2 higher).le).trans_eq ?_
    rw [Nat.cast_ofNat]
  · exact_mod_cast Int.zpow_log_le_self (b := 10) (by norm_num) rPositive

theorem rounded_mono_of_nonneg (someDigit : 0 < p.digits) {q r : ℚ} (nonneg : 0 ≤ q)
    (le : q ≤ r) : p.rounded q ≤ p.rounded r := by
  rcases nonneg.eq_or_lt with isZero | positive
  · rw [← isZero, rounded_zero]
    exact rounded_nonneg (nonneg.trans le)
  rcases (unitExponent_mono (p := p) positive le).eq_or_lt with sameUnit | grows
  · have scale : (0 : ℚ) < 10 ^ p.unitExponent r := zpow_pos (by norm_num) _
    have scaled : q / 10 ^ p.unitExponent r ≤ r / 10 ^ p.unitExponent r :=
      div_le_div_of_nonneg_right le scale.le
    rw [rounded, rounded, sameUnit]
    exact mul_le_mul_of_nonneg_right (Int.cast_le.2 (nearestWhole_mono scaled)) scale.le
  · obtain ⟨e, coarser, below, above⟩ := exists_zpow_between someDigit positive le grows
    calc p.rounded q
        ≤ 10 ^ e := rounded_le_zpow (grows.le.trans coarser) below
      _ ≤ p.rounded r := zpow_le_rounded coarser above

/-- A larger number is not rounded to a smaller one. -/
theorem rounded_mono (someDigit : 0 < p.digits) {q r : ℚ} (le : q ≤ r) :
    p.rounded q ≤ p.rounded r := by
  rcases le_total 0 q with qNonneg | qNonpos
  · exact rounded_mono_of_nonneg someDigit qNonneg le
  have mirrored (t : ℚ) : p.rounded t = -p.rounded (-t) := by rw [rounded_neg, neg_neg]
  rcases le_total 0 r with rNonneg | rNonpos
  · calc p.rounded q
        = -p.rounded (-q) := mirrored q
      _ ≤ 0 := neg_nonpos.2 (rounded_nonneg (neg_nonneg.2 qNonpos))
      _ ≤ p.rounded r := rounded_nonneg rNonneg
  · rw [mirrored q, mirrored r]
    exact neg_le_neg
      (rounded_mono_of_nonneg someDigit (neg_nonneg.2 rNonpos) (neg_le_neg le))

theorem eq_rounded_of_keep {q kept : ℚ} (ok : p.keep q = .ok kept) : kept = p.rounded q := by
  rw [keep] at ok
  split at ok
  · cases ok
  · exact (Except.ok.inj ok).symm

/-- What is kept of a larger number is not smaller. -/
theorem keep_mono (someDigit : 0 < p.digits) {q r keptQ keptR : ℚ} (le : q ≤ r)
    (first : p.keep q = .ok keptQ) (second : p.keep r = .ok keptR) : keptQ ≤ keptR := by
  rw [eq_rounded_of_keep first, eq_rounded_of_keep second]
  exact rounded_mono someDigit le

end WorkingPrecision

end RetailPricing
