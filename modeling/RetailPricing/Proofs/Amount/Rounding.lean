import Mathlib.Algebra.Order.Field.Power
import RetailPricing.Proofs.Amount.Arithmetic

/-!
# Rounding, told of rational numbers

Rounding keeps a number of digits.  The last one of them stands for a power of
ten, the unit, and rounding goes to the nearest whole multiple of it
(`rounded`); what is too large then has no place (`keep`).  Amounts are rounded
in this way (`map_value_round`), and so are products and hundredths, once each.

What can be represented within the precision is not changed by rounding
(`keep_of_represents`).
-/

namespace RetailPricing

/-- The whole number nearest to `q`; a half goes to the even neighbour. -/
def nearestWhole (q : ℚ) : ℤ :=
  if q - ⌊q⌋ < 1 / 2 then ⌊q⌋
  else if 1 / 2 < q - ⌊q⌋ then ⌊q⌋ + 1
  else ⌊q⌋ + ⌊q⌋ % 2

theorem nearestWhole_of_below_half {q : ℚ} {n : ℤ} (lower : (n : ℚ) ≤ q)
    (upper : q < n + 1 / 2) : nearestWhole q = n := by
  have floor : ⌊q⌋ = n := Int.floor_eq_iff.2 ⟨lower, by linarith⟩
  rw [nearestWhole, floor, if_pos (by linarith)]

theorem nearestWhole_of_above_half {q : ℚ} {n : ℤ} (lower : (n : ℚ) + 1 / 2 < q)
    (upper : q < n + 1) : nearestWhole q = n + 1 := by
  have floor : ⌊q⌋ = n := Int.floor_eq_iff.2 ⟨by linarith, upper⟩
  rw [nearestWhole, floor, if_neg (by linarith), if_pos (by linarith)]

theorem nearestWhole_add_half (n : ℤ) : nearestWhole (n + 1 / 2) = n + n % 2 := by
  have floor : ⌊(n : ℚ) + 1 / 2⌋ = n := Int.floor_eq_iff.2 ⟨by linarith, by linarith⟩
  rw [nearestWhole, floor, if_neg (by linarith), if_neg (by linarith)]

@[simp]
theorem nearestWhole_intCast (n : ℤ) : nearestWhole n = n :=
  nearestWhole_of_below_half le_rfl (by linarith)

/-- Every number is whole, lies on either side of a half, or is one. -/
theorem exists_whole_or_half (q : ℚ) : ∃ n : ℤ,
    q = n ∨ (n < q ∧ q < n + 1 / 2) ∨ q = n + 1 / 2 ∨ (n + 1 / 2 < q ∧ q < n + 1) := by
  have lower := Int.floor_le q
  have upper := Int.lt_floor_add_one q
  refine ⟨⌊q⌋, ?_⟩
  rcases lower.eq_or_lt with whole | above
  · exact .inl whole.symm
  · rcases lt_trichotomy q (⌊q⌋ + 1 / 2) with below | half | beyond
    · exact .inr (.inl ⟨above, below⟩)
    · exact .inr (.inr (.inl half))
    · exact .inr (.inr (.inr ⟨beyond, upper⟩))

theorem nearestWhole_neg (q : ℚ) : nearestWhole (-q) = -nearestWhole q := by
  obtain ⟨n, rfl | ⟨lower, upper⟩ | rfl | ⟨lower, upper⟩⟩ := exists_whole_or_half q
  · rw [← Int.cast_neg, nearestWhole_intCast, nearestWhole_intCast]
  · have mirrored : nearestWhole (-q) = -n - 1 + 1 :=
      nearestWhole_of_above_half (by push_cast; linarith) (by push_cast; linarith)
    rw [mirrored, nearestWhole_of_below_half lower.le upper]
    ring
  · have mirrored : -((n : ℚ) + 1 / 2) = (-n - 1 : ℤ) + 1 / 2 := by
      push_cast
      ring
    rw [mirrored, nearestWhole_add_half, nearestWhole_add_half]
    omega
  · have mirrored : nearestWhole (-q) = -n - 1 :=
      nearestWhole_of_below_half (by push_cast; linarith) (by push_cast; linarith)
    rw [mirrored, nearestWhole_of_above_half lower upper]
    ring

theorem le_nearestWhole {n : ℤ} {q : ℚ} (le : (n : ℚ) ≤ q) : n ≤ nearestWhole q := by
  have floor : n ≤ ⌊q⌋ := Int.le_floor.2 le
  rw [nearestWhole]
  split
  · exact floor
  · split <;> omega

/-- Between two neighbouring halves, rounding goes one way. -/
theorem nearestWhole_eq_of_between {m : ℤ} {s t : ℚ} (sLower : (m : ℚ) < 2 * s)
    (sUpper : 2 * s < m + 1) (tLower : (m : ℚ) < 2 * t) (tUpper : 2 * t < m + 1) :
    nearestWhole s = nearestWhole t := by
  rcases Int.even_or_odd' m with ⟨n, rfl | rfl⟩
  · push_cast at sLower sUpper tLower tUpper
    rw [nearestWhole_of_below_half (n := n) (by linarith) (by linarith),
      nearestWhole_of_below_half (n := n) (by linarith) (by linarith)]
  · push_cast at sLower sUpper tLower tUpper
    rw [nearestWhole_of_above_half (n := n) (by linarith) (by linarith),
      nearestWhole_of_above_half (n := n) (by linarith) (by linarith)]

theorem halfEvenQuotient_eq_nearestWhole (n : Nat) {d : Nat} (positive : 0 < d) :
    (halfEvenQuotient n d : ℤ) = nearestWhole ((n : ℚ) / d) := by
  have scale : (0 : ℚ) < d := Nat.cast_pos.2 positive
  have parts : (n : ℚ) = d * (n / d : Nat) + (n % d : Nat) := by
    exact_mod_cast (Nat.div_add_mod n d).symm
  have shape : (n : ℚ) / d = ((n / d : Nat) : ℤ) + ((n % d : Nat) : ℚ) / d := by
    rw [Int.cast_natCast]
    field_simp
    exact parts
  have fraction : ((n % d : Nat) : ℚ) / d < 1 :=
    (div_lt_one scale).2 (Nat.cast_lt.2 (Nat.mod_lt n positive))
  have nonneg : 0 ≤ ((n % d : Nat) : ℚ) / d := by positivity
  rw [shape, halfEvenQuotient]
  rcases lt_trichotomy (2 * (n % d)) d with below | half | beyond
  · have small : ((n % d : Nat) : ℚ) / d < 1 / 2 := by
      rw [div_lt_div_iff₀ scale two_pos, one_mul, mul_comm]
      exact_mod_cast below
    rw [if_pos below, nearestWhole_of_below_half (n := (n / d : Nat)) (by linarith)
      (by linarith)]
  · have equal : ((n % d : Nat) : ℚ) / d = 1 / 2 := by
      rw [div_eq_div_iff scale.ne' two_ne_zero, one_mul, mul_comm]
      exact_mod_cast half
    rw [if_neg half.not_lt, if_neg half.not_gt, equal, nearestWhole_add_half]
    push_cast
    rfl
  · have large : 1 / 2 < ((n % d : Nat) : ℚ) / d := by
      rw [div_lt_div_iff₀ two_pos scale, one_mul, mul_comm]
      exact_mod_cast beyond
    rw [if_neg beyond.not_gt, if_pos beyond,
      nearestWhole_of_above_half (n := (n / d : Nat)) (by linarith) (by linarith)]
    push_cast
    rfl

/-! ## The nearest number that can be kept -/

/-- A power of ten is a whole multiple of every finer one. -/
theorem exists_zpow_eq_pow_mul {e finer : ℤ} (le : finer ≤ e) :
    ∃ places : ℕ, (10 : ℚ) ^ e = 10 ^ places * 10 ^ finer := by
  obtain ⟨places, distance⟩ := Int.eq_ofNat_of_zero_le (sub_nonneg.2 le)
  have split : e = places + finer := by omega
  exact ⟨places, by rw [split, zpow_add₀ (by norm_num), zpow_natCast]⟩

namespace WorkingPrecision

/-- The precision keeps some digit, and its limits leave room for it. -/
structure Usable (p : WorkingPrecision) : Prop where
  someDigit : 0 < p.digits
  finest_le : p.finestExponent ≤ p.greatestExponent

theorem usable_money : money.Usable :=
  ⟨by decide, by decide⟩

/-- The exponent of the last digit that is kept of a number of this size. -/
def unitExponent (p : WorkingPrecision) (q : ℚ) : ℤ :=
  max (Int.log 10 |q| + 1 - p.digits) p.finestExponent

/-- The nearest whole multiple of the unit. -/
def rounded (p : WorkingPrecision) (q : ℚ) : ℚ :=
  nearestWhole (q / 10 ^ p.unitExponent q) * 10 ^ p.unitExponent q

/-- The number as it is kept, unless it is too large. -/
def keep (p : WorkingPrecision) (q : ℚ) : Except Signal ℚ :=
  if 10 ^ (p.greatestExponent + 1) ≤ |p.rounded q| then .error .overflow
  else .ok (p.rounded q)

/-- The number has a place within the precision: it is a whole multiple of a
power of ten that is not too fine, with no more digits than are kept, and not
too large. -/
def Represents (p : WorkingPrecision) (q : ℚ) : Prop :=
  ∃ c e : ℤ, q = c * 10 ^ e ∧ |c| < 10 ^ p.digits ∧ p.finestExponent ≤ e ∧
    |q| < 10 ^ (p.greatestExponent + 1)

variable {p : WorkingPrecision}

/-- Whole multiples of the unit are left alone. -/
theorem rounded_of_multiple {q : ℚ} {c e : ℤ} (multiple : q = c * 10 ^ e)
    (coarser : p.unitExponent q ≤ e) : p.rounded q = q := by
  obtain ⟨places, split⟩ := exists_zpow_eq_pow_mul coarser
  have whole : q / 10 ^ p.unitExponent q = ((c * 10 ^ places : ℤ) : ℚ) := by
    rw [div_eq_iff (zpow_ne_zero _ (by norm_num))]
    calc q
        = c * 10 ^ e := multiple
      _ = c * (10 ^ places * 10 ^ p.unitExponent q) := by rw [split]
      _ = ((c * 10 ^ places : ℤ) : ℚ) * 10 ^ p.unitExponent q := by
        push_cast
        ring
  rw [rounded, whole, nearestWhole_intCast, ← whole,
    div_mul_cancel₀ _ (zpow_ne_zero _ (by norm_num))]

theorem unitExponent_abs (q : ℚ) : p.unitExponent |q| = p.unitExponent q := by
  rw [unitExponent, abs_abs, unitExponent]

theorem rounded_neg (q : ℚ) : p.rounded (-q) = -p.rounded q := by
  have sameUnit : p.unitExponent (-q) = p.unitExponent q := by
    rw [unitExponent, abs_neg, unitExponent]
  rw [rounded, sameUnit, neg_div, nearestWhole_neg, Int.cast_neg, neg_mul, rounded]

theorem rounded_nonneg {q : ℚ} (nonneg : 0 ≤ q) : 0 ≤ p.rounded q := by
  have scale : (0 : ℚ) < 10 ^ p.unitExponent q := zpow_pos (by norm_num) _
  have atLeast : 0 ≤ nearestWhole (q / 10 ^ p.unitExponent q) :=
    le_nearestWhole (by rw [Int.cast_zero]; positivity)
  exact mul_nonneg (Int.cast_nonneg atLeast) scale.le

theorem abs_rounded (q : ℚ) : |p.rounded q| = p.rounded |q| := by
  rcases le_total 0 q with nonneg | nonpos
  · rw [abs_of_nonneg nonneg, abs_of_nonneg (rounded_nonneg nonneg)]
  · have mirrored : p.rounded q = -p.rounded |q| := by
      rw [abs_of_nonpos nonpos, rounded_neg, neg_neg]
    rw [mirrored, abs_neg, abs_of_nonneg (rounded_nonneg (abs_nonneg q))]

/-- Rounding does not fall below a power of ten. -/
theorem zpow_le_rounded {q : ℚ} {e : ℤ} (coarser : p.unitExponent q ≤ e)
    (large : 10 ^ e ≤ q) : 10 ^ e ≤ p.rounded q := by
  have scale : (0 : ℚ) < 10 ^ p.unitExponent q := zpow_pos (by norm_num) _
  obtain ⟨places, split⟩ := exists_zpow_eq_pow_mul coarser
  have atLeast : (10 ^ places : ℤ) ≤ nearestWhole (q / 10 ^ p.unitExponent q) := by
    refine le_nearestWhole ((le_div_iff₀ scale).2 ?_)
    push_cast
    rwa [← split]
  have castAtLeast : (10 : ℚ) ^ places ≤ nearestWhole (q / 10 ^ p.unitExponent q) := by
    exact_mod_cast atLeast
  rw [split, rounded]
  exact mul_le_mul_of_nonneg_right castAtLeast scale.le

@[simp]
theorem rounded_zero : p.rounded 0 = 0 := by
  have whole : nearestWhole 0 = 0 := nearestWhole_intCast 0
  rw [rounded, zero_div, whole, Int.cast_zero, zero_mul]

theorem keep_of_rounded_eq {q : ℚ} (unchanged : p.rounded q = q)
    (small : |q| < 10 ^ (p.greatestExponent + 1)) : p.keep q = .ok q := by
  rw [keep, unchanged, if_neg (not_le.2 small)]

theorem keep_of_represents {q : ℚ} (represents : p.Represents q) : p.keep q = .ok q := by
  obtain ⟨c, e, multiple, digits, finest, small⟩ := represents
  refine keep_of_rounded_eq ?_ small
  by_cases isZero : q = 0
  · rw [isZero, rounded_zero]
  · have scale : (0 : ℚ) < 10 ^ e := zpow_pos (by norm_num) e
    have digitsCast : |(c : ℚ)| < 10 ^ p.digits := by exact_mod_cast digits
    have below : |q| < 10 ^ ((p.digits : ℤ) + e) := by
      rw [multiple, abs_mul, abs_of_pos scale, zpow_add₀ (by norm_num), zpow_natCast]
      exact mul_lt_mul_of_pos_right digitsCast scale
    have size : Int.log 10 |q| < p.digits + e := by
      rw [← Int.lt_zpow_iff_log_lt (by norm_num) (abs_pos.2 isZero), Nat.cast_ofNat]
      exact below
    exact rounded_of_multiple multiple (max_le (by omega) finest)

end WorkingPrecision

namespace Amount

variable {p : WorkingPrecision}

/-! ## Rounding amounts -/

theorem unitExponent_value {x : Amount} (nonzero : x.coefficient ≠ 0) :
    p.unitExponent x.value = x.keptExponent p := by
  have lead := leadingExponent_eq_log nonzero
  rw [WorkingPrecision.unitExponent, abs_value, ← lead, keptExponent, leadingExponent]
  congr 1
  omega

/-- Digits are dropped as the nearest whole number is found. -/
theorem dropDigits_eq_nearestWhole (coefficient dropped : Nat) :
    (dropDigits coefficient dropped : ℤ) =
      nearestWhole ((coefficient : ℚ) / 10 ^ dropped) := by
  rw [dropDigits]
  split
  next short =>
      have fewer : coefficient < 10 ^ digitCount coefficient := by
        rw [digitCount_eq_log]
        exact Nat.lt_pow_succ_log_self (by norm_num) coefficient
      have tenfold : 10 * 10 ^ digitCount coefficient ≤ 10 ^ dropped := by
        rw [← pow_succ']
        exact Nat.pow_le_pow_right (by norm_num) short
      have scale : (0 : ℚ) < 10 ^ dropped := by positivity
      have tiny : (coefficient : ℚ) / 10 ^ dropped < 1 / 2 := by
        rw [div_lt_div_iff₀ scale two_pos, one_mul]
        exact_mod_cast (show coefficient * 2 < 10 ^ dropped by omega)
      exact (nearestWhole_of_below_half (by push_cast; positivity) (by push_cast; linarith)).symm
  next =>
      have quotient := halfEvenQuotient_eq_nearestWhole coefficient
        (Nat.pow_pos (n := dropped) (by norm_num : 0 < 10))
      push_cast at quotient
      exact quotient

/-- The amount without the digits that are too fine, before a carry is trimmed. -/
def shortened (p : WorkingPrecision) (x : Amount) : Amount :=
  ⟨x.negative, dropDigits x.coefficient (x.keptExponent p - x.exponent).toNat,
    x.keptExponent p⟩

/-- Dropping digits goes to the nearest multiple of the unit. -/
theorem value_shortened {x : Amount} (nonzero : x.coefficient ≠ 0)
    (coarser : x.exponent < x.keptExponent p) :
    (x.shortened p).value = p.rounded x.value := by
  rw [shortened]
  set kept := x.keptExponent p with keptEq
  have unit := unitExponent_value (p := p) nonzero
  rw [← keptEq] at unit
  have distance : (((kept - x.exponent).toNat : Nat) : ℤ) = kept - x.exponent :=
    Int.toNat_of_nonneg (by omega)
  have scaled : x.magnitude / 10 ^ kept =
      (x.coefficient : ℚ) / 10 ^ (kept - x.exponent).toNat := by
    rw [magnitude, ← zpow_natCast, distance, zpow_sub₀ (by norm_num), div_div_eq_mul_div]
  have dropped : p.rounded x.magnitude =
      (dropDigits x.coefficient (kept - x.exponent).toNat : ℚ) * 10 ^ kept := by
    have sameUnit : p.unitExponent x.magnitude = kept := by
      rw [← abs_value, WorkingPrecision.unitExponent_abs, unit]
    rw [WorkingPrecision.rounded, sameUnit, scaled, ← dropDigits_eq_nearestWhole,
      Int.cast_natCast]
  rw [value, value, magnitude]
  split
  · rw [WorkingPrecision.rounded_neg, dropped]
  · exact dropped.symm

/-- Dropping digits leaves no more than are kept, but for a carry. -/
theorem coefficient_shortened_le (x : Amount) : (x.shortened p).coefficient ≤ 10 ^ p.digits := by
  rw [shortened]
  set dropped := (x.keptExponent p - x.exponent).toNat with droppedEq
  have enough : digitCount x.coefficient ≤ p.digits + dropped := by
    rw [keptExponent] at droppedEq
    omega
  have fewer : x.coefficient < 10 ^ p.digits * 10 ^ dropped :=
    calc x.coefficient
        < 10 ^ digitCount x.coefficient := by
          rw [digitCount_eq_log]
          exact Nat.lt_pow_succ_log_self (by norm_num) x.coefficient
      _ ≤ 10 ^ (p.digits + dropped) := Nat.pow_le_pow_right (by norm_num) enough
      _ = 10 ^ p.digits * 10 ^ dropped := pow_add 10 p.digits dropped
  exact (dropDigits_le x.coefficient dropped).trans
    (Nat.div_lt_of_lt_mul (by rwa [mul_comm] at fewer))

/-- A carry leaves the value. -/
theorem value_trimCarry {x : Amount} (someDigit : 0 < p.digits)
    (bounded : x.coefficient ≤ 10 ^ p.digits) : (x.trimCarry p).value = x.value := by
  rw [trimCarry]
  split
  next carried =>
      have nonzero : x.coefficient ≠ 0 := by
        intro isZero
        rw [isZero] at carried
        exact absurd carried (not_lt.2 someDigit)
      have full : 10 ^ p.digits ≤ x.coefficient := by
        rw [digitCount_eq_log] at carried
        exact Nat.pow_le_of_le_log nonzero (by omega)
      have tenfold : 10 ∣ x.coefficient := by
        rw [le_antisymm bounded full]
        exact dvd_pow_self 10 someDigit.ne'
      have sameMagnitude : ((x.coefficient / 10 : Nat) : ℚ) * 10 ^ (x.exponent + 1) =
          x.magnitude := by
        rw [Nat.cast_div tenfold (by norm_num), magnitude, zpow_add_one₀ (by norm_num)]
        push_cast
        ring
      rw [value, value, magnitude, sameMagnitude]
  next => rfl

theorem trimCarry_of_zero {x : Amount} (someDigit : 0 < p.digits)
    (isZero : x.coefficient = 0) : x.trimCarry p = x := by
  rw [trimCarry, isZero, if_neg (not_lt.2 someDigit)]

theorem value_eq_signedCoefficient_mul (x : Amount) :
    x.value = x.signedCoefficient * 10 ^ x.exponent := by
  rw [value, signedCoefficient, magnitude]
  split
  · push_cast
    ring
  · push_cast
    rfl

/-- Unless it is a zero, an amount is too large when its leading digit is. -/
theorem lt_leadingExponent_iff {x : Amount} (nonzero : x.coefficient ≠ 0) (e : ℤ) :
    e < x.leadingExponent ↔ (10 : ℚ) ^ (e + 1) ≤ |x.value| := by
  rw [abs_value, ← not_lt, magnitude_lt_iff nonzero]
  omega

/-- An amount is too large to be kept when its rounded value is. -/
theorem keep_value_of_lt_leadingExponent (usable : p.Usable) {x : Amount}
    (nonzero : x.coefficient ≠ 0) (tooLarge : p.greatestExponent < x.leadingExponent) :
    p.keep x.value = .error .overflow := by
  have someDigit := usable.someDigit
  have finest_le := usable.finest_le
  have coarser : p.unitExponent |x.value| ≤ x.leadingExponent := by
    rw [WorkingPrecision.unitExponent_abs, unitExponent_value nonzero, keptExponent]
    rw [leadingExponent] at tooLarge ⊢
    omega
  have large : 10 ^ x.leadingExponent ≤ |x.value| := by
    have reached := (lt_leadingExponent_iff nonzero (x.leadingExponent - 1)).1 (by omega)
    rwa [sub_add_cancel] at reached
  have beyond : (10 : ℚ) ^ (p.greatestExponent + 1) ≤ |p.rounded x.value| :=
    calc (10 : ℚ) ^ (p.greatestExponent + 1)
        ≤ 10 ^ x.leadingExponent := zpow_le_zpow_right₀ (by norm_num) tooLarge
      _ ≤ p.rounded |x.value| := WorkingPrecision.zpow_le_rounded coarser large
      _ = |p.rounded x.value| := (WorkingPrecision.abs_rounded x.value).symm
  rw [WorkingPrecision.keep, if_pos beyond]

theorem value_trimCarry_shortened (someDigit : 0 < p.digits) {x : Amount}
    (nonzero : x.coefficient ≠ 0) (coarser : x.exponent < x.keptExponent p) :
    ((x.shortened p).trimCarry p).value = p.rounded x.value :=
  (value_trimCarry someDigit x.coefficient_shortened_le).trans (value_shortened nonzero coarser)

/-- What is left without the fine digits is too large when the rounded value is. -/
theorem lt_leadingExponent_trimCarry_shortened_iff (usable : p.Usable) {x : Amount}
    (nonzero : x.coefficient ≠ 0) (coarser : x.exponent < x.keptExponent p)
    (inRange : ¬ p.greatestExponent < x.leadingExponent) :
    p.greatestExponent < ((x.shortened p).trimCarry p).leadingExponent ↔
      10 ^ (p.greatestExponent + 1) ≤ |p.rounded x.value| := by
  have someDigit := usable.someDigit
  have finest_le := usable.finest_le
  have sameValue := value_trimCarry_shortened someDigit nonzero coarser
  by_cases vanished : (x.shortened p).coefficient = 0
  · -- What is rounded to nothing keeps its exponent, which is in range.
    have noValue : p.rounded x.value = 0 := by
      rw [← value_shortened nonzero coarser, value_eq_zero_iff]
      exact vanished
    have lead : (x.shortened p).leadingExponent = x.keptExponent p := by
      rw [leadingExponent, vanished]
      exact add_sub_cancel_right _ _
    have limit : (0 : ℚ) < 10 ^ (p.greatestExponent + 1) := zpow_pos (by norm_num) _
    rw [trimCarry_of_zero someDigit vanished, lead, noValue, abs_zero]
    rw [leadingExponent] at inRange
    rw [keptExponent]
    constructor
    · intro beyond
      omega
    · intro reached
      exact absurd reached (not_le.2 limit)
  · have stillNonzero : ((x.shortened p).trimCarry p).coefficient ≠ 0 := by
      rw [Ne, ← value_eq_zero_iff, value_trimCarry someDigit x.coefficient_shortened_le,
        value_eq_zero_iff]
      exact vanished
    rw [lt_leadingExponent_iff stillNonzero, sameValue]

/-- Amounts are rounded as their values are. -/
theorem map_value_round (usable : p.Usable) (x : Amount) :
    (x.round p).map value = p.keep x.value := by
  rw [round]
  by_cases isZero : x.coefficient = 0
  · have noValue : x.value = 0 := value_eq_zero_iff.2 isZero
    have small : |(0 : ℚ)| < 10 ^ (p.greatestExponent + 1) := by
      rw [abs_zero]
      positivity
    rw [if_pos (by simp [Amount.isZero, isZero]), noValue,
      WorkingPrecision.keep_of_rounded_eq WorkingPrecision.rounded_zero small]
    exact congrArg Except.ok (value_eq_zero_iff.2 isZero)
  rw [if_neg (by simp [Amount.isZero, isZero])]
  by_cases tooLarge : p.greatestExponent < x.leadingExponent
  · rw [if_pos tooLarge, keep_value_of_lt_leadingExponent usable isZero tooLarge]
    rfl
  rw [if_neg tooLarge]
  dsimp only
  by_cases fine : x.keptExponent p ≤ x.exponent
  · have unchanged : p.rounded x.value = x.value :=
      WorkingPrecision.rounded_of_multiple x.value_eq_signedCoefficient_mul
        ((unitExponent_value isZero).trans_le fine)
    have small : |x.value| < 10 ^ (p.greatestExponent + 1) :=
      not_le.1 fun large => tooLarge ((lt_leadingExponent_iff isZero _).2 large)
    rw [if_pos fine, WorkingPrecision.keep_of_rounded_eq unchanged small]
    rfl
  · have coarser : x.exponent < x.keptExponent p := not_le.1 fine
    have tooLarge_iff :=
      lt_leadingExponent_trimCarry_shortened_iff usable isZero coarser tooLarge
    rw [if_neg fine, ← shortened, WorkingPrecision.keep]
    by_cases beyond : p.greatestExponent < ((x.shortened p).trimCarry p).leadingExponent
    · rw [if_pos beyond, if_pos (tooLarge_iff.1 beyond)]
      rfl
    · rw [if_neg beyond, if_neg fun reached => beyond (tooLarge_iff.2 reached)]
      exact congrArg Except.ok
        (value_trimCarry_shortened usable.someDigit isZero coarser)

/-- A product is the exact product, rounded once. -/
theorem map_value_mul (usable : p.Usable) (x y : Amount) :
    (mul p x y).map value = p.keep (x.value * y.value) := by
  obtain ⟨unrounded, rounded, valued⟩ := mul_eq_round (p := p) x y
  rw [rounded, map_value_round usable, valued]

theorem map_value_hundredth (usable : p.Usable) (x : Amount) :
    (hundredth p x).map value = p.keep (x.value / 100) := by
  obtain ⟨unrounded, rounded, valued⟩ := hundredth_eq_round (p := p) x
  rw [rounded, map_value_round usable, valued]

end Amount

end RetailPricing
