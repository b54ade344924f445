import RetailPricing.Proofs.Amount.Value
import RetailPricing.Proofs.Outcome
import RetailPricing.Value

/-!
# The order of comparison values

Whole numbers and decimals stand for exact numbers, with the infinities at the ends
(`Value.number?`).  Comparing two values of one type compares these numbers and nothing
else: no operator sees the exponent of a decimal, its trailing zeros or the sign of a zero,
and none of them rounds (`compare_of_numbers`).  So the six operators say what the order
of the numbers says, and everything that holds of a linear order holds of them
(`operators_form_one_order`).

Texts and decimals that are not a number stand for no number.
-/

namespace RetailPricing

namespace Operator

section

variable {α : Type} [LinearOrder α]

/-- What the operator says of two members of an order, the fact in front. -/
def Relates : Operator → α → α → Prop
  | eq, fact, expected => fact = expected
  | neq, fact, expected => fact ≠ expected
  | gt, fact, expected => expected < fact
  | lt, fact, expected => fact < expected
  | gte, fact, expected => expected ≤ fact
  | lte, fact, expected => fact ≤ expected

theorem holds_compare_iff {operator : Operator} {fact expected : α} :
    operator.holds (compare fact expected) = true ↔ operator.Relates fact expected := by
  rcases lt_trichotomy fact expected with below | rfl | above
  · rw [compare_lt_iff_lt.2 below]
    cases operator <;> simp [holds, Relates, below, below.le, below.ne, below.not_gt]
  · rw [compare_eq_iff_eq.2 rfl]
    cases operator <;> simp [holds, Relates]
  · rw [compare_gt_iff_gt.2 above]
    cases operator <;> simp [holds, Relates, above, above.le, above.ne', above.not_gt]

end

end Operator

/-- Rational numbers, with an infinity at each end. -/
abbrev ExtendedNumber := WithBot (WithTop ℚ)

namespace Decimal

/-- The number that a decimal stands for. -/
def number? : Decimal → Option ExtendedNumber
  | finite amount => some (amount.value : WithTop ℚ)
  | infinite negative => some (if negative then ⊥ else ⊤)
  | notANumber _ _ _ => none

variable {x y : Decimal} {left right : ExtendedNumber}

theorem isSignalling_eq_false_of_number (known : x.number? = some left) :
    x.isSignalling = false := by
  cases x with
  | finite amount | infinite negative => rfl
  | notANumber signalling negative payload => cases known

theorem finite_lt_top (value : ℚ) : ((value : WithTop ℚ) : ExtendedNumber) < ⊤ :=
  WithBot.coe_lt_coe.2 (WithTop.coe_lt_top value)

theorem bot_lt_finite (value : ℚ) : (⊥ : ExtendedNumber) < (value : WithTop ℚ) :=
  WithBot.bot_lt_coe _

/-- Decimals are put in the order of their numbers. -/
theorem order?_of_numbers (known : x.number? = some left) (otherKnown : y.number? = some right) :
    x.order? y = some (compare left right) := by
  cases x with
  | notANumber signalling negative payload => cases known
  | finite amount =>
      obtain rfl := Option.some.inj known
      cases y with
      | notANumber signalling negative payload => cases otherKnown
      | finite other =>
          obtain rfl := Option.some.inj otherKnown
          have embeds : StrictMono fun value : ℚ => ((value : WithTop ℚ) : ExtendedNumber) :=
            WithBot.coe_strictMono.comp WithTop.coe_strictMono
          rw [order?, Amount.order_eq_compare_value, ← cmp_eq_compare, ← cmp_eq_compare,
            ← embeds.cmp_map_eq]
      | infinite negative =>
          obtain rfl := Option.some.inj otherKnown
          cases negative with
          | true => exact congrArg some (compare_gt_iff_gt.2 (bot_lt_finite _)).symm
          | false => exact congrArg some (compare_lt_iff_lt.2 (finite_lt_top _)).symm
  | infinite negative =>
      obtain rfl := Option.some.inj known
      cases y with
      | notANumber signalling negative payload => cases otherKnown
      | finite other =>
          obtain rfl := Option.some.inj otherKnown
          cases negative with
          | true => exact congrArg some (compare_lt_iff_lt.2 (bot_lt_finite _)).symm
          | false => exact congrArg some (compare_gt_iff_gt.2 (finite_lt_top _)).symm
      | infinite otherNegative =>
          obtain rfl := Option.some.inj otherKnown
          cases negative <;> cases otherNegative <;> rfl

theorem equals_of_numbers (known : x.number? = some left) (otherKnown : y.number? = some right) :
    x.equals y = .ok (Operator.eq.holds (compare left right)) := by
  rw [equals, isSignalling_eq_false_of_number known, isSignalling_eq_false_of_number otherKnown,
    order?_of_numbers known otherKnown]
  rfl

end Decimal

namespace Value

/-- The number that a value stands for. -/
def number? : Value → Option ExtendedNumber
  | text _ => none
  | integer n => some ((n : ℚ) : WithTop ℚ)
  | decimal d => d.number?

def isNotANumber : Value → Bool
  | decimal d => d.isNotANumber
  | _ => false

/-- The operator is found to hold of the fact and the value that is expected. -/
def Meets (fact : Value) (operator : Operator) (expected : Value) : Prop :=
  expected.compare operator fact = .ok true

variable {fact expected : Value} {left right : ExtendedNumber}

/-- Two values of one type. -/
inductive OfOneType : Value → Value → Prop
  | texts (s t : Text) : OfOneType (text s) (text t)
  | integers (m n : Int) : OfOneType (integer m) (integer n)
  | decimals (x y : Decimal) : OfOneType (decimal x) (decimal y)

theorem ofOneType (sameType : fact.type = expected.type) : OfOneType fact expected := by
  cases fact with
  | text s =>
      cases expected with
      | text t => exact .texts s t
      | integer n | decimal d => cases sameType
  | integer m =>
      cases expected with
      | integer n => exact .integers m n
      | text t | decimal d => cases sameType
  | decimal x =>
      cases expected with
      | decimal y => exact .decimals x y
      | text t | integer n => cases sameType

theorem exists_text (isText : fact.type = .text) : ∃ t, fact = .text t := by
  cases fact with
  | text t => exact ⟨t, rfl⟩
  | integer n | decimal d => cases isText

theorem exists_number (wordless : fact.type ≠ .text) (proper : fact.isNotANumber = false) :
    ∃ number, fact.number? = some number := by
  cases fact with
  | text t => exact absurd rfl wordless
  | integer n => exact ⟨_, rfl⟩
  | decimal d =>
      cases d with
      | notANumber signalling negative payload => cases proper
      | finite amount | infinite negative => exact ⟨_, rfl⟩

/-- Values of one type are compared as the numbers they stand for. -/
theorem compare_of_numbers (sameType : fact.type = expected.type)
    (known : fact.number? = some left) (expectedKnown : expected.number? = some right)
    (operator : Operator) :
    expected.compare operator fact = .ok (operator.holds (Ord.compare left right)) := by
  cases ofOneType sameType with
  | texts s t => cases known
  | integers m n =>
      obtain rfl := Option.some.inj known
      obtain rfl := Option.some.inj expectedKnown
      have embeds : StrictMono fun n : Int => (((n : ℚ) : WithTop ℚ) : ExtendedNumber) :=
        WithBot.coe_strictMono.comp (WithTop.coe_strictMono.comp Int.cast_strictMono)
      rw [compare, ← cmp_eq_compare, ← cmp_eq_compare, ← embeds.cmp_map_eq]
  | decimals x y =>
      have ordered := Decimal.order?_of_numbers known expectedKnown
      have equal := Decimal.equals_of_numbers known expectedKnown
      cases operator with
      | eq => rw [compare, compareDecimals, equal]; rfl
      | neq => rw [compare, compareDecimals, equal]; rfl
      | gt | lt | gte | lte =>
          rw [compare, compareDecimals, Decimal.order, ordered]
          rfl

theorem meets_iff_relates (sameType : fact.type = expected.type)
    (known : fact.number? = some left) (expectedKnown : expected.number? = some right)
    {operator : Operator} : fact.Meets operator expected ↔ operator.Relates left right := by
  rw [Meets, compare_of_numbers sameType known expectedKnown, Except.ok.injEq,
    Operator.holds_compare_iff]

/-- Values that stand for one number are the same to every operator. -/
theorem compare_congr {other otherExpected : Value} (sameType : fact.type = expected.type)
    (known : fact.number? = some left) (expectedKnown : expected.number? = some right)
    (factAlike : other.type = fact.type ∧ other.number? = fact.number?)
    (expectedAlike : otherExpected.type = expected.type ∧
      otherExpected.number? = expected.number?) (operator : Operator) :
    otherExpected.compare operator other = expected.compare operator fact := by
  have otherSameType : other.type = otherExpected.type :=
    factAlike.1.trans (sameType.trans expectedAlike.1.symm)
  rw [compare_of_numbers sameType known expectedKnown,
    compare_of_numbers otherSameType (factAlike.2.trans known)
      (expectedAlike.2.trans expectedKnown)]

/-! ## Values of different types, and texts -/

theorem compare_of_types_ne (different : fact.type ≠ expected.type) (operator : Operator) :
    expected.compare operator fact =
      .error (.comparison (.differentTypes operator fact.type expected.type)) := by
  cases fact with
  | text f =>
      cases expected with
      | text e => exact absurd rfl different
      | integer e | decimal e => rfl
  | integer f =>
      cases expected with
      | integer e => exact absurd rfl different
      | text e | decimal e => rfl
  | decimal f =>
      cases expected with
      | decimal e => exact absurd rfl different
      | text e | integer e => rfl

/-- Two texts are equal when their characters are, and have no order. -/
structure ComparesAsTexts (fact expected : Text) : Prop where
  eq : (text expected).compare .eq (text fact) = .ok (decide (fact.content = expected.content))
  neq : (text expected).compare .neq (text fact) =
    .ok (decide (fact.content ≠ expected.content))
  ordering : ∀ operator : Operator, operator.isOrdering = true →
    (text expected).compare operator (text fact) =
      .error (.comparison (.withoutOrder operator .text))

theorem comparesAsTexts (fact expected : Text) : ComparesAsTexts fact expected where
  eq := rfl
  neq := by
    rw [compare, Text.agrees, decide_not]
    rfl
  ordering := by
    intro operator ordering
    cases operator with
    | eq | neq => cases ordering
    | gt | lt | gte | lte => rfl

/-! ## One order -/

/-- The six operators tell one order, in which `a`, `b` and `c` have their places by the
exact numbers that they stand for. -/
structure ComparesInOrder (a b c : Value) : Prop where
  answers : ∀ operator, ∃ answer, b.compare operator a = .ok answer
  exactlyOne :
    a.Meets .lt b ∧ ¬ a.Meets .eq b ∧ ¬ a.Meets .gt b ∨
      ¬ a.Meets .lt b ∧ a.Meets .eq b ∧ ¬ a.Meets .gt b ∨
      ¬ a.Meets .lt b ∧ ¬ a.Meets .eq b ∧ a.Meets .gt b
  gte_iff : a.Meets .gte b ↔ a.Meets .gt b ∨ a.Meets .eq b
  lte_iff : a.Meets .lte b ↔ a.Meets .lt b ∨ a.Meets .eq b
  neq_iff : a.Meets .neq b ↔ ¬ a.Meets .eq b
  converse : b.compare .gt a = a.compare .lt b
  trans : a.Meets .lt b → b.Meets .lt c → a.Meets .lt c
  ofNumbers : ∃ left right, a.number? = some left ∧ b.number? = some right ∧
    ∀ operator : Operator, a.Meets operator b ↔ operator.Relates left right
  onlyNumbers : ∀ a' b' : Value, a'.type = a.type ∧ a'.number? = a.number? →
    b'.type = b.type ∧ b'.number? = b.number? →
    ∀ operator, b'.compare operator a' = b.compare operator a

theorem comparesInOrder {a b c : Value} {x y z : ExtendedNumber} (sameType : a.type = b.type)
    (sameTypeAgain : b.type = c.type) (aKnown : a.number? = some x)
    (bKnown : b.number? = some y) (cKnown : c.number? = some z) : ComparesInOrder a b c := by
  have relates (operator : Operator) : a.Meets operator b ↔ operator.Relates x y :=
    meets_iff_relates sameType aKnown bKnown
  refine ⟨?_, ?_, ?_, ?_, ?_, ?_, ?_, ⟨x, y, aKnown, bKnown, relates⟩, ?_⟩
  · exact fun operator => ⟨_, compare_of_numbers sameType aKnown bKnown operator⟩
  · simp only [relates, Operator.Relates]
    rcases lt_trichotomy x y with below | same | above
    · exact .inl ⟨below, below.ne, below.not_gt⟩
    · exact .inr (.inl ⟨same.not_lt, same, same.not_gt⟩)
    · exact .inr (.inr ⟨above.not_gt, above.ne', above⟩)
  · simp only [relates, Operator.Relates, eq_comm (a := x)]
    exact le_iff_lt_or_eq
  · simp only [relates, Operator.Relates]
    exact le_iff_lt_or_eq
  · exact (relates .neq).trans (relates .eq).not.symm
  · rw [compare_of_numbers sameType aKnown bKnown, compare_of_numbers sameType.symm bKnown aKnown,
      Except.ok.injEq, Bool.eq_iff_iff, Operator.holds_compare_iff, Operator.holds_compare_iff]
    rfl
  · rw [relates, meets_iff_relates sameTypeAgain bKnown cKnown,
      meets_iff_relates (sameType.trans sameTypeAgain) aKnown cKnown]
    exact lt_trans
  · exact fun _ _ => compare_congr sameType aKnown bKnown

theorem equals_of_types_ne {a b : Value} (different : a.type ≠ b.type) :
    a.equals b = .ok false := by
  cases a with
  | text s =>
      cases b with
      | text t => exact absurd rfl different
      | integer n | decimal d => rfl
  | integer m =>
      cases b with
      | integer n => exact absurd rfl different
      | text t | decimal d => rfl
  | decimal x =>
      cases b with
      | decimal y => exact absurd rfl different
      | text t | integer n => rfl

/-- Of one type, equality is what the operator for it finds. -/
theorem equals_of_same_type {a b : Value} (sameType : a.type = b.type) :
    (a.equals b).mapError .signal = b.compare .eq a := by
  cases ofOneType sameType with
  | texts s t => rfl
  | integers m n =>
      refine congrArg Except.ok (Bool.eq_iff_iff.2 ?_)
      rw [beq_iff_eq, Operator.holds_compare_iff]
      rfl
  | decimals x y => rfl

/-- Two values are equal when they have one type and the operator for equality holds. -/
theorem exists_equals {a b : Value} (aProper : a.isNotANumber = false)
    (bProper : b.isNotANumber = false) :
    ∃ answer, a.equals b = .ok answer ∧
      (answer = true ↔ a.type = b.type ∧ a.Meets .eq b) := by
  by_cases sameType : a.type = b.type
  · have answers : ∃ answer, b.compare .eq a = .ok answer := by
      by_cases isText : a.type = .text
      · obtain ⟨s, rfl⟩ := exists_text isText
        obtain ⟨t, rfl⟩ := exists_text (sameType ▸ isText)
        exact ⟨_, rfl⟩
      · obtain ⟨x, aKnown⟩ := exists_number isText aProper
        obtain ⟨y, bKnown⟩ := exists_number (sameType ▸ isText) bProper
        exact ⟨_, compare_of_numbers sameType aKnown bKnown .eq⟩
    obtain ⟨answer, compared⟩ := answers
    rw [← equals_of_same_type sameType, Outcome.mapError_eq_ok_iff] at compared
    refine ⟨answer, compared, ?_⟩
    rw [Meets, ← equals_of_same_type sameType, Outcome.mapError_eq_ok_iff, compared]
    simp [sameType]
  · exact ⟨false, equals_of_types_ne sameType, by simp [sameType]⟩

/-- A decimal with further zeros behind it, and its point moved accordingly, stands for the
same number. -/
theorem number?_with_trailing_zeros (negative : Bool) (coefficient zeros : Nat) (exponent : Int) :
    (decimal (.finite ⟨negative, coefficient * 10 ^ zeros, exponent - zeros⟩)).number? =
      (decimal (.finite ⟨negative, coefficient, exponent⟩)).number? := by
  have sameMagnitude : Amount.magnitude ⟨negative, coefficient * 10 ^ zeros, exponent - zeros⟩ =
      Amount.magnitude ⟨negative, coefficient, exponent⟩ := by
    rw [Amount.magnitude, Amount.magnitude, Nat.cast_mul, Nat.cast_pow, Nat.cast_ofNat, mul_assoc,
      ← zpow_natCast, ← zpow_add₀ (by norm_num), add_sub_cancel]
  simp only [number?, Decimal.number?, Amount.value, sameMagnitude]

/-- A zero stands for zero, whatever its sign and its exponent are. -/
theorem number?_of_zero (negative : Bool) (exponent : Int) :
    (decimal (.finite ⟨negative, 0, exponent⟩)).number? = some 0 := by
  have isZero : Amount.value ⟨negative, 0, exponent⟩ = 0 := Amount.value_eq_zero_iff.2 rfl
  rw [number?, Decimal.number?, isZero]
  rfl

/-- All amounts lie between the infinities. -/
theorem infinities_are_the_ends (amount : Amount) :
    (decimal (.infinite true)).Meets .lt (decimal (.finite amount)) ∧
      (decimal (.finite amount)).Meets .lt (decimal (.infinite false)) :=
  ⟨rfl, rfl⟩

/-- The six operators tell one order of all values but those that are not a number.  Values
of different types cannot be compared, and texts can only be found equal or different.  Values
of one numeric type are in the order of the exact numbers that they stand for, which is a
linear order with the infinities at its ends and knows nothing of trailing zeros, exponents
or the sign of a zero.  Equality of values is equality of types together with what the
operator for equality finds. -/
theorem operators_form_one_order (a b c : Value) (aProper : a.isNotANumber = false)
    (bProper : b.isNotANumber = false) (cProper : c.isNotANumber = false) :
    (a.type ≠ b.type → ∀ operator, b.compare operator a =
      .error (.comparison (.differentTypes operator a.type b.type))) ∧
    (∀ fact expected, a = .text fact → b = .text expected → ComparesAsTexts fact expected) ∧
    (a.type = b.type → b.type = c.type → a.type ≠ .text → ComparesInOrder a b c) ∧
    (∃ answer, a.equals b = .ok answer ∧
      (answer = true ↔ a.type = b.type ∧ a.Meets .eq b)) ∧
    (∀ negative coefficient (zeros : Nat) exponent,
      (decimal (.finite ⟨negative, coefficient * 10 ^ zeros, exponent - zeros⟩)).number? =
        (decimal (.finite ⟨negative, coefficient, exponent⟩)).number?) ∧
    (∀ negative exponent, (decimal (.finite ⟨negative, 0, exponent⟩)).number? = some 0) ∧
    ∀ amount, (decimal (.infinite true)).Meets .lt (decimal (.finite amount)) ∧
      (decimal (.finite amount)).Meets .lt (decimal (.infinite false)) := by
  refine ⟨compare_of_types_ne, fun fact expected _ _ => comparesAsTexts fact expected, ?_,
    exists_equals aProper bProper, number?_with_trailing_zeros, number?_of_zero,
    infinities_are_the_ends⟩
  intro sameType sameTypeAgain wordless
  obtain ⟨x, aKnown⟩ := exists_number wordless aProper
  obtain ⟨y, bKnown⟩ := exists_number (sameType ▸ wordless) bProper
  obtain ⟨z, cKnown⟩ := exists_number (sameTypeAgain ▸ sameType ▸ wordless) cProper
  exact comparesInOrder sameType sameTypeAgain aKnown bKnown cKnown

/-- The same price written in two ways, and more than any price. -/
theorem five_in_two_ways_below_infinity :
    let five := decimal (.finite ⟨false, 50, -1⟩)
    let alsoFive := decimal (.finite ⟨false, 500, -2⟩)
    let boundless := decimal (.infinite false)
    five.isNotANumber = false ∧ alsoFive.isNotANumber = false ∧
      boundless.isNotANumber = false ∧ five.type = alsoFive.type ∧
      alsoFive.type = boundless.type ∧ five.type ≠ .text ∧
      ComparesInOrder five alsoFive boundless ∧
      ∀ operator, alsoFive.compare operator (integer 5) =
        .error (.comparison (.differentTypes operator .integer .decimal)) := by
  intro five alsoFive boundless
  have ordered := (operators_form_one_order five alsoFive boundless rfl rfl rfl).2.2.1
  have unordered := (operators_form_one_order (integer 5) alsoFive boundless rfl rfl rfl).1
  have different : (integer 5).type ≠ alsoFive.type := nofun
  exact ⟨rfl, rfl, rfl, rfl, rfl, nofun, ordered rfl rfl nofun, unordered different⟩

end Value

end RetailPricing
