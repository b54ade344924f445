import RetailPricing.Proofs.Rule.Factory
import RetailPricing.Proofs.Value.Order

/-!
# What evaluating a condition ends with

A condition answers, or it refuses to compare: values of different types, and texts that
are to be put in order.  There is a third end.  Decimals are taken as they are handed in,
also those that are not a number, and to ask for their order is an invalid operation
(`Decimal.defies`).  Floats that are no finite number are rejected before they become a
decimal, so the signal only comes of a decimal that was handed in
(`evaluation_answers_refuses_or_signals`).
-/

namespace RetailPricing

namespace Decimal

/-- The operator has no answer for the two decimals: neither has order when one of them is
not a number, and what signals is not even equal or different. -/
def defies (operator : Operator) (fact expected : Decimal) : Bool :=
  if operator.isOrdering then fact.isNotANumber || expected.isNotANumber
  else fact.isSignalling || expected.isSignalling

theorem order?_eq_none_iff {x y : Decimal} :
    x.order? y = none ↔ (x.isNotANumber || y.isNotANumber) = true := by
  cases x <;> cases y <;> simp [order?, isNotANumber]

theorem order_eq_error_iff {x y : Decimal} {s : Signal} :
    x.order y = .error s ↔
      s = .invalidOperation ∧ (x.isNotANumber || y.isNotANumber) = true := by
  rw [order, ← order?_eq_none_iff]
  cases x.order? y <;> simp [eq_comm]

theorem equals_eq_error_iff {x y : Decimal} {s : Signal} :
    x.equals y = .error s ↔
      s = .invalidOperation ∧ (x.isSignalling || y.isSignalling) = true := by
  rw [equals]
  cases x.isSignalling || y.isSignalling <;> simp [eq_comm]

end Decimal

namespace Value

variable {fact expected : Value} {operator : Operator}

theorem compareDecimals_eq_error_iff {x y : Decimal} {s : Signal} :
    compareDecimals operator x y = .error s ↔
      s = .invalidOperation ∧ Decimal.defies operator x y = true := by
  cases operator with
  | eq => exact Decimal.equals_eq_error_iff
  | neq => exact Outcome.map_eq_error_iff.trans Decimal.equals_eq_error_iff
  | gt | lt | gte | lte => exact Outcome.map_eq_error_iff.trans Decimal.order_eq_error_iff

/-- What is refused is to compare different types, and to put texts in order. -/
theorem compare_eq_refusal_iff :
    (∃ fault, expected.compare operator fact = .error (.comparison fault)) ↔
      fact.type ≠ expected.type ∨ operator.isOrdering = true ∧ fact.type = .text := by
  by_cases sameType : fact.type = expected.type
  · cases ofOneType sameType with
    | texts f e => cases operator <;> simp [compare, type, Operator.isOrdering]
    | integers f e => simp [compare, type]
    | decimals f e => simp [compare, type, Outcome.mapError_eq_error_iff]
  · simp [compare_of_types_ne sameType, sameType]

/-- What signals are decimals that defy the operator. -/
theorem compare_eq_signal_iff {s : Signal} :
    expected.compare operator fact = .error (.signal s) ↔
      s = .invalidOperation ∧ ∃ x y, fact = .decimal x ∧ expected = .decimal y ∧
        Decimal.defies operator x y = true := by
  by_cases sameType : fact.type = expected.type
  · cases ofOneType sameType with
    | texts f e => cases operator <;> simp [compare]
    | integers f e => simp [compare]
    | decimals f e => simp [compare, Outcome.mapError_eq_error_iff, compareDecimals_eq_error_iff]
  · rw [compare_of_types_ne sameType]
    constructor
    · rintro ⟨⟩
    · rintro ⟨_, x, y, rfl, rfl, _⟩
      exact absurd rfl sameType

/-- A decimal that is not a number has been one when it was handed in. -/
theorem given_of_notANumber {given : Datum} {d : Decimal}
    (read : ofDatum given = .ok (.decimal d)) (improper : d.isNotANumber = true) :
    given = .decimal d ∨ given = .value (.decimal d) := by
  cases given with
  | value v =>
      obtain rfl := Except.ok.inj read
      exact .inr rfl
  | decimal x =>
      cases read
      exact .inl rfl
  | float x =>
      obtain ⟨amount, _, made⟩ := Outcome.map_eq_ok_iff.1 read
      cases made
      cases improper
  | _ => cases read

end Value

namespace Condition

/-- A condition that was created answers every fact that can be compared with it, refuses
values of another type and the order of texts, and signals an invalid operation for the
decimals that defy its operator.  These exclude each other and nothing else can happen.  A
decimal that is not a number was one when it was handed in, as the value of the condition or
as the fact. -/
theorem evaluation_answers_refuses_or_signals {kind operator value given : Datum}
    {condition : Condition} {fact : Value}
    (created : create kind operator value = .ok condition)
    (read : Value.ofDatum given = .ok fact) :
    let outcome := condition.evaluate fact
    let refused := fact.type ≠ condition.value.type ∨
      condition.operator.isOrdering = true ∧ fact.type = .text
    let signalled := ∃ x y, fact = .decimal x ∧ condition.value = .decimal y ∧
      Decimal.defies condition.operator x y = true
    ((∃ answer, outcome = .ok answer) ↔ ¬ refused ∧ ¬ signalled) ∧
      ((∃ fault, outcome = .error (.comparison fault)) ↔ refused) ∧
      (∀ s, outcome = .error (.signal s) ↔ s = .invalidOperation ∧ signalled) ∧
      (∀ d, fact = .decimal d → d.isNotANumber = true →
        given = .decimal d ∨ given = .value (.decimal d)) ∧
      ∀ d, condition.value = .decimal d → d.isNotANumber = true →
        value = .decimal d ∨ value = .value (.decimal d) := by
  intro outcome refused signalled
  have refusal : (∃ fault, outcome = .error (.comparison fault)) ↔ refused :=
    Value.compare_eq_refusal_iff
  have signal (s : Signal) :
      outcome = .error (.signal s) ↔ s = .invalidOperation ∧ signalled :=
    Value.compare_eq_signal_iff
  refine ⟨?_, refusal, signal, ?_, ?_⟩
  · rw [← refusal]
    cases ended : outcome with
    | ok answer =>
        have unsignalled : ¬ signalled := by
          intro defied
          have stopped := (signal .invalidOperation).2 ⟨rfl, defied⟩
          rw [ended] at stopped
          cases stopped
        simp [unsignalled]
    | error interruption =>
        cases interruption with
        | comparison fault => simp
        | signal s => simp [((signal s).1 ended).2]
  · rintro d rfl improper
    exact Value.given_of_notANumber read improper
  · intro d held improper
    exact Value.given_of_notANumber (held ▸ ofDatum_of_create created) improper

/-- Two entries are not three of them, and a code is no number of entries. -/
theorem three_or_more_asked_of_two_and_of_a_code :
    let threeOrMore : Condition := ⟨.quantityTotal, .gte, .integer 3⟩
    create (.ofString "quantity_total") (.ofString "gte") (.int 3) = .ok threeOrMore ∧
      Value.ofDatum (.int 2) = .ok (.integer 2) ∧
      Value.ofDatum (.ofString "MUG") = .ok (.text (.plain "MUG")) ∧
      (∃ answer, threeOrMore.evaluate (.integer 2) = .ok answer) ∧
      ∃ fault, threeOrMore.evaluate (.text (.plain "MUG")) = .error (.comparison fault) := by
  intro threeOrMore
  have created : create (.ofString "quantity_total") (.ofString "gte") (.int 3) =
      .ok threeOrMore := rfl
  have two : Value.ofDatum (.int 2) = .ok (.integer 2) := rfl
  have code : Value.ofDatum (.ofString "MUG") = .ok (.text (.plain "MUG")) := rfl
  refine ⟨created, two, code, ?_, ?_⟩
  · refine (evaluation_answers_refuses_or_signals created two).1.2 ⟨?_, ?_⟩
    · rintro (different | ⟨_, ⟨⟩⟩)
      exact different rfl
    · rintro ⟨_, _, ⟨⟩, _⟩
  · exact (evaluation_answers_refuses_or_signals created code).2.1.2 (.inl nofun)

/-- A decimal that is not a number is accepted on both sides and has no order, and a
signalling one cannot even be told from others. -/
theorem non_numbers_escape_as_signals :
    let quiet := Decimal.notANumber false false 0
    let signalling := Decimal.notANumber true false 0
    let two := Decimal.finite (.ofInt 2)
    (∃ condition,
      create (.ofString "quantity_total") (.ofString "gte") (.decimal quiet) = .ok condition ∧
        condition.evaluate (.decimal two) = .error (.signal .invalidOperation)) ∧
      (∃ condition,
        create (.ofString "quantity_total") .null (.decimal two) = .ok condition ∧
          Value.ofDatum (.decimal signalling) = .ok (.decimal signalling) ∧
          condition.evaluate (.decimal signalling) = .error (.signal .invalidOperation)) ∧
      ¬ ∀ kind operator value given condition fact, create kind operator value = .ok condition →
        Value.ofDatum given = .ok fact →
          (∃ answer, condition.evaluate fact = .ok answer) ∨
            ∃ fault, condition.evaluate fact = .error (.comparison fault) := by
  intro quiet signalling two
  have created : create (.ofString "quantity_total") (.ofString "gte") (.decimal quiet) =
      .ok ⟨.quantityTotal, .gte, .decimal quiet⟩ := rfl
  refine ⟨⟨_, created, rfl⟩, ⟨_, rfl, rfl, rfl⟩, fun all => ?_⟩
  rcases all _ _ _ (.decimal two) _ (.decimal two) created rfl with ⟨_, ⟨⟩⟩ | ⟨_, ⟨⟩⟩

end Condition

end RetailPricing
