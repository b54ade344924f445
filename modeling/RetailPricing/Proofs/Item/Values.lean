import RetailPricing.Proofs.Amount.Sums
import RetailPricing.Proofs.Item.Updates

/-!
# Discounts told of rational numbers

What actions make of a discount can be computed with rational numbers: each
operation takes the exact result and rounds it once (`wantedValue`), and what is
asked for is then brought between nothing and the price (`boundedValue`).  The
discount that actions leave has the value computed in this way
(`map_value_discountAfterAll`), and they overflow together.
-/

namespace RetailPricing

open Outcome

/-- A discount as far as it may go: not below nothing and not above the price. -/
def boundedValue (price wanted : ℚ) : ℚ :=
  max 0 (min price wanted)

theorem boundedValue_mono {price wanted other : ℚ} (le : wanted ≤ other) :
    boundedValue price wanted ≤ boundedValue price other :=
  max_le_max le_rfl (min_le_min le_rfl le)

theorem Item.value_boundedDiscount {price : Amount} (nonneg : 0 ≤ price.value)
    (wanted : Amount) :
    (boundedDiscount price wanted).value = boundedValue price.value wanted.value := by
  rw [boundedDiscount, boundedValue, Amount.order_eq_compare_value]
  split
  next tooMuch =>
      have less : price.value ≤ wanted.value := (compare_gt_iff_gt.1 tooMuch).le
      rw [min_eq_left less, max_eq_right nonneg]
  next notGreater =>
      have atMost : wanted.value ≤ price.value := not_lt.1 fun tooMuch =>
        notGreater (compare_gt_iff_gt.2 tooMuch)
      rw [min_eq_right atMost]
      split
      next negative =>
          rw [Amount.value_zero, max_eq_left (Amount.isNegative_iff.1 negative).le]
      next notNegative =>
          have atLeast : 0 ≤ wanted.value := not_lt.1 fun negative =>
            notNegative (Amount.isNegative_iff.2 negative)
          rw [max_eq_right atLeast]

namespace Action

open WorkingPrecision (money usable_money)

/-- The discount that the action asks for on this price, rounded after each
operation. -/
def wantedValue (action : Action) (price granted : ℚ) : Except Signal ℚ :=
  match action.kind with
  | .fixedPrice => money.keep (price - action.value.value)
  | .discountPercent => do
      let product ← money.keep (price * action.value.value)
      let increase ← money.keep (product / 100)
      money.keep (granted + increase)

/-- The discount once the action has changed it. -/
def valueAfter (action : Action) (price granted : ℚ) : Except Signal ℚ :=
  (action.wantedValue price granted).map (boundedValue price)

/-- The discount once all actions have changed it, in their order. -/
def valueAfterAll (actions : List Action) (price granted : ℚ) : Except Signal ℚ :=
  actions.foldlM (fun granted action => action.valueAfter price granted) granted

theorem map_value_share (value price : Amount) :
    (share value price).map Amount.value =
      money.keep (price.value * value.value) >>= fun product => money.keep (product / 100) :=
  map_bind_eq (Amount.map_value_mul usable_money price value)
    (Amount.map_value_hundredth usable_money)

theorem map_value_wantedDiscount (action : Action) (price granted : Amount) :
    (action.wantedDiscount price granted).map Amount.value =
      action.wantedValue price.value granted.value := by
  rw [wantedDiscount, wantedValue]
  cases action.kind with
  | fixedPrice => exact Amount.map_value_sub usable_money price action.value
  | discountPercent =>
      exact (map_bind_eq (map_value_share action.value price)
        (Amount.map_value_add usable_money granted)).trans (bind_assoc _ _ _)

theorem map_value_discountAfter (action : Action) {price : Amount}
    (nonneg : 0 ≤ price.value) (granted : Amount) :
    (action.discountAfter price granted).map Amount.value =
      action.valueAfter price.value granted.value := by
  rw [discountAfter, valueAfter, ← map_value_wantedDiscount]
  cases action.wantedDiscount price granted with
  | error s => rfl
  | ok wanted => exact congrArg Except.ok (Item.value_boundedDiscount nonneg wanted)

/-- Actions compute with values. -/
theorem map_value_discountAfterAll (actions : List Action) {price : Amount}
    (nonneg : 0 ≤ price.value) (granted : Amount) :
    (discountAfterAll actions price granted).map Amount.value =
      valueAfterAll actions price.value granted.value := by
  induction actions generalizing granted with
  | nil => rfl
  | cons action rest ih =>
      rw [discountAfterAll, valueAfterAll, List.foldlM_cons, List.foldlM_cons]
      exact map_bind_eq (action.map_value_discountAfter nonneg granted) ih

end Action

end RetailPricing
