import RetailPricing.Proofs.Amount.Arithmetic
import RetailPricing.Proofs.Item.Bounds

/-!
# The discount of one item

What a row of actions does to an item can be told from its price alone: each
action turns one discount into the next (`discountAfter`), and all else about
the item stays (`applyAll_withDiscount`).  The only thing that can stop it is
the overflow signal.

Prices and values that stay a factor of ten below the greatest amount do not
overflow, however many actions there are (`exists_discountAfterAll_eq_ok`),
because no discount exceeds the price.
-/

namespace RetailPricing

open Outcome

/-- The same item with this discount. -/
def Item.withDiscount (item : CartItem) (granted : Amount) : CartItem :=
  { item with discount := .ofAmount granted }

namespace Action

/-- The discount that the action asks for on an item of this price. -/
def wantedDiscount (action : Action) (price granted : Amount) : Except Signal Amount :=
  match action.kind with
  | .fixedPrice => fixedPriceDiscount action.value price
  | .discountPercent => do Amount.add .money granted (← share action.value price)

/-- The discount on an item of this price once the action has changed it. -/
def discountAfter (action : Action) (price granted : Amount) : Except Signal Amount :=
  (action.wantedDiscount price granted).map (Item.boundedDiscount price)

/-- The discount once all actions have changed it, in their order. -/
def discountAfterAll (actions : List Action) (price granted : Amount) :
    Except Signal Amount :=
  actions.foldlM (fun granted action => action.discountAfter price granted) granted

/-- Applies actions to one item, in their order. -/
def applyAll (actions : List Action) (item : CartItem) : Except Mishap CartItem :=
  actions.foldlM (fun item action => action.apply item) item

theorem increasedDiscount_ofAmount (value price granted : Amount) :
    increasedDiscount value price (.ofAmount granted) =
      (share value price >>= Amount.add .money granted).mapError .signal := by
  unfold increasedDiscount
  cases share value price with
  | error s => rfl
  | ok increase => rfl

/-- On an item, an action grants what it asks for, as far as it may. -/
theorem apply_withDiscount (action : Action) (item : CartItem) (granted : Amount) :
    action.apply (item.withDiscount granted) =
      ((action.discountAfter item.price granted).map item.withDiscount).mapError .signal := by
  -- Both kinds of actions ask for an amount and then have it granted.
  have asks : action.apply (item.withDiscount granted) =
      (action.wantedDiscount item.price granted).mapError Mishap.signal >>= fun wanted =>
        ((item.withDiscount granted).grant (.ofAmount wanted)).mapError .signal := by
    unfold apply wantedDiscount
    cases action.kind with
    | fixedPrice => rfl
    | discountPercent =>
        exact congrArg (· >>= _) (increasedDiscount_ofAmount action.value item.price granted)
  rw [asks, discountAfter]
  cases action.wantedDiscount item.price granted with
  | error s => rfl
  | ok wanted =>
      have grants : (item.withDiscount granted).grant (.ofAmount wanted) =
          .ok (item.withDiscount (Item.boundedDiscount item.price wanted)) :=
        Item.grant_eq_ok_iff.2 ⟨_, Item.grantedDiscount_ofAmount item.price wanted, rfl⟩
      exact congrArg (Except.mapError Mishap.signal) grants

theorem applyAll_withDiscount (actions : List Action) (item : CartItem) (granted : Amount) :
    applyAll actions (item.withDiscount granted) =
      ((discountAfterAll actions item.price granted).map item.withDiscount).mapError
        .signal := by
  induction actions generalizing granted with
  | nil => rfl
  | cons action rest ih =>
      rw [applyAll, discountAfterAll, List.foldlM_cons, List.foldlM_cons, apply_withDiscount]
      cases action.discountAfter item.price granted with
      | error s => rfl
      | ok next => exact ih next

theorem wantedDiscount_error {action : Action} {price granted : Amount} {s : Signal}
    (stopped : action.wantedDiscount price granted = .error s) : s = .overflow := by
  rw [wantedDiscount] at stopped
  split at stopped
  · exact Amount.add_error stopped
  · rcases bind_eq_error_iff.1 stopped with unshared | ⟨increase, _, unadded⟩
    · rcases bind_eq_error_iff.1 unshared with unmultiplied | ⟨product, _, undivided⟩
      · exact Amount.mul_error unmultiplied
      · exact Amount.hundredth_error undivided
    · exact Amount.add_error unadded

theorem discountAfterAll_error {actions : List Action} {price granted : Amount} {s : Signal}
    (stopped : discountAfterAll actions price granted = .error s) : s = .overflow := by
  induction actions generalizing granted with
  | nil => cases stopped
  | cons action rest ih =>
      rw [discountAfterAll, List.foldlM_cons] at stopped
      rcases bind_eq_error_iff.1 stopped with here | ⟨next, _, later⟩
      · exact wantedDiscount_error (map_eq_error_iff.1 here)
      · exact ih later

/-- No discount exceeds the price, in size. -/
theorem magnitude_boundedDiscount_le (price wanted : Amount) :
    (Item.boundedDiscount price wanted).magnitude ≤ price.magnitude := by
  rw [Item.boundedDiscount, Amount.order_eq_compare_value]
  split
  · exact le_rfl
  next notGreater =>
      split
      · rw [Amount.magnitude_zero]
        exact price.magnitude_nonneg
      next notNegative =>
          have atMost : wanted.value ≤ price.value := not_lt.1 fun tooMuch =>
            notGreater (compare_gt_iff_gt.2 tooMuch)
          have nonneg : 0 ≤ wanted.value := not_lt.1 fun negative =>
            notNegative (Amount.isNegative_iff.2 negative)
          rw [← Amount.abs_value, ← Amount.abs_value, abs_of_nonneg nonneg]
          exact atMost.trans (le_abs_self _)

/-- Below `10 ^ safeExponent`, a tenth of the greatest power, prices, values and
their products do not overflow. -/
def safeExponent : Int :=
  WorkingPrecision.money.greatestExponent - 1

theorem holds_safeExponent :
    WorkingPrecision.money.Holds safeExponent ∧
      WorkingPrecision.money.Holds (safeExponent - 1) ∧
        WorkingPrecision.money.Holds (safeExponent + 1) :=
  ⟨⟨by decide, by decide, by decide⟩, ⟨by decide, by decide, by decide⟩,
    ⟨by decide, by decide, by decide⟩⟩

/-- The price, the value of the action and their product are safe. -/
structure Fits (action : Action) (price : Amount) : Prop where
  safePrice : price.magnitude < 10 ^ safeExponent
  safeValue : action.value.magnitude < 10 ^ safeExponent
  safeProduct : price.magnitude * action.value.magnitude < 10 ^ safeExponent

theorem exists_wantedDiscount_eq_ok {action : Action} {price granted : Amount}
    (fits : action.Fits price) (bounded : granted.magnitude ≤ price.magnitude) :
    ∃ wanted, action.wantedDiscount price granted = .ok wanted := by
  obtain ⟨safePrice, safeValue, safeProduct⟩ := fits
  obtain ⟨holds, holdsBelow, holdsAbove⟩ := holds_safeExponent
  rw [wantedDiscount]
  split
  · exact Amount.exists_add_eq_ok holdsAbove safePrice safeValue
  · obtain ⟨product, multiplied, safe⟩ := Amount.exists_mul_eq_ok holds safeProduct
    obtain ⟨increase, divided, safeIncrease⟩ := Amount.exists_hundredth_eq_ok holdsBelow safe
    have shared : share action.value price = .ok increase :=
      bind_eq_ok_iff.2 ⟨product, multiplied, divided⟩
    obtain ⟨wanted, added⟩ :=
      Amount.exists_add_eq_ok holdsAbove (bounded.trans_lt safePrice) safeIncrease
    exact ⟨wanted, bind_eq_ok_iff.2 ⟨increase, shared, added⟩⟩

theorem exists_discountAfterAll_eq_ok {actions : List Action} {price granted : Amount}
    (fits : ∀ action ∈ actions, action.Fits price)
    (bounded : granted.magnitude ≤ price.magnitude) :
    ∃ final, discountAfterAll actions price granted = .ok final := by
  induction actions generalizing granted with
  | nil => exact ⟨granted, rfl⟩
  | cons action rest ih =>
      obtain ⟨wanted, asked⟩ :=
        exists_wantedDiscount_eq_ok (fits action List.mem_cons_self) bounded
      have changed : action.discountAfter price granted =
          .ok (Item.boundedDiscount price wanted) := by
        rw [discountAfter, asked]
        rfl
      obtain ⟨final, rested⟩ :=
        ih (fun other member => fits other (List.mem_cons_of_mem action member))
          (magnitude_boundedDiscount_le price wanted)
      exact ⟨final, bind_eq_ok_iff.2 ⟨_, changed, rested⟩⟩

end Action

end RetailPricing
