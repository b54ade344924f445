import RetailPricing.Item.Discount
import RetailPricing.Proofs.Amount.Value
import RetailPricing.Proofs.Outcome

/-!
# The bounds of a discount

An item is well priced when its price is not negative and its discount lies
between nothing and the price, as exact values.  The constructor only builds
well-priced items, and granting a discount keeps an item well priced whatever
number was asked for.

All other operations on an item are resets and grants.  `Adjusted` says that
one item came from another by a row of these; it keeps everything but the
discount, and it keeps an item well priced.  Whatever callers do to an item
adjusts it.
-/

namespace RetailPricing

namespace Number

/-- The exact value of a number; infinities and non-numbers have none. -/
def value? (x : Number) : Option ℚ :=
  x.toDecimal.amount?.map Amount.value

@[simp]
theorem value?_ofAmount (x : Amount) : (ofAmount x).value? = some x.value :=
  rfl

@[simp]
theorem value?_zero : zero.value? = some 0 := by
  rw [zero, value?_ofAmount, Amount.value_zero]

theorem order_of_finite {x : Number} {w : Amount} (finite : x.toDecimal = .finite w)
    (y : Amount) : x.order y = .ok (compare w.value y.value) := by
  rw [order, finite]
  exact congrArg Except.ok (Amount.order_eq_compare_value w y)

end Number

namespace Item

open Outcome

/-- A number with a value is granted as it is between nothing and the price. -/
theorem grantedDiscount_of_finite {price w : Amount} {wanted : Number}
    (finite : wanted.toDecimal = .finite w) :
    grantedDiscount price wanted =
      .ok (if price.value < w.value then .ofAmount price
        else if w.value < 0 then .zero else wanted) := by
  rw [grantedDiscount, Number.order_of_finite finite, Number.order_of_finite finite,
    Amount.value_zero]
  by_cases tooMuch : price.value < w.value
  · rw [compare_gt_iff_gt.2 tooMuch, if_pos tooMuch]
    rfl
  · have notGreater : compare w.value price.value ≠ .gt := fun greater =>
      tooMuch (compare_gt_iff_gt.1 greater)
    rw [if_neg tooMuch]
    cases small : compare w.value price.value with
    | gt => exact absurd small notGreater
    | lt | eq =>
        by_cases negative : w.value < 0
        · rw [compare_lt_iff_lt.2 negative, if_pos negative]
          rfl
        · rw [if_neg negative]
          cases below : compare w.value 0 with
          | lt => exact absurd (compare_lt_iff_lt.1 below) negative
          | eq | gt => rfl

theorem grantedDiscount_of_infinite {price : Amount} {wanted : Number}
    {negative : Bool} (infinite : wanted.toDecimal = .infinite negative) :
    grantedDiscount price wanted =
      .ok (if negative then .zero else .ofAmount price) := by
  rw [grantedDiscount, Number.order, Number.order, infinite]
  cases negative <;> rfl

/-- A non-number cannot be compared with the price and is not granted. -/
theorem grantedDiscount_of_notANumber {price : Amount} {wanted : Number}
    {signalling negative : Bool} {payload : Nat}
    (undefined : wanted.toDecimal = .notANumber signalling negative payload) :
    grantedDiscount price wanted = .error .invalidOperation := by
  rw [grantedDiscount, Number.order, undefined]
  rfl

/-- Whatever was asked for, what is granted lies between nothing and the
price. -/
theorem value?_grantedDiscount {price : Amount} {wanted granted : Number}
    (nonneg : 0 ≤ price.value) (ok : grantedDiscount price wanted = .ok granted) :
    ∃ q, granted.value? = some q ∧ 0 ≤ q ∧ q ≤ price.value := by
  cases asked : wanted.toDecimal with
  | finite w =>
      rw [grantedDiscount_of_finite asked, Except.ok.injEq] at ok
      subst ok
      by_cases tooMuch : price.value < w.value
      · rw [if_pos tooMuch]
        exact ⟨price.value, rfl, nonneg, le_rfl⟩
      · by_cases negative : w.value < 0
        · rw [if_neg tooMuch, if_pos negative]
          exact ⟨0, Number.value?_zero, le_rfl, nonneg⟩
        · rw [if_neg tooMuch, if_neg negative]
          refine ⟨w.value, ?_, not_lt.1 negative, not_lt.1 tooMuch⟩
          rw [Number.value?, asked]
          rfl
  | infinite negative =>
      rw [grantedDiscount_of_infinite asked, Except.ok.injEq] at ok
      subst ok
      cases negative with
      | true => exact ⟨0, Number.value?_zero, le_rfl, nonneg⟩
      | false => exact ⟨price.value, rfl, nonneg, le_rfl⟩
  | notANumber signalling negative payload =>
      rw [grantedDiscount_of_notANumber asked] at ok
      cases ok

/-- Amounts are always granted, within the bounds. -/
theorem grantedDiscount_ofAmount (price wanted : Amount) :
    grantedDiscount price (.ofAmount wanted) =
      .ok (.ofAmount (boundedDiscount price wanted)) := by
  rw [grantedDiscount_of_finite (w := wanted) rfl, boundedDiscount,
    Amount.order_eq_compare_value]
  by_cases tooMuch : price.value < wanted.value
  · rw [if_pos tooMuch, compare_gt_iff_gt.2 tooMuch]
  · rw [if_neg tooMuch]
    cases small : compare wanted.value price.value with
    | gt => exact absurd (compare_gt_iff_gt.1 small) tooMuch
    | lt | eq =>
        by_cases negative : wanted.value < 0
        · simp only [negative, Amount.isNegative_iff.2 negative, ↓reduceIte]
          rfl
        · have notNegative : wanted.isNegative = false :=
            Bool.eq_false_iff.2 fun isNegative =>
              negative (Amount.isNegative_iff.1 isNegative)
          simp only [negative, notNegative, ↓reduceIte, Bool.false_eq_true]

/-- The price is not negative, and the discount has a value between nothing
and the price. -/
structure WellPriced (item : CartItem) : Prop where
  price_nonneg : 0 ≤ item.price.value
  discount_bounds :
    ∃ q, item.discount.value? = some q ∧ 0 ≤ q ∧ q ≤ item.price.value

theorem WellPriced.resetDiscount {item : CartItem} (wellPriced : item.WellPriced) :
    item.resetDiscount.WellPriced where
  price_nonneg := wellPriced.price_nonneg
  discount_bounds := ⟨0, Number.value?_zero, le_rfl, wellPriced.price_nonneg⟩

theorem grant_eq_ok_iff {item changed : CartItem} {wanted : Number} :
    item.grant wanted = .ok changed ↔
      ∃ granted, grantedDiscount item.price wanted = .ok granted ∧
        changed = { item with discount := granted } := by
  rw [grant, map_eq_ok_iff]
  simp only [eq_comm]

theorem WellPriced.grant {item changed : CartItem} {wanted : Number}
    (wellPriced : item.WellPriced) (ok : item.grant wanted = .ok changed) :
    changed.WellPriced := by
  obtain ⟨granted, allowed, rfl⟩ := grant_eq_ok_iff.1 ok
  exact ⟨wellPriced.price_nonneg,
    value?_grantedDiscount wellPriced.price_nonneg allowed⟩

theorem amountField_eq_ok_iff {field : String} {given : Datum} {amount : Amount} :
    amountField field given = .ok amount ↔ given.toAmount = .ok amount := by
  rw [amountField]
  cases given.toAmount with
  | error reason => simp
  | ok read => simp

/-- What the constructor accepts has the price that was given, which is not
negative, and a discount within its bounds. -/
theorem create_eq_ok {code name price : Datum}
    {currency discount : Option Datum} {item : CartItem}
    (accepted : create code name price currency discount = .ok item) :
    requiredText? code = some item.code ∧
      requiredText? (currency.getD (.text defaultCurrency)) = some item.currency ∧
      item.name = name ∧
      price.toAmount = .ok item.price ∧ item.price.isNegative = false ∧
      ∃ wanted, item.discount = .ofAmount (boundedDiscount item.price wanted) := by
  unfold create at accepted
  split at accepted
  next codeText codeGiven =>
      dsimp only at accepted
      split at accepted
      next currencyText currencyGiven =>
          obtain ⟨amount, priceRead, rest⟩ := bind_eq_ok_iff.1 accepted
          split at rest
          next negative => cases rest
          next notNegative =>
              -- The continuation stands in both branches of the discount.
              split at rest
              all_goals
                obtain ⟨wanted, wantedRead, built⟩ := bind_eq_ok_iff.1 rest
                cases built
                exact ⟨codeGiven, currencyGiven, rfl,
                  amountField_eq_ok_iff.1 priceRead,
                  Bool.eq_false_iff.2 notNegative, wanted, rfl⟩
      next => cases accepted
  next => cases accepted

/-- What the constructor accepts is well priced. -/
theorem wellPriced_of_create {code name price : Datum}
    {currency discount : Option Datum} {item : CartItem}
    (accepted : create code name price currency discount = .ok item) :
    item.WellPriced := by
  obtain ⟨_, _, _, _, notNegative, wanted, discounted⟩ := create_eq_ok accepted
  have nonneg : 0 ≤ item.price.value :=
    not_lt.1 fun negative => by
      rw [Amount.isNegative_iff.2 negative] at notNegative
      cases notNegative
  refine ⟨nonneg, ?_⟩
  rw [discounted]
  exact value?_grantedDiscount nonneg (grantedDiscount_ofAmount item.price wanted)

/-- The items are of one product: all but their discounts is the same. -/
structure SameProduct (item other : CartItem) : Prop where
  code : item.code = other.code
  name : item.name = other.name
  price : item.price = other.price
  currency : item.currency = other.currency

theorem sameProduct_iff {item other : CartItem} :
    item.SameProduct other ↔ item.resetDiscount = other.resetDiscount := by
  constructor
  · rintro ⟨code, name, price, currency⟩
    simp only [resetDiscount, code, name, price, currency]
  · intro same
    simp only [resetDiscount, mk.injEq] at same
    obtain ⟨code, name, price, currency, _⟩ := same
    exact ⟨code, name, price, currency⟩

/-- Row by row, items are of one product. -/
theorem forall₂_sameProduct_iff {items others : List CartItem} :
    List.Forall₂ SameProduct items others ↔
      items.map resetDiscount = others.map resetDiscount := by
  have sameRelation : SameProduct = fun item other : CartItem =>
      item.resetDiscount = other.resetDiscount := by
    funext item other
    exact propext sameProduct_iff
  rw [← List.forall₂_eq_eq_eq, List.forall₂_map_left_iff, List.forall₂_map_right_iff,
    sameRelation]

/-- `Adjusted item changed` says that `changed` came from `item` by resets and
grants. -/
inductive Adjusted (item : CartItem) : CartItem → Prop
  | unchanged : Adjusted item item
  | reset {changed : CartItem} :
      Adjusted item changed → Adjusted item changed.resetDiscount
  | granted {middle changed : CartItem} {wanted : Number} :
      Adjusted item middle → middle.grant wanted = .ok changed →
      Adjusted item changed

namespace Adjusted

theorem trans {first second third : CartItem}
    (earlier : first.Adjusted second) (later : second.Adjusted third) :
    first.Adjusted third := by
  induction later with
  | unchanged => exact earlier
  | reset _ ih => exact ih.reset
  | granted _ ok ih => exact ih.granted ok

/-- An adjustment touches nothing but the discount. -/
theorem resetDiscount_eq {item changed : CartItem}
    (adjusted : item.Adjusted changed) :
    changed.resetDiscount = item.resetDiscount := by
  induction adjusted with
  | unchanged => rfl
  | reset _ ih => exact ih
  | granted _ ok ih =>
      obtain ⟨granted, _, rfl⟩ := grant_eq_ok_iff.1 ok
      exact ih

theorem wellPriced {item changed : CartItem} (adjusted : item.Adjusted changed)
    (wellPriced : item.WellPriced) : changed.WellPriced := by
  induction adjusted with
  | unchanged => exact wellPriced
  | reset _ ih => exact ih.resetDiscount
  | granted _ ok ih => exact ih.grant ok

theorem of_setDiscount {item changed : CartItem} {given : Datum}
    (ok : item.setDiscount given = .ok changed) : item.Adjusted changed := by
  rw [setDiscount] at ok
  split at ok
  next wanted _ => exact unchanged.granted (mapError_eq_ok_iff.1 ok)
  next => cases ok

/-- An action that succeeds has granted an amount. -/
theorem of_apply {item changed : CartItem} {action : Action}
    (ok : action.apply item = .ok changed) : item.Adjusted changed := by
  unfold Action.apply at ok
  split at ok
  all_goals
    obtain ⟨discount, _, granted⟩ := bind_eq_ok_iff.1 ok
    exact unchanged.granted (mapError_eq_ok_iff.1 granted)

end Adjusted

end Item

/-- The operations that callers have for the discount of an item. -/
inductive ItemDeed
  | setDiscount (given : Datum)
  | resetDiscount
  | apply (action : Action)

namespace ItemDeed

/-- What becomes of the item.  A deed that fails leaves it as it is. -/
def perform (item : CartItem) : ItemDeed → Except Mishap CartItem
  | setDiscount given => item.setDiscount given
  | resetDiscount => .ok item.resetDiscount
  | apply action => action.apply item

theorem adjusted_of_perform {item changed : CartItem} {deed : ItemDeed}
    (ok : deed.perform item = .ok changed) : item.Adjusted changed := by
  cases deed with
  | setDiscount given => exact .of_setDiscount ok
  | resetDiscount => exact Except.ok.inj ok ▸ Item.Adjusted.unchanged.reset
  | apply action => exact .of_apply ok

end ItemDeed

end RetailPricing
