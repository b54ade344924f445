import RetailPricing.Proofs.Amount.Monotone
import RetailPricing.Proofs.Checkout.Totals
import RetailPricing.Proofs.Engine.PerItem
import RetailPricing.Proofs.Item.Values

/-!
# Better offers

Larger percentages and lower fixed prices are better offers.  Since rounding
keeps the order, no action, no row of actions and no pass grants less when offers
become better, and no total becomes higher.  Nothing has to be exact for this:
it is enough that the passes and the sums come to their ends.
-/

namespace RetailPricing

open Outcome
open WorkingPrecision (money usable_money)

/-- The other action is of the same kind, and an offer at least as good. -/
def Action.ImprovedBy (action other : Action) : Prop :=
  match action.kind with
  | .fixedPrice => other.kind = .fixedPrice ∧ other.value.value ≤ action.value.value
  | .discountPercent => other.kind = .discountPercent ∧ action.value.value ≤ other.value.value

/-- The other rule says the same but for actions that are offers at least as
good. -/
structure Rule.ImprovedBy (rule other : PricingRule) : Prop where
  sameConditions : other.conditions = rule.conditions
  sameName : other.name = rule.name
  actions : List.Forall₂ Action.ImprovedBy rule.actions other.actions

namespace Rule

variable {rule other : PricingRule}

theorem ImprovedBy.select_eq (improved : rule.ImprovedBy other) {Entry : Type}
    (codeOf : Entry → Text) (entries : List Entry) :
    other.select codeOf entries = rule.select codeOf entries := by
  have sameNoop : other.isNoop = rule.isNoop := by
    rw [isNoop, isNoop, improved.sameConditions, Bool.eq_iff_iff, Bool.or_eq_true,
      Bool.or_eq_true, List.isEmpty_iff_length_eq_zero (l := other.actions),
      ← improved.actions.length_eq, ← List.isEmpty_iff_length_eq_zero]
  have sameLabel : other.label = rule.label := by
    rw [label, label, improved.sameName, describeConditions, describeConditions,
      improved.sameConditions]
  have sameConditionsOf (kind : ConditionKind) :
      other.conditionsOf kind = rule.conditionsOf kind := by
    rw [conditionsOf, conditionsOf, improved.sameConditions]
  rw [select, select, sameNoop, sameLabel]
  simp only [sameConditionsOf]

theorem ImprovedBy.picksAt_eq (improved : rule.ImprovedBy other) (cart : Cart) (position : Nat) :
    other.picksAt cart position = rule.picksAt cart position := by
  rw [picksAt, picksAt, selectPositions, selectPositions, improved.select_eq]

end Rule

/-- The actions of the rules that pick a position become better. -/
theorem actionsPicking_improved {rules better : List PricingRule}
    (improved : List.Forall₂ Rule.ImprovedBy rules better) (cart : Cart) (position : Nat) :
    List.Forall₂ Action.ImprovedBy
      ((rulesPicking rules cart position).flatMap Rule.actions)
      ((rulesPicking better cart position).flatMap Rule.actions) := by
  have picked : List.Forall₂ Rule.ImprovedBy (rulesPicking rules cart position)
      (rulesPicking better cart position) := by
    refine List.rel_filter (fun rule other offers => ?_) improved
    dsimp only
    rw [offers.picksAt_eq]
  exact List.rel_flatMap picked fun rule other offers => offers.actions

namespace Action

variable {action other : Action} {price granted more : ℚ}

theorem wantedValue_mono (improved : action.ImprovedBy other) (nonneg : 0 ≤ price)
    (le : granted ≤ more) {wanted otherWanted : ℚ}
    (asks : action.wantedValue price granted = .ok wanted)
    (otherAsks : other.wantedValue price more = .ok otherWanted) : wanted ≤ otherWanted := by
  have someDigit := usable_money.someDigit
  rw [ImprovedBy] at improved
  rw [wantedValue] at asks otherAsks
  cases known : action.kind with
  | fixedPrice =>
      rw [known] at improved asks
      obtain ⟨otherKnown, lower⟩ := improved
      rw [otherKnown] at otherAsks
      exact WorkingPrecision.keep_mono someDigit (sub_le_sub_left lower price) asks otherAsks
  | discountPercent =>
      rw [known] at improved asks
      obtain ⟨otherKnown, higher⟩ := improved
      rw [otherKnown] at otherAsks
      obtain ⟨product, multiplied, divides⟩ := bind_eq_ok_iff.1 asks
      obtain ⟨increase, divided, adds⟩ := bind_eq_ok_iff.1 divides
      obtain ⟨otherProduct, otherMultiplied, otherDivides⟩ := bind_eq_ok_iff.1 otherAsks
      obtain ⟨otherIncrease, otherDivided, otherAdds⟩ := bind_eq_ok_iff.1 otherDivides
      -- Product, quotient and sum are each rounded, and each rounding keeps the order.
      have products : product ≤ otherProduct := WorkingPrecision.keep_mono someDigit
        (mul_le_mul_of_nonneg_left higher nonneg) multiplied otherMultiplied
      have increases : increase ≤ otherIncrease := WorkingPrecision.keep_mono someDigit
        (div_le_div_of_nonneg_right products (by norm_num)) divided otherDivided
      exact WorkingPrecision.keep_mono someDigit (add_le_add le increases) adds otherAdds

theorem valueAfter_mono (improved : action.ImprovedBy other) (nonneg : 0 ≤ price)
    (le : granted ≤ more) {after otherAfter : ℚ}
    (grants : action.valueAfter price granted = .ok after)
    (otherGrants : other.valueAfter price more = .ok otherAfter) : after ≤ otherAfter := by
  obtain ⟨wanted, asks, rfl⟩ := map_eq_ok_iff.1 grants
  obtain ⟨otherWanted, otherAsks, rfl⟩ := map_eq_ok_iff.1 otherGrants
  exact boundedValue_mono (wantedValue_mono improved nonneg le asks otherAsks)

theorem valueAfterAll_mono {actions others : List Action}
    (improved : List.Forall₂ ImprovedBy actions others) (nonneg : 0 ≤ price)
    (le : granted ≤ more) {final otherFinal : ℚ}
    (grants : valueAfterAll actions price granted = .ok final)
    (otherGrants : valueAfterAll others price more = .ok otherFinal) : final ≤ otherFinal :=
  foldlM_related (R := fun x y : ℚ => x ≤ y) (S := ImprovedBy)
    (fun atMost offers here there => valueAfter_mono offers nonneg atMost here there)
    improved le grants otherGrants

end Action

/-- Better offers leave an entry with no smaller discount. -/
theorem discount_pass_le_of_improved {rules better : List PricingRule} {cart : Cart}
    (improved : List.Forall₂ Rule.ImprovedBy rules better)
    (ends : (pass rules cart).RunsToEnd) (betterEnds : (pass better cart).RunsToEnd)
    {position : Nat} {item : CartItem} (found : cart[position]? = some item)
    (nonneg : 0 ≤ item.price.value) :
    ∃ granted more,
      (pass rules cart).cart[position]? = some (item.withDiscount granted) ∧
        (pass better cart).cart[position]? = some (item.withDiscount more) ∧
        granted.value ≤ more.value := by
  obtain ⟨granted, folded, there⟩ := getElem?_pass_of_runsToEnd ends found
  obtain ⟨more, betterFolded, betterThere⟩ := getElem?_pass_of_runsToEnd betterEnds found
  have valued := Action.map_value_discountAfterAll
    ((rulesPicking rules cart position).flatMap Rule.actions) nonneg .zero
  have betterValued := Action.map_value_discountAfterAll
    ((rulesPicking better cart position).flatMap Rule.actions) nonneg .zero
  rw [folded] at valued
  rw [betterFolded] at betterValued
  exact ⟨granted, more, there, betterThere,
    Action.valueAfterAll_mono (actionsPicking_improved improved cart position) nonneg le_rfl
      valued.symm betterValued.symm⟩

/-- Sums keep the order of their terms. -/
theorem WorkingPrecision.roundedSum_mono {terms others : List (Except Signal ℚ)}
    (le : List.Forall₂
      (fun term other => ∀ {x y : ℚ}, term = .ok x → other = .ok y → x ≤ y) terms others)
    {sum otherSum : ℚ} (adds : money.roundedSum terms = .ok sum)
    (otherAdds : money.roundedSum others = .ok otherSum) : sum ≤ otherSum := by
  refine foldlM_related (R := (· ≤ ·)) ?_ le le_rfl adds otherAdds
  intro total otherTotal term other next otherNext atMost terms here there
  obtain ⟨x, known, kept⟩ := bind_eq_ok_iff.1 here
  obtain ⟨y, otherKnown, otherKept⟩ := bind_eq_ok_iff.1 there
  exact keep_mono usable_money.someDigit (add_le_add atMost (terms known otherKnown)) kept
    otherKept

/-- What is left to pay in all is at most that of a cart of the same length where
it is at most that for each entry. -/
theorem Checkout.total_mono {cart other : Cart}
    (granted : ∀ item ∈ cart, item.AmountGranted)
    (otherGranted : ∀ item ∈ other, item.AmountGranted)
    (le : List.Forall₂ (fun item entry => item.netValue ≤ entry.netValue) cart other)
    {total otherTotal : Amount} (adds : sumOfEach Item.netPrice cart = .ok total)
    (otherAdds : sumOfEach Item.netPrice other = .ok otherTotal) :
    total.value ≤ otherTotal.value := by
  have summed {entries : Cart} (known : ∀ item ∈ entries, item.AmountGranted) {sum : Amount}
      (sums : sumOfEach Item.netPrice entries = .ok sum) :
      money.roundedSum (entries.map fun item => money.keep item.netValue) = .ok sum.value := by
    have valued := map_value_sumOfEach fun item member =>
      Item.map_value_netPrice (known item member)
    rw [sums] at valued
    exact mapError_eq_ok_iff.1 valued.symm
  refine WorkingPrecision.roundedSum_mono ?_ (summed granted adds) (summed otherGranted otherAdds)
  rw [List.forall₂_map_left_iff, List.forall₂_map_right_iff]
  exact le.imp fun item entry atMost _ _ kept otherKept =>
    WorkingPrecision.keep_mono usable_money.someDigit atMost kept otherKept

/-- When percentages become larger and fixed prices lower, nobody pays more: a
pass of the better rules leaves no entry with a smaller discount, and what is left
to pay in all is not higher.  All steps may be rounded on the way. -/
theorem better_offers_cost_no_more (rules better : List PricingRule) (cart : Cart)
    (improved : List.Forall₂ Rule.ImprovedBy rules better)
    (nonneg : ∀ item ∈ cart, 0 ≤ item.price.value)
    (ends : (pass rules cart).RunsToEnd) (betterEnds : (pass better cart).RunsToEnd) :
    (∀ (position : Nat) (item : CartItem), cart[position]? = some item →
      ∃ granted more,
        (pass rules cart).cart[position]? = some (item.withDiscount granted) ∧
          (pass better cart).cart[position]? = some (item.withDiscount more) ∧
          granted.value ≤ more.value) ∧
      ∀ total betterTotal : Amount,
        Checkout.sumOfEach Item.netPrice (pass rules cart).cart = .ok total →
        Checkout.sumOfEach Item.netPrice (pass better cart).cart = .ok betterTotal →
        betterTotal.value ≤ total.value := by
  have grants (position : Nat) (item : CartItem) (found : cart[position]? = some item) :=
    discount_pass_le_of_improved improved ends betterEnds found
      (nonneg item (List.mem_of_getElem? found))
  refine ⟨grants, fun total betterTotal adds betterAdds => ?_⟩
  -- The better rules leave less to pay, so theirs is the lower of the two totals.
  refine Checkout.total_mono (amountGranted_pass better cart) (amountGranted_pass rules cart) ?_
    betterAdds adds
  rw [List.forall₂_iff_get]
  refine ⟨by rw [length_pass, length_pass], fun position betterBound bound => ?_⟩
  have inCart : position < cart.length := bound.trans_eq (length_pass rules cart)
  obtain ⟨granted, more, there, betterThere, le⟩ :=
    grants position cart[position] (List.getElem?_eq_getElem inCart)
  rw [List.getElem?_eq_getElem bound] at there
  rw [List.getElem?_eq_getElem betterBound] at betterThere
  rw [List.get_eq_getElem, List.get_eq_getElem, Option.some.inj there,
    Option.some.inj betterThere, Item.netValue, Item.netValue,
    Item.discountValue_of_ofAmount rfl, Item.discountValue_of_ofAmount rfl]
  exact sub_le_sub_left le _

/-- A percentage off shirts and a fixed price for mugs. -/
def weekendSale (percentage price : Int) : List PricingRule :=
  [⟨[⟨.itemCode, .eq, .text (.plain "TSHIRT")⟩], [⟨.discountPercent, .ofInt percentage⟩], .null⟩,
    ⟨[⟨.itemCode, .eq, .text (.plain "MUG")⟩], [⟨.fixedPrice, .ofInt price⟩], .null⟩]

theorem second_weekend_costs_no_more :
    let rules := weekendSale 10 8
    let better := weekendSale 15 7
    let cart := [shirt (.integer 7), mug]
    List.Forall₂ Rule.ImprovedBy rules better ∧
      (pass rules cart).RunsToEnd ∧ (pass better cart).RunsToEnd ∧
      (∃ granted more,
        (pass rules cart).cart[0]? = some ((shirt .zero).withDiscount granted) ∧
          (pass better cart).cart[0]? = some ((shirt .zero).withDiscount more) ∧
          granted.value ≤ more.value) ∧
      ∃ total betterTotal : Amount,
        Checkout.sumOfEach Item.netPrice (pass rules cart).cart = .ok total ∧
          Checkout.sumOfEach Item.netPrice (pass better cart).cart = .ok betterTotal ∧
          betterTotal.value ≤ total.value := by
  intro rules better cart
  have more : (Amount.ofInt 10).value ≤ (Amount.ofInt 15).value := by norm_num
  have less : (Amount.ofInt 7).value ≤ (Amount.ofInt 8).value := by norm_num
  have improved : List.Forall₂ Rule.ImprovedBy rules better :=
    .cons ⟨rfl, rfl, .cons ⟨rfl, more⟩ .nil⟩ (.cons ⟨rfl, rfl, .cons ⟨rfl, less⟩ .nil⟩ .nil)
  have nonneg : ∀ item ∈ cart, 0 ≤ item.price.value := by
    intro item member
    rcases List.mem_pair.1 member with rfl | rfl
    · norm_num [shirt, Amount.value, Amount.magnitude]
    · simp [mug]
  have ends : (pass rules cart).RunsToEnd := .inl rfl
  have betterEnds : (pass better cart).RunsToEnd := .inl rfl
  obtain ⟨grants, totals⟩ := better_offers_cost_no_more rules better cart improved nonneg ends
    betterEnds
  exact ⟨improved, ends, betterEnds, grants 0 (shirt (.integer 7)) rfl,
    ⟨false, 2600, -2⟩, ⟨false, 2400, -2⟩, rfl, rfl, totals _ _ rfl rfl⟩

end RetailPricing
