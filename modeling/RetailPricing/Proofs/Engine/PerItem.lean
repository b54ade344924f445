import RetailPricing.Proofs.Engine.Attempts
import RetailPricing.Proofs.Engine.Independence

/-!
# The discount of an item is its own affair

A pass goes through rules, actions and entries, in this order.  The discount
that it leaves on one entry can be worked out without the others: start from no
discount and apply the actions of those rules that pick the entry, in their
order.  Which rules pick it is told by the cart without discounts, so no rule
sees what an earlier one has done.
-/

namespace RetailPricing

namespace Rule

/-- The rule can be evaluated for the cart and selects the position. -/
def picksAt (rule : PricingRule) (cart : Cart) (position : Nat) : Bool :=
  match (rule.selectPositions cart).outcome with
  | .ok positions => position ∈ positions
  | .error _ => false

theorem actionsAt_eq_ite (rule : PricingRule) (cart : Cart) (position : Nat) :
    rule.actionsAt cart position = if rule.picksAt cart position then rule.actions else [] := by
  rw [actionsAt, picksAt]
  cases (rule.selectPositions cart).outcome with
  | error interruption => rfl
  | ok positions => simp

end Rule

/-- The actions that reach a position are those of the rules that pick it. -/
theorem actionsReaching_eq_flatMap (rules : List PricingRule) (cart : Cart) (position : Nat) :
    actionsReaching rules cart position =
      (rules.filter fun rule => rule.picksAt cart position).flatMap Rule.actions := by
  induction rules with
  | nil => rfl
  | cons rule rest ih =>
      rw [actionsReaching, List.flatMap_cons, Rule.actionsAt_eq_ite]
      rw [actionsReaching] at ih
      rw [ih, List.filter_cons]
      by_cases picks : rule.picksAt cart position
      · rw [if_pos picks, if_pos picks, List.flatMap_cons]
      · rw [if_neg picks, if_neg picks, List.nil_append]

/-- The rules that pick a position of the cart before any discount is granted. -/
def rulesPicking (rules : List PricingRule) (cart : Cart) (position : Nat) :
    List PricingRule :=
  rules.filter fun rule => rule.picksAt (cart.map Item.resetDiscount) position

theorem actionsReaching_eq_actions_rulesPicking (rules : List PricingRule) (cart : Cart)
    (position : Nat) :
    actionsReaching rules cart position =
      (rulesPicking rules cart position).flatMap Rule.actions := by
  have undiscounted := congrFun (actionsReaching_eq_of_map_resetDiscount_eq rules
    (map_resetDiscount_map_resetDiscount cart)) position
  rw [← undiscounted, actionsReaching_eq_flatMap, rulesPicking]

/-- What a pass that comes to its end leaves on an entry is told by the price of
the entry and the actions of the rules that pick it. -/
theorem getElem?_pass_of_runsToEnd {rules : List PricingRule} {cart : Cart}
    (ends : (pass rules cart).RunsToEnd) {position : Nat} {item : CartItem}
    (found : cart[position]? = some item) :
    ∃ granted,
      Action.discountAfterAll ((rulesPicking rules cart position).flatMap Rule.actions)
          item.price .zero = .ok granted ∧
        (pass rules cart).cart[position]? = some (item.withDiscount granted) := by
  rw [← actionsReaching_eq_actions_rulesPicking]
  exact getElem?_pass_of_complete (PassReport.runsToEnd_iff.1 ends) found

/-- A pass that comes to its end leaves on every entry what the actions of the
rules that pick it make of the entry without discount, one after the other; an
entry that no rule picks has no discount.  So entries of one price that are
picked for the same actions end with the same discount, whatever carts they
stand in and whatever else these carts hold. -/
theorem pass_folds_each_item (rules : List PricingRule) (cart : Cart)
    (ends : (pass rules cart).RunsToEnd) :
    (∀ (position : Nat) (item : CartItem), cart[position]? = some item →
      ∃ final,
        Action.applyAll ((rulesPicking rules cart position).flatMap Rule.actions)
            item.resetDiscount = .ok final ∧
          (pass rules cart).cart[position]? = some final ∧
          (rulesPicking rules cart position = [] → final.discount = .zero)) ∧
      ∀ (otherRules : List PricingRule) (otherCart : Cart),
        (pass otherRules otherCart).RunsToEnd →
        ∀ (position place : Nat) (item other : CartItem),
          cart[position]? = some item → otherCart[place]? = some other →
          item.price = other.price →
          (rulesPicking rules cart position).flatMap Rule.actions =
            (rulesPicking otherRules otherCart place).flatMap Rule.actions →
          (pass rules cart).cart[position]?.map Item.discount =
            (pass otherRules otherCart).cart[place]?.map Item.discount := by
  constructor
  · intro position item found
    obtain ⟨granted, folded, there⟩ := getElem?_pass_of_runsToEnd ends found
    refine ⟨item.withDiscount granted, ?_, there, fun unpicked => ?_⟩
    · rw [applyAll_resetDiscount, folded]
      rfl
    · rw [unpicked] at folded
      exact congrArg Number.ofAmount (Except.ok.inj folded).symm
  · intro otherRules otherCart otherEnds position place item other found otherFound
      samePrice sameActions
    obtain ⟨granted, folded, there⟩ := getElem?_pass_of_runsToEnd ends found
    obtain ⟨otherGranted, otherFolded, otherThere⟩ :=
      getElem?_pass_of_runsToEnd otherEnds otherFound
    rw [samePrice, sameActions, otherFolded] at folded
    rw [there, otherThere, Except.ok.inj folded]
    rfl

/-- A fixed price for all that is no mug, three or more of it. -/
def clearance : PricingRule :=
  ⟨[⟨.itemCode, .neq, .text (.plain "MUG")⟩, ⟨.quantityTotal, .gte, .integer 3⟩],
    [⟨.discountPercent, .ofInt 50⟩, ⟨.fixedPrice, .ofInt 15⟩], .null⟩

theorem clearance_folds_each_shirt :
    let rules := [clearance, shirtOffer, mugOffer]
    let cart := [shirt .zero, mug, shirt (.integer 7), shirt .zero]
    (pass rules cart).RunsToEnd ∧
      ∃ final,
        Action.applyAll ((rulesPicking rules cart 2).flatMap Rule.actions)
            (shirt .zero) = .ok final ∧
          (pass rules cart).cart[2]? = some final ∧
          (rulesPicking rules cart 2 = [] → final.discount = .zero) := by
  intro rules cart
  have ends : (pass rules cart).RunsToEnd := PassReport.runsToEnd_iff.2 (by decide +kernel)
  exact ⟨ends, (pass_folds_each_item rules cart ends).1 2 (shirt (.integer 7)) rfl⟩

end RetailPricing
