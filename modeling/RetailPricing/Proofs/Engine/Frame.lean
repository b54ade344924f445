import RetailPricing.Engine.Pass
import RetailPricing.Proofs.Item.Bounds

/-!
# What a pass leaves alone

A pass changes items by resets and grants only, whichever rules it tries and
however it ends.  So every entry stays in its place with its product, and only
its discount depends on the rules.

Since a pass begins by taking back all discounts, it depends on the cart
through the products alone: two carts of the same products are priced alike,
and a second pass changes nothing.
-/

namespace RetailPricing

/-- Every item of `before` still has its place in `after`, where it has been
adjusted at most. -/
def Continues (before after : Cart) : Prop :=
  ∀ (position : Nat) (item : CartItem), before[position]? = some item →
    ∃ changed, after[position]? = some changed ∧ item.Adjusted changed

namespace Continues

variable {first second third : Cart}

theorem refl (cart : Cart) : Continues cart cart :=
  fun _ item found => ⟨item, found, .unchanged⟩

theorem trans (earlier : Continues first second) (later : Continues second third) :
    Continues first third := by
  intro position item found
  obtain ⟨middle, middleFound, toMiddle⟩ := earlier position item found
  obtain ⟨changed, changedFound, fromMiddle⟩ := later position middle middleFound
  exact ⟨changed, changedFound, toMiddle.trans fromMiddle⟩

/-- An item may be replaced by what it is adjusted to. -/
theorem set {position : Nat} {old item changed : CartItem}
    (continued : Continues first second) (found : first[position]? = some old)
    (present : second[position]? = some item) (adjusted : old.Adjusted changed) :
    Continues first (second.set position changed) := by
  intro other otherItem otherFound
  by_cases same : position = other
  · subst same
    have within : position < second.length :=
      (List.getElem?_eq_some_iff.1 present).1
    rw [found, Option.some.injEq] at otherFound
    exact ⟨changed, List.getElem?_set_self within, otherFound ▸ adjusted⟩
  · rw [List.getElem?_set_ne same]
    exact continued other otherItem otherFound

theorem append (cart further : Cart) : Continues cart (cart ++ further) := by
  intro position item found
  have within : position < cart.length := (List.getElem?_eq_some_iff.1 found).1
  exact ⟨item, (List.getElem?_append_left within).trans found, .unchanged⟩

theorem length_le (continued : Continues first second) :
    first.length ≤ second.length := by
  refine Nat.le_of_not_lt fun shorter => ?_
  obtain ⟨changed, found, _⟩ :=
    continued second.length first[second.length] (List.getElem?_eq_getElem shorter)
  rw [List.getElem?_eq_none (Nat.le_refl _)] at found
  cases found

theorem map_resetDiscount (cart : Cart) :
    Continues cart (cart.map Item.resetDiscount) := by
  intro position item found
  refine ⟨item.resetDiscount, ?_, Item.Adjusted.unchanged.reset⟩
  rw [List.getElem?_map, found, Option.map_some]

/-- Without further items, everything but the discounts is the same. -/
theorem map_resetDiscount_eq (continued : Continues first second)
    (sameLength : second.length = first.length) :
    second.map Item.resetDiscount = first.map Item.resetDiscount := by
  apply List.ext_getElem?
  intro position
  rw [List.getElem?_map, List.getElem?_map]
  cases found : first[position]? with
  | none =>
      have beyond : second[position]? = none := by
        rw [List.getElem?_eq_none_iff] at found ⊢
        omega
      rw [beyond]
  | some item =>
      obtain ⟨changed, changedFound, adjusted⟩ := continued position item found
      rw [changedFound, Option.map_some, Option.map_some, adjusted.resetDiscount_eq]

/-- Without further items, every item comes from one that was there. -/
theorem exists_adjusted (continued : Continues first second)
    (sameLength : second.length = first.length) {changed : CartItem}
    (member : changed ∈ second) : ∃ item ∈ first, item.Adjusted changed := by
  obtain ⟨position, within, rfl⟩ := List.mem_iff_getElem.1 member
  have present : position < first.length := sameLength ▸ within
  obtain ⟨found, foundAt, adjusted⟩ :=
    continued position first[position] (List.getElem?_eq_getElem present)
  rw [List.getElem?_eq_getElem within, Option.some.injEq] at foundAt
  exact ⟨first[position], List.getElem_mem present, foundAt ▸ adjusted⟩

end Continues

theorem continues_applyAt (action : Action) (positions : List Nat) (cart : Cart) :
    Continues cart (action.applyAt positions cart).1 := by
  induction positions generalizing cart with
  | nil => exact .refl cart
  | cons position rest ih =>
      dsimp only [Action.applyAt]
      split
      · exact ih cart
      next item found =>
          split
          next changed applied =>
              have step := (Continues.refl cart).set found found
                (Item.Adjusted.of_apply applied)
              exact step.trans (ih _)
          · exact .refl cart

theorem continues_applyActions (positions : List Nat) (actions : List Action)
    (cart : Cart) :
    Continues cart (applyActions positions actions cart).cart := by
  induction actions generalizing cart with
  | nil => exact .refl cart
  | cons action rest ih =>
      have step := continues_applyAt action positions cart
      dsimp only [applyActions]
      split
      next changed mishap applied =>
          rw [applied] at step
          exact step
      next changed applied =>
          rw [applied] at step
          exact step.trans (ih changed)

theorem continues_tryRule
    (select : PricingRule → Cart → Reported Interruption (List Nat))
    (index : Nat) (rule : PricingRule) (cart : Cart) :
    Continues cart (tryRule select index rule cart).cart := by
  dsimp only [tryRule]
  split
  · exact .refl cart
  · exact .refl cart
  · exact .refl cart
  next positions _ _ =>
      have step := continues_applyActions positions rule.actions cart
      split
      · exact step
      · exact step

theorem continues_runRules
    (select : PricingRule → Cart → Reported Interruption (List Nat))
    (index : Nat) (rules : List PricingRule) (cart : Cart) :
    Continues cart (runRules select index rules cart).cart := by
  induction rules generalizing index cart with
  | nil => exact .refl cart
  | cons rule rest ih =>
      have step := continues_tryRule select index rule cart
      rw [runRules]
      cases ended : (tryRule select index rule cart).broken with
      | some mishap =>
          rw [PassReport.followedBy_of_broken ended]
          exact step
      | none =>
          rw [PassReport.followedBy_of_complete ended]
          exact step.trans (ih (index + 1) _)

theorem continues_pass (rules : List PricingRule) (cart : Cart) :
    Continues cart (pass rules cart).cart :=
  (Continues.map_resetDiscount cart).trans (continues_runRules _ 0 rules _)

/-- A pass changes nothing but discounts. -/
theorem map_resetDiscount_pass (rules : List PricingRule) (cart : Cart) :
    (pass rules cart).cart.map Item.resetDiscount = cart.map Item.resetDiscount :=
  (continues_pass rules cart).map_resetDiscount_eq (length_pass rules cart)

/-- Discounts that have been taken back are gone. -/
@[simp]
theorem map_resetDiscount_map_resetDiscount (cart : Cart) :
    (cart.map Item.resetDiscount).map Item.resetDiscount =
      cart.map Item.resetDiscount := by
  rw [List.map_map]
  rfl

/-- Carts of the same products are priced alike. -/
theorem pass_eq_of_map_resetDiscount_eq (rules : List PricingRule)
    {first second : Cart}
    (sameProducts : first.map Item.resetDiscount = second.map Item.resetDiscount) :
    pass rules first = pass rules second := by
  rw [pass, sameProducts, pass]

/-- Nothing that a pass leaves makes the next one different. -/
theorem pass_pass (later earlier : List PricingRule) (cart : Cart) :
    pass later (pass earlier cart).cart = pass later cart :=
  pass_eq_of_map_resetDiscount_eq later (map_resetDiscount_pass earlier cart)

end RetailPricing
