import RetailPricing.Engine.Pass
import RetailPricing.Proofs.Item.Updates

/-!
# What a pass keeps of every item

A pass takes back the discounts and then changes items by actions only.  So a
property of items that holds without discount and outlasts every action holds of
the whole cart after a pass, also of one that broke off (`forall_mem_pass`).

In particular the discounts that a pass leaves are amounts, whatever numbers
callers had set before (`amountGranted_pass`).
-/

namespace RetailPricing

/-- The property outlasts every action that succeeds. -/
def KeptByActions (holds : CartItem → Prop) : Prop :=
  ∀ (action : Action) {item changed : CartItem},
    holds item → action.apply item = .ok changed → holds changed

section Kept

variable {holds : CartItem → Prop} (kept : KeptByActions holds)

include kept

theorem forall_mem_applyAt (action : Action) (positions : List Nat) {cart : Cart}
    (all : ∀ item ∈ cart, holds item) :
    ∀ item ∈ (action.applyAt positions cart).1, holds item := by
  induction positions generalizing cart with
  | nil => exact all
  | cons position rest ih =>
      dsimp only [Action.applyAt]
      split
      · exact ih all
      next item found =>
          split
          next changed applied =>
              have held : holds changed :=
                kept action (all item (List.mem_of_getElem? found)) applied
              refine ih fun other member => ?_
              rcases List.mem_or_eq_of_mem_set member with before | rfl
              · exact all other before
              · exact held
          · exact all

theorem forall_mem_applyActions (positions : List Nat) (actions : List Action) {cart : Cart}
    (all : ∀ item ∈ cart, holds item) :
    ∀ item ∈ (applyActions positions actions cart).cart, holds item := by
  induction actions generalizing cart with
  | nil => exact all
  | cons action rest ih =>
      have step := forall_mem_applyAt kept action positions all
      dsimp only [applyActions]
      split
      next changed mishap applied =>
          rw [applied] at step
          exact step
      next changed applied =>
          rw [applied] at step
          exact ih step

theorem forall_mem_tryRule
    (select : PricingRule → Cart → Reported Interruption (List Nat))
    (index : Nat) (rule : PricingRule) {cart : Cart} (all : ∀ item ∈ cart, holds item) :
    ∀ item ∈ (tryRule select index rule cart).cart, holds item := by
  dsimp only [tryRule]
  split
  · exact all
  · exact all
  · exact all
  next positions _ _ =>
      have step := forall_mem_applyActions kept positions rule.actions all
      split
      · exact step
      · exact step

theorem forall_mem_runRules
    (select : PricingRule → Cart → Reported Interruption (List Nat))
    (index : Nat) (rules : List PricingRule) {cart : Cart} (all : ∀ item ∈ cart, holds item) :
    ∀ item ∈ (runRules select index rules cart).cart, holds item := by
  induction rules generalizing index cart with
  | nil => exact all
  | cons rule rest ih =>
      have step := forall_mem_tryRule kept select index rule all
      rw [runRules]
      cases ended : (tryRule select index rule cart).broken with
      | some mishap =>
          rw [PassReport.followedBy_of_broken ended]
          exact step
      | none =>
          rw [PassReport.followedBy_of_complete ended]
          exact ih (index + 1) step

/-- What holds without discount and outlasts the actions holds after a pass. -/
theorem forall_mem_pass (rules : List PricingRule) {cart : Cart}
    (unreduced : ∀ item ∈ cart, holds item.resetDiscount) :
    ∀ item ∈ (pass rules cart).cart, holds item :=
  forall_mem_runRules kept Rule.selectPositions 0 rules (List.forall_mem_map.2 unreduced)

end Kept

/-- The discount is an amount, as rules grant it. -/
def Item.AmountGranted (item : CartItem) : Prop :=
  ∃ granted, item.discount = .ofAmount granted

theorem keptByActions_amountGranted : KeptByActions Item.AmountGranted := by
  rintro action item changed ⟨granted, discounted⟩ applied
  have same : item = item.withDiscount granted := by
    rw [Item.withDiscount, ← discounted]
  rw [same, Action.apply_withDiscount, Outcome.mapError_eq_ok_iff,
    Outcome.map_eq_ok_iff] at applied
  obtain ⟨final, _, rfl⟩ := applied
  exact ⟨final, rfl⟩

theorem amountGranted_pass (rules : List PricingRule) (cart : Cart) :
    ∀ item ∈ (pass rules cart).cart, item.AmountGranted :=
  forall_mem_pass keptByActions_amountGranted rules fun _ _ => ⟨.zero, rfl⟩

end RetailPricing
