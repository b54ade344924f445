import RetailPricing.Proofs.Checkout.Repricing
import RetailPricing.Proofs.Engine.DeclarationOrder
import RetailPricing.Proofs.Value.Order

/-!
# Carts that grow

Entries are appended to a cart and never leave it.  What a rule selects grows with the
cart, as long as its conditions on the number of entries only ask for enough of them:
further entries can complete a group, but they take no place away from those in front of
them (`scanning_more_never_deselects`).

Three things carry this.  The admitted entries of the longer cart begin with those of the
shorter one (`matching_append`), a lower bound that was met is not missed later
(`IsLowerBound.rejects_of_le`), and each group condition leaves more of more entries
(`membersLeft_mono`).
-/

namespace RetailPricing

namespace Condition

/-- The condition asks for more than some whole number, or for at least that many. -/
def IsLowerBound (condition : Condition) : Prop :=
  (condition.operator = .gt ∨ condition.operator = .gte) ∧
    ∃ least : Int, condition.value = .integer least

namespace IsLowerBound

variable {condition : Condition} (bound : condition.IsLowerBound)

include bound

theorem isIllTyped_eq_false (total : condition.kind = .quantityTotal) :
    condition.isIllTyped = false := by
  obtain ⟨_, least, whole⟩ := bound
  rw [isIllTyped, total, whole]

/-- What is too few now has been too few with less. -/
theorem rejects_of_le {fewer count : Nat} (atMost : fewer ≤ count)
    (rejected : condition.rejects (.integer count) = true) :
    condition.rejects (.integer fewer) = true := by
  obtain ⟨kind, operator, value⟩ := condition
  obtain ⟨asks, least, rfl⟩ := bound
  have rejects_iff (n : Nat) : rejects ⟨kind, operator, .integer least⟩ (.integer n) = true ↔
      ¬ operator.Relates (n : Int) least := by
    rw [← Operator.holds_compare_iff, Bool.not_eq_true]
    simp [rejects, evaluate, Value.compare]
  rw [rejects_iff] at rejected ⊢
  have atMost : (fewer : Int) ≤ count := Int.ofNat_le.2 atMost
  rcases asks with rfl | rfl
  · exact fun enough => rejected (enough.trans_le atMost)
  · exact fun enough => rejected (enough.trans atMost)

end IsLowerBound

end Condition

theorem membersLeft_mono (conditions : List Condition) {fewer count : Nat}
    (atMost : fewer ≤ count) : membersLeft conditions fewer ≤ membersLeft conditions count := by
  induction conditions generalizing fewer count with
  | nil => exact atMost
  | cons condition rest ih => exact ih (eligibleMembers_mono condition.groupSize atMost)

namespace Rule

variable {rule : PricingRule}

/-- Of more admitted entries a rule with lower bounds selects at least as many. -/
theorem quota_mono
    (bounds : ∀ condition ∈ rule.conditionsOf .quantityTotal, condition.IsLowerBound)
    {fewer count : Nat} (atMost : fewer ≤ count) : rule.quota fewer ≤ rule.quota count := by
  have stillRefused (refused : rule.refuses count = true) : rule.refuses fewer = true := by
    obtain ⟨condition, member, rejected⟩ := List.any_eq_true.1 refused
    exact List.any_eq_true.2
      ⟨condition, member, (bounds condition member).rejects_of_le atMost rejected⟩
  rw [quota, quota]
  by_cases refused : rule.refuses fewer = true
  · rw [if_pos refused]
    exact Nat.zero_le _
  · rw [if_neg refused, if_neg (mt stillRefused refused)]
    exact membersLeft_mono _ atMost

theorem quota_le (rule : PricingRule) (count : Nat) : rule.quota count ≤ count := by
  rw [quota]
  split
  · exact Nat.zero_le count
  · exact membersLeft_le _ count

/-- The admitted entries of a longer cart begin with those of the shorter one. -/
theorem matching_append (rule : PricingRule) (cart further : Cart) :
    rule.matching cart <+: rule.matching (cart ++ further) := by
  rw [matching, matching, List.zipIdx_append, List.filter_append, List.map_append]
  exact List.prefix_append _ _

/-- Without ill-typed conditions a rule can be evaluated for any cart. -/
theorem exists_selectPositions_eq_ok
    (codes : ∀ condition ∈ rule.conditionsOf .itemCode, condition.isIllTyped = false)
    (totals : ∀ condition ∈ rule.conditionsOf .quantityTotal, condition.isIllTyped = false)
    (cart : Cart) : ∃ positions, (rule.selectPositions cart).outcome = .ok positions := by
  cases ended : (rule.selectPositions cart).outcome with
  | ok positions => exact ⟨positions, rfl⟩
  | error interruption =>
      cases acts : rule.isNoop with
      | true =>
          rw [selectPositions_of_noop acts] at ended
          cases ended
      | false =>
          have stopped := (exists_select_eq_error_iff id acts (cart.map Item.code)).1
            ⟨interruption, selectPositions_eq_error_iff.1 ended⟩
          simp [Condition.comesToIllTyped_of_wellTyped codes,
            Condition.comesToIllTyped_of_wellTyped totals] at stopped

/-- What is selected of a cart is selected in front of all else when entries are appended. -/
theorem selectPositions_append
    (codes : ∀ condition ∈ rule.conditionsOf .itemCode, condition.isIllTyped = false)
    (bounds : ∀ condition ∈ rule.conditionsOf .quantityTotal, condition.IsLowerBound)
    (cart further : Cart) :
    ∃ positions more, (rule.selectPositions cart).outcome = .ok positions ∧
      (rule.selectPositions (cart ++ further)).outcome = .ok more ∧ positions <+: more := by
  have totals : ∀ condition ∈ rule.conditionsOf .quantityTotal, condition.isIllTyped = false :=
    fun condition member =>
      (bounds condition member).isIllTyped_eq_false (kind_of_mem_conditionsOf member)
  obtain ⟨positions, selected⟩ := exists_selectPositions_eq_ok codes totals cart
  obtain ⟨more, moreSelected⟩ := exists_selectPositions_eq_ok codes totals (cart ++ further)
  refine ⟨positions, more, selected, moreSelected, ?_⟩
  cases acts : rule.isNoop with
  | true =>
      rw [selectPositions_of_noop acts] at selected
      obtain rfl := Except.ok.inj selected
      exact List.nil_prefix
  | false =>
      have longer := (rule.matching_append cart further).length_le
      obtain ⟨behind, split⟩ := rule.matching_append cart further
      have taken : positions =
          (rule.matching (cart ++ further)).take (rule.quota (rule.matching cart).length) := by
        rw [selectPositions_eq_ok acts selected, ← split,
          List.take_append_of_le_length (rule.quota_le _)]
      rw [taken, selectPositions_eq_ok acts moreSelected]
      exact List.take_prefix_take_left (quota_mono bounds longer)

/-- Entries keep their positions when others are appended. -/
theorem entriesAt_append {positions : List Nat} {cart : Cart}
    (within : ∀ position ∈ positions, position < cart.length) (further : Cart) :
    entriesAt positions (cart ++ further) = entriesAt positions cart :=
  List.filterMap_congr fun position member => List.getElem?_append_left (within position member)

/-- Take a rule with code conditions that are well typed and with lower bounds only for the
number of entries.  What it selects of a cart is the beginning of what it selects of the cart
with further entries behind it.  So what it selects at a checkout stays selected, whatever is
scanned later and whatever becomes of the passes. -/
theorem scanning_more_never_deselects (rule : PricingRule)
    (codes : ∀ condition ∈ rule.conditionsOf .itemCode, condition.isIllTyped = false)
    (bounds : ∀ condition ∈ rule.conditionsOf .quantityTotal, condition.IsLowerBound) :
    (∀ cart further : Cart, ∃ positions more,
      (rule.selectPositions cart).outcome = .ok positions ∧
        (rule.selectPositions (cart ++ further)).outcome = .ok more ∧
        positions <+: more ∧
        entriesAt positions cart <+: entriesAt more (cart ++ further)) ∧
      ∀ (checkout : Checkout) (deeds : List CheckoutDeed), ∃ positions more,
        (rule.selectPositions checkout.cart).outcome = .ok positions ∧
          (rule.selectPositions (checkout.after deeds).cart).outcome = .ok more ∧
          positions <+: more := by
  constructor
  · intro cart further
    obtain ⟨positions, more, selected, moreSelected, beginning⟩ :=
      selectPositions_append codes bounds cart further
    refine ⟨positions, more, selected, moreSelected, beginning, ?_⟩
    have within : ∀ position ∈ positions, position < cart.length := fun position member =>
      List.mem_range.1 (((rule.picks_selectPositions cart).sublist selected).subset member)
    rw [← entriesAt_append within further]
    exact beginning.filterMap _
  · intro checkout deeds
    have products : (checkout.after deeds).cart.map Item.resetDiscount =
        (checkout.cart ++ checkout.taken deeds).map Item.resetDiscount := by
      rw [checkout.products_after, List.map_append]
      rfl
    rw [rule.selectPositions_eq_of_map_resetDiscount_eq products]
    exact selectPositions_append codes bounds checkout.cart (checkout.taken deeds)

end Rule

/-- One of two for a tenth less, of all that is no cap and if there are more than two of
it. -/
def pairOffer : PricingRule :=
  ⟨[⟨.quantityTotal, .gt, .integer 2⟩, ⟨.xQuantity, .eq, .integer 2⟩,
      ⟨.itemCode, .neq, .text (.plain "CAP")⟩],
    [⟨.discountPercent, .ofInt 10⟩], .null⟩

theorem second_pair_keeps_the_first :
    let cart := ["MUG", "CAP", "MUG", "PEN"].map product
    let further := ["CAP", "PEN"].map product
    (∀ condition ∈ pairOffer.conditionsOf .itemCode, condition.isIllTyped = false) ∧
      (∀ condition ∈ pairOffer.conditionsOf .quantityTotal, condition.IsLowerBound) ∧
      (pairOffer.selectPositions cart).outcome = .ok [0] ∧
      (pairOffer.selectPositions (cart ++ further)).outcome = .ok [0, 2] ∧
      [0] <+: [0, 2] := by
  intro cart further
  have codes : ∀ condition ∈ pairOffer.conditionsOf .itemCode, condition.isIllTyped = false := by
    decide
  have bounds : ∀ condition ∈ pairOffer.conditionsOf .quantityTotal, condition.IsLowerBound := by
    intro condition member
    obtain rfl := List.mem_singleton.1 member
    exact ⟨.inl rfl, 2, rfl⟩
  obtain ⟨positions, more, selected, moreSelected, beginning, _⟩ :=
    (Rule.scanning_more_never_deselects pairOffer codes bounds).1 cart further
  have first : positions = [0] := (Except.ok.inj selected).symm
  have both : more = [0, 2] := (Except.ok.inj moreSelected).symm
  subst first both
  exact ⟨codes, bounds, selected, moreSelected, beginning⟩

end RetailPricing
