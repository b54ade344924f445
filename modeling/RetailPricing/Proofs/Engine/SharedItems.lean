import RetailPricing.Proofs.Engine.Frame
import RetailPricing.Proofs.Engine.Selection

/-!
# Passes over shared items

Callers may keep items outside of any cart and put one item into several carts,
or into one cart several times.  Such a cart is a row of positions in a list of
items, and a pass over it works on the items themselves: an item that stands in
the cart twice is discounted twice.

On the cart in which every item stands once, in order, this is the plain pass
(`passOver_range`).
-/

namespace RetailPricing

/-- The items that a cart refers to. -/
def entriesAt (positions : List Nat) (items : Cart) : Cart :=
  positions.filterMap (items[·]?)

/-- Entries that exist stand in their cart in order. -/
theorem getElem?_entriesAt {positions : List Nat} {items : Cart}
    (present : ∀ position ∈ positions, position < items.length) (index : Nat) :
    (entriesAt positions items)[index]? = positions[index]?.bind (items[·]?) := by
  induction positions generalizing index with
  | nil => simp [entriesAt]
  | cons position rest ih =>
      have within : position < items.length := present position List.mem_cons_self
      have restPresent : ∀ other ∈ rest, other < items.length := fun other member =>
        present other (List.mem_cons_of_mem position member)
      rw [entriesAt, List.filterMap_cons, List.getElem?_eq_getElem within]
      cases index with
      | zero => simp [List.getElem?_eq_getElem within]
      | succ index => exact ih restPresent index

theorem length_entriesAt {positions : List Nat} {items : Cart}
    (present : ∀ position ∈ positions, position < items.length) :
    (entriesAt positions items).length = positions.length := by
  induction positions with
  | nil => rfl
  | cons position rest ih =>
      rw [List.forall_mem_cons] at present
      rw [entriesAt, List.filterMap_cons, List.getElem?_eq_getElem present.1]
      exact congrArg (· + 1) (ih present.2)

theorem entriesAt_range' (items further : Cart) :
    entriesAt (List.range' items.length further.length) (items ++ further) = further := by
  apply List.ext_getElem?
  intro index
  rw [getElem?_entriesAt]
  · by_cases within : index < further.length
    · rw [List.getElem?_range' within, Option.bind_some, Nat.one_mul,
        List.getElem?_append_right (Nat.le_add_right _ _), Nat.add_sub_cancel_left]
    · have beyond : further.length ≤ index := Nat.le_of_not_lt within
      rw [List.getElem?_eq_none beyond,
        List.getElem?_eq_none (List.length_range'.trans_le beyond)]
      rfl
  · intro position member
    rw [List.length_append]
    exact (List.mem_range'_1.1 member).2

theorem entriesAt_range (items : Cart) :
    entriesAt (List.range items.length) items = items := by
  rw [List.range_eq_range']
  exact entriesAt_range' [] items

/-- The positions in `items` that a rule selects for the cart `entries`. -/
def Rule.selectAmong (entries : List Nat) (rule : PricingRule) (items : Cart) :
    Reported Interruption (List Nat) :=
  (rule.selectPositions (entriesAt entries items)).mapResult fun positions =>
    positions.filterMap (entries[·]?)

/-- One pass of the rules over the items that the cart `entries` refers to. -/
def passOver (entries : List Nat) (rules : List PricingRule) (items : Cart) :
    PassReport :=
  let report := runRules (Rule.selectAmong entries) 0 rules
    (items.mapIdx fun position item =>
      if position ∈ entries then item.resetDiscount else item)
  { report with journal := report.journal ++ [.count .passTimed] }

theorem continues_passOver (entries : List Nat) (rules : List PricingRule)
    (items : Cart) : Continues items (passOver entries rules items).cart := by
  refine Continues.trans ?_ (continues_runRules _ 0 rules _)
  intro position item found
  refine ⟨if position ∈ entries then item.resetDiscount else item, ?_, ?_⟩
  · rw [List.getElem?_mapIdx, found, Option.map_some]
  · split
    · exact Item.Adjusted.unchanged.reset
    · exact .unchanged

theorem length_passOver (entries : List Nat) (rules : List PricingRule) (items : Cart) :
    (passOver entries rules items).cart.length = items.length :=
  (length_runRules _ 0 rules _).trans List.length_mapIdx

/-- Rules are tried alike when they select alike in carts of this size. -/
theorem runRules_congr
    {select other : PricingRule → Cart → Reported Interruption (List Nat)} {size : Nat}
    (same : ∀ rule cart, cart.length = size → select rule cart = other rule cart)
    (index : Nat) (rules : List PricingRule) {cart : Cart} (sized : cart.length = size) :
    runRules select index rules cart = runRules other index rules cart := by
  induction rules generalizing index cart with
  | nil => rfl
  | cons rule rest ih =>
      have sameTry : tryRule select index rule cart = tryRule other index rule cart := by
        rw [tryRule, tryRule, same rule cart sized]
      have sizedAfter : (tryRule other index rule cart).cart.length = size :=
        (length_tryRule other index rule cart).trans sized
      rw [runRules, runRules, sameTry]
      cases ended : (tryRule other index rule cart).broken with
      | some mishap =>
          rw [PassReport.followedBy_of_broken ended,
            PassReport.followedBy_of_broken ended]
      | none =>
          rw [PassReport.followedBy_of_complete ended,
            PassReport.followedBy_of_complete ended, ih (index + 1) sizedAfter]

theorem selectAmong_range (rule : PricingRule) (cart : Cart) :
    rule.selectAmong (List.range cart.length) cart = rule.selectPositions cart := by
  have picks := rule.picks_selectPositions cart
  rw [Rule.selectAmong, entriesAt_range]
  ext1
  · rfl
  · change Except.map _ _ = _
    cases ended : (rule.selectPositions cart).outcome with
    | error interruption => rfl
    | ok positions =>
        have within : ∀ position ∈ positions, position < cart.length := fun position member =>
          List.mem_range.1 ((picks.sublist ended).subset member)
        have sameMembers : ∀ position ∈ positions,
            (List.range cart.length)[position]? = some position := fun position member =>
          List.getElem?_range (within position member)
        rw [Except.map, List.filterMap_congr sameMembers, List.filterMap_some]

/-- A cart in which every item stands once is priced as such. -/
theorem passOver_range (rules : List PricingRule) (cart : Cart) :
    passOver (List.range cart.length) rules cart = pass rules cart := by
  have resets : (cart.mapIdx fun position item =>
      if position ∈ List.range cart.length then item.resetDiscount else item) =
        cart.map Item.resetDiscount := by
    apply List.ext_getElem?
    intro position
    rw [List.getElem?_mapIdx, List.getElem?_map]
    cases found : cart[position]? with
    | none => rfl
    | some item =>
        have within : position < cart.length := (List.getElem?_eq_some_iff.1 found).1
        simp only [Option.map_some, List.mem_range, if_pos within]
  have sameSelection : ∀ rule other, other.length = cart.length →
      Rule.selectAmong (List.range cart.length) rule other = rule.selectPositions other := by
    intro rule other sized
    rw [← sized]
    exact selectAmong_range rule other
  rw [passOver, resets, pass,
    runRules_congr sameSelection 0 rules (List.length_map Item.resetDiscount)]

end RetailPricing
