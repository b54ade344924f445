import RetailPricing.Proofs.Checkout.Totals
import RetailPricing.Proofs.Engine.PerItem
import RetailPricing.Proofs.Item.Values

/-!
# Pricing over rational numbers

Without rounding, pricing is short to tell: a fixed price sets the discount to
the distance from the price, but not below nothing, and a percentage adds its
share, but not beyond the price (`exactDiscount`).  A pass agrees with this
computation whenever none of the numbers that arise in it needs rounding
(`NeedsNoRounding`), and then no arithmetic stops it.

Shares that are only added, up to the price, may be added in any order.  So a
rule list that grants nothing but percentages may be reordered.
-/

namespace RetailPricing

open WorkingPrecision (money)

namespace Action

/-- The discount that the action makes of another one. -/
def exactDiscount (action : Action) (price granted : ℚ) : ℚ :=
  match action.kind with
  | .fixedPrice => max 0 (price - action.value.value)
  | .discountPercent => min price (granted + price * action.value.value / 100)

/-- The discount that actions make of another one, in their order. -/
def exactDiscountAll (actions : List Action) (price granted : ℚ) : ℚ :=
  actions.foldl (fun granted action => action.exactDiscount price granted) granted

/-- The numbers that arise on the way have a place within the precision of
money. -/
def ComputesExactly (action : Action) (price granted : ℚ) : Prop :=
  match action.kind with
  | .fixedPrice => money.Represents (price - action.value.value)
  | .discountPercent =>
      money.Represents (price * action.value.value) ∧
        money.Represents (price * action.value.value / 100) ∧
        money.Represents (granted + price * action.value.value / 100)

/-- No action on the way from this discount needs rounding. -/
def AllComputeExactly : List Action → (price granted : ℚ) → Prop
  | [], _, _ => True
  | action :: rest, price, granted =>
      action.ComputesExactly price granted ∧
        AllComputeExactly rest price (action.exactDiscount price granted)

variable {action : Action} {price granted : ℚ}

theorem exactDiscount_nonneg (priceNonneg : 0 ≤ price) (valueNonneg : 0 ≤ action.value.value)
    (grantedNonneg : 0 ≤ granted) : 0 ≤ action.exactDiscount price granted := by
  rw [exactDiscount]
  cases action.kind with
  | fixedPrice => exact le_max_left _ _
  | discountPercent => exact le_min priceNonneg (by positivity)

/-- Where nothing is rounded, an action does what it does over rational numbers. -/
theorem valueAfter_of_computesExactly (priceNonneg : 0 ≤ price)
    (valueNonneg : 0 ≤ action.value.value) (grantedNonneg : 0 ≤ granted)
    (exact : action.ComputesExactly price granted) :
    action.valueAfter price granted = .ok (action.exactDiscount price granted) := by
  rw [valueAfter, wantedValue, exactDiscount]
  rw [ComputesExactly] at exact
  cases known : action.kind with
  | fixedPrice =>
      rw [known] at exact
      dsimp only at exact ⊢
      have below : price - action.value.value ≤ price := sub_le_self price valueNonneg
      rw [WorkingPrecision.keep_of_represents exact, Except.map, boundedValue,
        min_eq_right below]
  | discountPercent =>
      rw [known] at exact
      obtain ⟨product, hundredth, sum⟩ := exact
      have nonneg : 0 ≤ min price (granted + price * action.value.value / 100) :=
        le_min priceNonneg (by positivity)
      dsimp only
      rw [WorkingPrecision.keep_of_represents product]
      change (money.keep (price * action.value.value / 100) >>= _).map _ = _
      rw [WorkingPrecision.keep_of_represents hundredth]
      change (money.keep (granted + price * action.value.value / 100)).map _ = _
      rw [WorkingPrecision.keep_of_represents sum, Except.map, boundedValue,
        max_eq_right nonneg]

theorem valueAfterAll_of_allComputeExactly {actions : List Action} (priceNonneg : 0 ≤ price)
    (valuesNonneg : ∀ action ∈ actions, 0 ≤ action.value.value) (grantedNonneg : 0 ≤ granted)
    (exact : AllComputeExactly actions price granted) :
    valueAfterAll actions price granted = .ok (exactDiscountAll actions price granted) := by
  induction actions generalizing granted with
  | nil => rfl
  | cons action rest ih =>
      obtain ⟨here, later⟩ := exact
      have valueNonneg := valuesNonneg action List.mem_cons_self
      rw [valueAfterAll, List.foldlM_cons,
        valueAfter_of_computesExactly priceNonneg valueNonneg grantedNonneg here]
      exact ih (fun other member => valuesNonneg other (List.mem_cons_of_mem action member))
        (exactDiscount_nonneg priceNonneg valueNonneg grantedNonneg) later

/-- What was cut off at the price would be cut off later. -/
theorem min_add_min_add {share : ℚ} (nonneg : 0 ≤ share) (sum : ℚ) :
    min price (min price sum + share) = min price (sum + share) := by
  rw [← min_add_add_right, ← min_assoc, min_eq_left (le_add_of_nonneg_right nonneg)]

theorem exactDiscount_comm {first second : Action} (priceNonneg : 0 ≤ price)
    (firstPercent : first.kind = .discountPercent)
    (secondPercent : second.kind = .discountPercent)
    (firstNonneg : 0 ≤ first.value.value) (secondNonneg : 0 ≤ second.value.value)
    (granted : ℚ) :
    second.exactDiscount price (first.exactDiscount price granted) =
      first.exactDiscount price (second.exactDiscount price granted) := by
  simp only [exactDiscount, firstPercent, secondPercent]
  rw [min_add_min_add (by positivity), min_add_min_add (by positivity), add_right_comm]

/-- Percentages may be granted in any order. -/
theorem exactDiscountAll_perm {actions reordered : List Action}
    (perm : actions.Perm reordered) (priceNonneg : 0 ≤ price)
    (percents : ∀ action ∈ actions, action.kind = .discountPercent)
    (valuesNonneg : ∀ action ∈ actions, 0 ≤ action.value.value) (granted : ℚ) :
    exactDiscountAll actions price granted = exactDiscountAll reordered price granted :=
  perm.foldl_eq' (fun first firstMember second secondMember granted =>
    exactDiscount_comm priceNonneg (percents first firstMember) (percents second secondMember)
      (valuesNonneg first firstMember) (valuesNonneg second secondMember) granted) granted

end Action

/-- The actions of the rules that pick a position, in their order. -/
def actionsPicking (rules : List PricingRule) (cart : Cart) (position : Nat) : List Action :=
  (rulesPicking rules cart position).flatMap Rule.actions

theorem mem_actionsPicking {rules : List PricingRule} {cart : Cart} {position : Nat}
    {action : Action} (member : action ∈ actionsPicking rules cart position) :
    ∃ rule ∈ rules, action ∈ rule.actions := by
  obtain ⟨rule, picks, declared⟩ := List.mem_flatMap.1 member
  exact ⟨rule, (List.mem_filter.1 picks).1, declared⟩

theorem actionsPicking_perm {rules reordered : List PricingRule}
    (perm : rules.Perm reordered) (cart : Cart) (position : Nat) :
    (actionsPicking rules cart position).Perm (actionsPicking reordered cart position) :=
  (perm.filter _).flatMap_right Rule.actions

/-- No number that arises in pricing the cart over rational numbers needs
rounding. -/
def NeedsNoRounding (rules : List PricingRule) (cart : Cart) : Prop :=
  ∀ (position : Nat) (item : CartItem), cart[position]? = some item →
    Action.AllComputeExactly (actionsPicking rules cart position) item.price.value 0

section Passes

variable {rules : List PricingRule} {cart : Cart}
  (pricesNonneg : ∀ item ∈ cart, 0 ≤ item.price.value)
  (valuesNonneg : ∀ rule ∈ rules, ∀ action ∈ rule.actions, 0 ≤ action.value.value)

include pricesNonneg valuesNonneg

/-- What the actions that reach an entry make of nothing. -/
theorem map_value_discountAfterAll_of_needsNoRounding (unrounded : NeedsNoRounding rules cart)
    {position : Nat} {item : CartItem} (found : cart[position]? = some item) :
    (Action.discountAfterAll (actionsPicking rules cart position) item.price .zero).map
        Amount.value =
      .ok (Action.exactDiscountAll (actionsPicking rules cart position) item.price.value 0) := by
  have nonneg := pricesNonneg item (List.mem_of_getElem? found)
  rw [Action.map_value_discountAfterAll _ nonneg, Amount.value_zero]
  refine Action.valueAfterAll_of_allComputeExactly nonneg ?_ le_rfl
    (unrounded position item found)
  intro action member
  obtain ⟨rule, ruleMember, declared⟩ := mem_actionsPicking member
  exact valuesNonneg rule ruleMember action declared

theorem runsToEnd_of_needsNoRounding (unrounded : NeedsNoRounding rules cart) :
    (pass rules cart).RunsToEnd := by
  rw [PassReport.runsToEnd_iff]
  rcases broken_pass rules cart with ⟨complete, _⟩ | ⟨_, position, item, found, overflowed⟩
  · exact complete
  · have computed := map_value_discountAfterAll_of_needsNoRounding pricesNonneg valuesNonneg
      unrounded found
    rw [actionsReaching_eq_actions_rulesPicking] at overflowed
    rw [actionsPicking, overflowed] at computed
    cases computed

/-- A pass that needs no rounding leaves every entry with the exact discount. -/
theorem getElem?_pass_of_needsNoRounding (unrounded : NeedsNoRounding rules cart)
    {position : Nat} {item : CartItem} (found : cart[position]? = some item) :
    ∃ granted, (pass rules cart).cart[position]? = some (item.withDiscount granted) ∧
      granted.value =
        Action.exactDiscountAll (actionsPicking rules cart position) item.price.value 0 := by
  have ends := runsToEnd_of_needsNoRounding pricesNonneg valuesNonneg unrounded
  have computed := map_value_discountAfterAll_of_needsNoRounding pricesNonneg valuesNonneg
    unrounded found
  obtain ⟨granted, folded, there⟩ := getElem?_pass_of_runsToEnd ends found
  rw [actionsPicking, folded] at computed
  exact ⟨granted, there, Except.ok.inj computed⟩

end Passes

/-- Where no number that arises over rational numbers needs rounding, a pass comes
to its end and leaves every entry with the discount that the actions of the rules
picking it make of nothing over rational numbers.  So rules that grant nothing but
percentages leave the same discounts in any order that needs no rounding.  Entries
are distinct objects: each has the actions of those rules only that pick its own
position. -/
theorem pass_agrees_with_rationals (rules : List PricingRule) (cart : Cart)
    (pricesNonneg : ∀ item ∈ cart, 0 ≤ item.price.value)
    (valuesNonneg : ∀ rule ∈ rules, ∀ action ∈ rule.actions, 0 ≤ action.value.value)
    (unrounded : NeedsNoRounding rules cart) :
    ((pass rules cart).RunsToEnd ∧
      ∀ (position : Nat) (item : CartItem), cart[position]? = some item →
        ∃ granted, (pass rules cart).cart[position]? = some (item.withDiscount granted) ∧
          granted.value =
            Action.exactDiscountAll (actionsPicking rules cart position) item.price.value 0) ∧
      ∀ reordered : List PricingRule, rules.Perm reordered →
        (∀ rule ∈ rules, ∀ action ∈ rule.actions, action.kind = .discountPercent) →
        NeedsNoRounding reordered cart →
        (pass reordered cart).cart.map (fun item => item.discount.value?) =
          (pass rules cart).cart.map fun item => item.discount.value? := by
  refine ⟨⟨runsToEnd_of_needsNoRounding pricesNonneg valuesNonneg unrounded,
    fun _ _ found =>
      getElem?_pass_of_needsNoRounding pricesNonneg valuesNonneg unrounded found⟩, ?_⟩
  intro reordered perm percents reorderedUnrounded
  have reorderedNonneg : ∀ rule ∈ reordered, ∀ action ∈ rule.actions,
      0 ≤ action.value.value := fun rule member => valuesNonneg rule (perm.mem_iff.2 member)
  apply List.ext_getElem?
  intro position
  rw [List.getElem?_map, List.getElem?_map]
  cases found : cart[position]? with
  | none =>
      have beyond (others : List PricingRule) : (pass others cart).cart[position]? = none := by
        rw [List.getElem?_eq_none_iff] at found ⊢
        rwa [length_pass]
      rw [beyond, beyond]
  | some item =>
      obtain ⟨granted, there, exact⟩ :=
        getElem?_pass_of_needsNoRounding pricesNonneg valuesNonneg unrounded found
      obtain ⟨other, otherThere, otherExact⟩ :=
        getElem?_pass_of_needsNoRounding pricesNonneg reorderedNonneg reorderedUnrounded found
      have sameActions := actionsPicking_perm perm cart position
      have sameValue : other.value = granted.value := by
        rw [exact, otherExact]
        refine (Action.exactDiscountAll_perm sameActions
          (pricesNonneg item (List.mem_of_getElem? found)) ?_ ?_ 0).symm
        · intro action member
          obtain ⟨rule, ruleMember, declared⟩ := mem_actionsPicking member
          exact percents rule ruleMember action declared
        · intro action member
          obtain ⟨rule, ruleMember, declared⟩ := mem_actionsPicking member
          exact valuesNonneg rule ruleMember action declared
      rw [there, otherThere, Option.map_some, Option.map_some, Item.withDiscount,
        Item.withDiscount, Number.value?_ofAmount, Number.value?_ofAmount, sameValue]

/-- Nearly everything off all that is no mug. -/
def stockSale : PricingRule :=
  ⟨[⟨.itemCode, .neq, .text (.plain "MUG")⟩], [⟨.discountPercent, .ofInt 95⟩], .null⟩

/-- A shirt gets a tenth and the sale in either order, up to its price. -/
theorem shirt_sale_in_any_order :
    let rules := [shirtOffer, stockSale]
    let reordered := [stockSale, shirtOffer]
    let cart := [shirt (.integer 7), mug]
    NeedsNoRounding rules cart ∧ NeedsNoRounding reordered cart ∧
      (pass rules cart).RunsToEnd ∧
      (∃ granted, (pass rules cart).cart[0]? = some ((shirt .zero).withDiscount granted) ∧
        granted.value = 20) ∧
      (pass reordered cart).cart.map (fun item => item.discount.value?) =
        (pass rules cart).cart.map fun item => item.discount.value? := by
  intro rules reordered cart
  let tenth : Action := ⟨.discountPercent, .ofInt 10⟩
  let nearlyAll : Action := ⟨.discountPercent, .ofInt 95⟩
  have shirtPrice : (shirt (.integer 7)).price.value = 20 := by
    norm_num [shirt, Amount.value, Amount.magnitude]
  have tenthValue : tenth.value.value = 10 := by simp [tenth]
  have nearlyAllValue : nearlyAll.value.value = 95 := by simp [nearlyAll]
  have whole (n : ℕ) (short : n < 10 ^ 28) : money.Represents n :=
    WorkingPrecision.represents_natCast short
  -- A tenth of 20 and then 95 in the hundred: 2, and 2 + 19 is cut to 20.
  have inOrder : Action.AllComputeExactly [tenth, nearlyAll] 20 0 := by
    simp only [Action.AllComputeExactly, Action.ComputesExactly, Action.exactDiscount,
      tenthValue, nearlyAllValue, tenth, nearlyAll]
    norm_num
    exact ⟨⟨whole 200 (by norm_num), whole 2 (by norm_num)⟩, whole 1900 (by norm_num),
      whole 19 (by norm_num), whole 21 (by norm_num)⟩
  have turned : Action.AllComputeExactly [nearlyAll, tenth] 20 0 := by
    simp only [Action.AllComputeExactly, Action.ComputesExactly, Action.exactDiscount,
      tenthValue, nearlyAllValue, tenth, nearlyAll]
    norm_num
    exact ⟨⟨whole 1900 (by norm_num), whole 19 (by norm_num)⟩, whole 200 (by norm_num),
      whole 2 (by norm_num), whole 21 (by norm_num)⟩
  have unrounded : NeedsNoRounding rules cart := by
    rintro (_ | _ | position) item found
    · obtain rfl := Option.some.inj found
      rw [shirtPrice]
      exact inOrder
    · exact trivial
    · cases found
  have reorderedUnrounded : NeedsNoRounding reordered cart := by
    rintro (_ | _ | position) item found
    · obtain rfl := Option.some.inj found
      rw [shirtPrice]
      exact turned
    · exact trivial
    · cases found
  have pricesNonneg : ∀ item ∈ cart, 0 ≤ item.price.value := by
    intro item member
    rcases List.mem_pair.1 member with rfl | rfl
    · rw [shirtPrice]; norm_num
    · simp [mug]
  have everyAction {P : Action → Prop} (ofTenth : P tenth) (ofNearlyAll : P nearlyAll) :
      ∀ rule ∈ rules, ∀ action ∈ rule.actions, P action := by
    intro rule member action declared
    rcases List.mem_pair.1 member with rfl | rfl
    · rw [List.mem_singleton.1 declared]; exact ofTenth
    · rw [List.mem_singleton.1 declared]; exact ofNearlyAll
  have valuesNonneg : ∀ rule ∈ rules, ∀ action ∈ rule.actions, 0 ≤ action.value.value :=
    everyAction (by rw [tenthValue]; norm_num) (by rw [nearlyAllValue]; norm_num)
  obtain ⟨⟨ends, agrees⟩, anyOrder⟩ :=
    pass_agrees_with_rationals rules cart pricesNonneg valuesNonneg unrounded
  obtain ⟨granted, there, exact⟩ := agrees 0 _ rfl
  have wholePrice : Action.exactDiscountAll [tenth, nearlyAll] 20 0 = 20 := by
    simp only [Action.exactDiscountAll, List.foldl_cons, List.foldl_nil, Action.exactDiscount,
      tenthValue, nearlyAllValue, tenth, nearlyAll]
    norm_num
  refine ⟨unrounded, reorderedUnrounded, ends, ⟨granted, there, ?_⟩,
    anyOrder reordered (List.Perm.swap _ _ _) (everyAction rfl rfl) reorderedUnrounded⟩
  rw [exact, shirtPrice]
  exact wholePrice

end RetailPricing
