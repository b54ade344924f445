import RetailPricing.Proofs.Engine.Frame
import RetailPricing.Proofs.Engine.Selection
import RetailPricing.Proofs.Item.Updates

/-!
# A pass, item by item

A pass works through rules, actions and entries.  Seen from one position of the
cart, it is a row of actions: those of the rules that select the position
(`actionsReaching`).  Which rules these are is told by the cart as it was
before the pass.

* A pass that comes to its end has applied to every entry the row of actions
  that reaches it, and nothing else.
* A pass breaks off exactly when one of these rows does (`Overflows`), and then
  with the overflow signal.

No entry ever depends on the discount of another one.
-/

namespace RetailPricing

open Outcome

namespace Action

theorem applyAll_singleton (action : Action) (item : CartItem) :
    applyAll [action] item = action.apply item := by
  change action.apply item >>= (fun changed => .ok changed) = _
  cases action.apply item with
  | error mishap => rfl
  | ok changed => rfl

theorem applyAll_append (earlier later : List Action) (item : CartItem) :
    applyAll (earlier ++ later) item = applyAll earlier item >>= applyAll later :=
  List.foldlM_append

end Action

/-- What is left of a cart when every position has got its row of actions, or
when one of the rows has broken off. -/
def Treats (row : Nat → List Action) (before after : Cart) : Option Mishap → Prop
  | none => ∀ position : Nat,
      before[position]?.map (Action.applyAll (row position)) = after[position]?.map .ok
  | some mishap => ∃ position : Nat,
      before[position]?.map (Action.applyAll (row position)) = some (.error mishap)

namespace Treats

variable {row later : Nat → List Action} {before middle after : Cart}

theorem refl (cart : Cart) : Treats (fun _ => []) cart cart none :=
  fun _ => rfl

/-- The rows may be told differently. -/
theorem congr {other : Nat → List Action} {broken : Option Mishap}
    (treats : Treats row before after broken)
    (same : ∀ position, row position = other position) :
    Treats other before after broken :=
  funext same ▸ treats

/-- Further actions go on with what the earlier ones have left. -/
theorem append {broken : Option Mishap} (first : Treats row before middle none)
    (second : Treats later middle after broken) :
    Treats (fun position => row position ++ later position) before after broken := by
  have goesOn (position : Nat) :
      before[position]?.map (Action.applyAll (row position ++ later position)) =
        middle[position]?.map (Action.applyAll (later position)) := by
    have applied := first position
    cases found : before[position]? with
    | none =>
        rw [found] at applied
        have gone : middle[position]? = none := Option.map_eq_none_iff.1 applied.symm
        rw [gone]
        rfl
    | some item =>
        rw [found] at applied
        obtain ⟨changed, there, same⟩ := Option.map_eq_some_iff.1 applied.symm
        rw [there, Option.map_some, Option.map_some, Action.applyAll_append, ← same]
        rfl
  cases broken with
  | none => exact fun position => (goesOn position).trans (second position)
  | some mishap =>
      obtain ⟨position, broke⟩ := second
      exact ⟨position, (goesOn position).trans broke⟩

/-- Nothing follows a row that has broken off. -/
theorem append_of_broken {mishap : Mishap} (first : Treats row before middle (some mishap)) :
    Treats (fun position => row position ++ later position) before after (some mishap) := by
  obtain ⟨position, broke⟩ := first
  obtain ⟨item, found, failed⟩ := Option.map_eq_some_iff.1 broke
  refine ⟨position, ?_⟩
  rw [found, Option.map_some, Action.applyAll_append, failed]
  rfl

/-- One action at one position. -/
theorem set {cart : Cart} {action : Action} {position : Nat} {item changed : CartItem}
    (found : cart[position]? = some item) (applied : action.apply item = .ok changed) :
    Treats (fun other => if other = position then [action] else []) cart
      (cart.set position changed) none := by
  intro other
  dsimp only
  by_cases here : other = position
  · subst here
    have within : other < cart.length := (List.getElem?_eq_some_iff.1 found).1
    rw [if_pos rfl, found, List.getElem?_set_self within, Option.map_some,
      Action.applyAll_singleton, applied]
    rfl
  · rw [if_neg here, List.getElem?_set_ne (Ne.symm here)]
    rfl

end Treats

theorem treats_applyAt (action : Action) {positions : List Nat}
    (distinct : positions.Nodup) (cart : Cart) :
    Treats (fun position => if position ∈ positions then [action] else []) cart
      (action.applyAt positions cart).1 (action.applyAt positions cart).2 := by
  induction positions generalizing cart with
  | nil => exact .refl cart
  | cons position rest ih =>
      obtain ⟨fresh, restDistinct⟩ := List.nodup_cons.1 distinct
      -- No position comes twice, so the rows of the first one and of the rest
      -- together hold the action once.
      have split (other : Nat) :
          (if other = position then [action] else []) ++
              (if other ∈ rest then [action] else []) =
            if other ∈ position :: rest then [action] else [] := by
        by_cases here : other = position
        · subst here
          simp [fresh]
        · simp [here]
      dsimp only [Action.applyAt]
      cases found : cart[position]? with
      | none =>
          have skipped : Treats (fun other => if other = position then [action] else [])
              cart cart none := by
            intro other
            dsimp only
            by_cases here : other = position
            · rw [here, found]
              rfl
            · rw [if_neg here]
              rfl
          exact (skipped.append (ih restDistinct cart)).congr split
      | some item =>
          dsimp only
          cases applied : action.apply item with
          | ok changed =>
              exact ((Treats.set found applied).append (ih restDistinct _)).congr split
          | error mishap =>
              refine ⟨position, ?_⟩
              dsimp only
              rw [found, if_pos List.mem_cons_self, Option.map_some,
                Action.applyAll_singleton, applied]

theorem treats_applyActions {positions : List Nat} (distinct : positions.Nodup)
    (actions : List Action) (cart : Cart) :
    Treats (fun position => if position ∈ positions then actions else []) cart
      (applyActions positions actions cart).cart
      (applyActions positions actions cart).broken := by
  induction actions generalizing cart with
  | nil => exact (Treats.refl cart).congr fun position => (ite_self []).symm
  | cons action rest ih =>
      have split (position : Nat) :
          (if position ∈ positions then [action] else []) ++
              (if position ∈ positions then rest else []) =
            if position ∈ positions then action :: rest else [] := by
        by_cases reached : position ∈ positions <;> simp [reached]
      have first := treats_applyAt action distinct cart
      dsimp only [applyActions]
      cases done : action.applyAt positions cart with
      | mk changed broken =>
          rw [done] at first
          cases broken with
          | some mishap => exact first.append_of_broken.congr split
          | none => exact (first.append (ih changed)).congr split

/-- The actions with which a rule reaches a position of the cart. -/
def Rule.actionsAt (rule : PricingRule) (cart : Cart) (position : Nat) : List Action :=
  match (rule.selectPositions cart).outcome with
  | .ok positions => if position ∈ positions then rule.actions else []
  | .error _ => []

/-- The actions with which rules reach a position of the cart, in their order. -/
def actionsReaching (rules : List PricingRule) (cart : Cart) (position : Nat) :
    List Action :=
  rules.flatMap fun rule => rule.actionsAt cart position

/-- Carts of the same products are selected from alike. -/
theorem Rule.selectPositions_eq_of_map_resetDiscount_eq (rule : PricingRule)
    {first second : Cart}
    (sameProducts : first.map Item.resetDiscount = second.map Item.resetDiscount) :
    rule.selectPositions first = rule.selectPositions second := by
  have unseen (cart : Cart) :
      rule.selectPositions (cart.map Item.resetDiscount) = rule.selectPositions cart :=
    rule.selectPositions_map Item.resetDiscount (fun _ => rfl) cart
  rw [← unseen first, sameProducts, unseen second]

theorem actionsReaching_eq_of_map_resetDiscount_eq (rules : List PricingRule)
    {first second : Cart}
    (sameProducts : first.map Item.resetDiscount = second.map Item.resetDiscount) :
    actionsReaching rules first = actionsReaching rules second := by
  funext position
  unfold actionsReaching Rule.actionsAt
  simp only [Rule.selectPositions_eq_of_map_resetDiscount_eq _ sameProducts]

theorem map_resetDiscount_tryRule
    (select : PricingRule → Cart → Reported Interruption (List Nat))
    (index : Nat) (rule : PricingRule) (cart : Cart) :
    (tryRule select index rule cart).cart.map Item.resetDiscount =
      cart.map Item.resetDiscount :=
  (continues_tryRule select index rule cart).map_resetDiscount_eq
    (length_tryRule select index rule cart)

theorem treats_tryRule (index : Nat) (rule : PricingRule) (cart : Cart) :
    Treats (rule.actionsAt cart) cart (tryRule Rule.selectPositions index rule cart).cart
      (tryRule Rule.selectPositions index rule cart).broken := by
  have picks := rule.picks_selectPositions cart
  unfold Rule.actionsAt
  dsimp only [tryRule]
  cases ended : (rule.selectPositions cart).outcome with
  | error interruption =>
      obtain ⟨fault, rfl⟩ := picks.stopped ended
      exact .refl cart
  | ok positions =>
      have distinct : positions.Nodup := (picks.sublist ended).nodup List.nodup_range
      have applied := treats_applyActions distinct rule.actions cart
      cases positions with
      | nil => exact (Treats.refl cart).congr fun _ => rfl
      | cons position rest =>
          dsimp only
          cases broken : (applyActions (position :: rest) rule.actions cart).broken with
          | some mishap =>
              rw [broken] at applied
              exact applied
          | none =>
              rw [broken] at applied
              exact applied

theorem treats_runRules (index : Nat) (rules : List PricingRule) (cart : Cart) :
    Treats (actionsReaching rules cart) cart
      (runRules Rule.selectPositions index rules cart).cart
      (runRules Rule.selectPositions index rules cart).broken := by
  induction rules generalizing index cart with
  | nil => exact .refl cart
  | cons rule rest ih =>
      have first := treats_tryRule index rule cart
      have sameActions := actionsReaching_eq_of_map_resetDiscount_eq rest
        (map_resetDiscount_tryRule Rule.selectPositions index rule cart)
      rw [runRules]
      cases ended : (tryRule Rule.selectPositions index rule cart).broken with
      | some mishap =>
          rw [PassReport.followedBy_of_broken ended]
          rw [ended] at first ⊢
          exact first.append_of_broken
      | none =>
          rw [PassReport.followedBy_of_complete ended]
          rw [ended] at first
          have later := ih (index + 1) (tryRule Rule.selectPositions index rule cart).cart
          rw [sameActions] at later
          exact first.append later

theorem treats_pass (rules : List PricingRule) (cart : Cart) :
    Treats (actionsReaching rules cart) (cart.map Item.resetDiscount) (pass rules cart).cart
      (pass rules cart).broken := by
  have sameActions := actionsReaching_eq_of_map_resetDiscount_eq rules
    (map_resetDiscount_map_resetDiscount cart)
  exact sameActions ▸ treats_runRules 0 rules (cart.map Item.resetDiscount)

/-- The row of actions that reaches some entry overflows. -/
def Overflows (rules : List PricingRule) (cart : Cart) : Prop :=
  ∃ (position : Nat) (item : CartItem), cart[position]? = some item ∧
    Action.discountAfterAll (actionsReaching rules cart position) item.price .zero =
      .error .overflow

/-- What a row of actions does to an entry that has lost its discount. -/
theorem applyAll_resetDiscount (actions : List Action) (item : CartItem) :
    Action.applyAll actions item.resetDiscount =
      ((Action.discountAfterAll actions item.price .zero).map item.withDiscount).mapError
        .signal :=
  Action.applyAll_withDiscount actions item .zero

/-- A pass that comes to its end leaves on every entry the discount that its
row of actions makes of nothing. -/
theorem getElem?_pass_of_complete {rules : List PricingRule} {cart : Cart}
    (complete : (pass rules cart).broken = none) {position : Nat} {item : CartItem}
    (found : cart[position]? = some item) :
    ∃ granted,
      Action.discountAfterAll (actionsReaching rules cart position) item.price .zero =
          .ok granted ∧
        (pass rules cart).cart[position]? = some (item.withDiscount granted) := by
  have treats := treats_pass rules cart
  rw [complete] at treats
  have applied := treats position
  rw [List.getElem?_map, found, Option.map_some, Option.map_some,
    applyAll_resetDiscount] at applied
  obtain ⟨changed, there, same⟩ := Option.map_eq_some_iff.1 applied.symm
  obtain ⟨granted, discounted, rfl⟩ := map_eq_ok_iff.1 (mapError_eq_ok_iff.1 same.symm)
  exact ⟨granted, discounted, there⟩

/-- A pass comes to its end, unless the actions that reach some entry overflow;
then it ends with the overflow signal. -/
theorem broken_pass (rules : List PricingRule) (cart : Cart) :
    ((pass rules cart).broken = none ∧ ¬ Overflows rules cart) ∨
      ((pass rules cart).broken = some (.signal .overflow) ∧ Overflows rules cart) := by
  have treats := treats_pass rules cart
  cases ended : (pass rules cart).broken with
  | none =>
      refine .inl ⟨rfl, ?_⟩
      rintro ⟨position, item, found, overflowed⟩
      obtain ⟨granted, discounted, _⟩ := getElem?_pass_of_complete ended found
      rw [overflowed] at discounted
      cases discounted
  | some mishap =>
      rw [ended] at treats
      obtain ⟨position, broke⟩ := treats
      rw [List.getElem?_map, Option.map_map] at broke
      obtain ⟨item, found, failed⟩ := Option.map_eq_some_iff.1 broke
      rw [Function.comp_apply, applyAll_resetDiscount] at failed
      obtain ⟨s, stopped, rfl⟩ := mapError_eq_error_iff.1 failed
      have overflowed := map_eq_error_iff.1 stopped
      obtain rfl := Action.discountAfterAll_error overflowed
      exact .inr ⟨rfl, position, item, found, overflowed⟩

end RetailPricing
