import RetailPricing.Datum.Plain
import RetailPricing.Proofs.Item.Bounds
import RetailPricing.Proofs.Rule.Factory

/-!
# Well-formed objects

Conditions, actions and items are built from data of any kind.  Whatever is handed
in, what comes out is well formed or a fault of the configuration or of the
validation: no group is without a size, no action has a negative value, and no item
is without a code, without a currency or with a discount beyond its price.

Nothing is lost on the way either.  A well-formed object is built again, as it is,
from its own fields, so the well-formed objects are just those that can be built.
-/

namespace RetailPricing

open Outcome

namespace Condition

/-- A group condition compares by equality, with a whole number of at least one. -/
def IsWellFormed (condition : Condition) : Prop :=
  condition.kind = .xQuantity →
    condition.operator = .eq ∧ ∃ size : Int, condition.value = .integer size ∧ 1 ≤ size

/-- The factory on the fields of a condition. -/
def rebuild (condition : Condition) : Except ConfigurationFault Condition :=
  create (.text (.label (.conditionKind condition.kind)))
    (.text (.label (.operator condition.operator))) (.value condition.value)

theorem isWellFormed_of_create {kind operator value : Datum} {condition : Condition}
    (created : create kind operator value = .ok condition) : condition.IsWellFormed := by
  intro grouped
  have built : condition.IsBuilt := ⟨kind, operator, value, created⟩
  exact built.exists_size grouped

theorem IsWellFormed.rebuild_eq {condition : Condition} (wellFormed : condition.IsWellFormed) :
    condition.rebuild = .ok condition := by
  obtain ⟨kind, operator, value⟩ := condition
  have known : rebuild ⟨kind, operator, value⟩ = ofKnown kind operator (.value value) :=
    create_eq_ofKnown (ConditionKind.ofAnyCase?_word kind)
      (readLabel_text (Operator.ofAnyCase?_word operator)) nofun
  rw [known]
  cases kind with
  | itemCode | quantityTotal => rfl
  | xQuantity =>
      obtain ⟨equality, size, isSize, positive⟩ := wellFormed rfl
      dsimp only at equality isSize
      subst equality isSize
      have fits : checkGroup .eq (.integer size) = .ok () := by
        rw [checkGroup, if_neg (Int.not_le.2 positive), if_pos rfl]
      change checkGroup .eq (.integer size) >>= _ = _
      rw [fits]
      rfl

end Condition

namespace Action

/-- The value of an action is not negative. -/
def IsWellFormed (action : Action) : Prop :=
  0 ≤ action.value.value

/-- The factory on the fields of an action. -/
def rebuild (action : Action) : Except ConfigurationFault Action :=
  create (.text (.label (.actionKind action.kind))) (.decimal (.finite action.value))

theorem isNegative_eq_false_iff {x : Amount} : x.isNegative = false ↔ 0 ≤ x.value := by
  rw [← not_lt, ← Amount.isNegative_iff, Bool.not_eq_true]

theorem isWellFormed_of_ofKnown {kind : ActionKind} {value : Datum} {action : Action}
    (made : ofKnown kind value = .ok action) : action.IsWellFormed := by
  unfold ofKnown at made
  split at made
  next =>
      obtain ⟨amount, _, rest⟩ := bind_eq_ok_iff.1 made
      dsimp only at rest
      split at rest
      next => cases rest
      next notNegative =>
          obtain rfl := Except.ok.inj rest
          exact isNegative_eq_false_iff.1 (Bool.eq_false_iff.2 notNegative)
  next => cases made

theorem isWellFormed_of_create {kind value : Datum} {action : Action}
    (created : create kind value = .ok action) : action.IsWellFormed := by
  obtain ⟨known, made⟩ := exists_ofKnown_of_create created
  exact isWellFormed_of_ofKnown made

theorem IsWellFormed.rebuild_eq {action : Action} (wellFormed : action.IsWellFormed) :
    action.rebuild = .ok action := by
  obtain ⟨kind, amount⟩ := action
  have notNegative : amount.isNegative = false := isNegative_eq_false_iff.2 wellFormed
  have known : rebuild ⟨kind, amount⟩ = ofKnown kind (.decimal (.finite amount)) :=
    create_eq_ofKnown (ActionKind.ofAnyCase?_word kind) nofun
  rw [known]
  change (if amount.isNegative then _ else _) = _
  rw [notNegative]
  rfl

end Action

namespace Item

/-- An item has a code and a currency, a price that is not negative, and for its
discount an amount between nothing and the price. -/
structure IsWellFormed (item : CartItem) : Prop where
  code_given : item.code.isEmpty = false
  currency_given : item.currency.isEmpty = false
  price_nonneg : 0 ≤ item.price.value
  discount_within : ∃ amount : Amount, item.discount = .ofAmount amount ∧
    0 ≤ amount.value ∧ amount.value ≤ item.price.value

/-- The constructor on the fields of an item, with another discount. -/
def rebuildWith (item : CartItem) (discount : Number) : Except ValidationFault CartItem :=
  create (.text item.code) item.name (.decimal (.finite item.price))
    (some (.text item.currency)) (some (.ofNumber discount))

/-- The constructor on the fields of an item. -/
def rebuild (item : CartItem) : Except ValidationFault CartItem :=
  item.rebuildWith item.discount

theorem isEmpty_of_requiredText? {given : Datum} {t : Text}
    (required : requiredText? given = some t) : t.isEmpty = false := by
  cases given with
  | text written =>
      rw [requiredText?] at required
      split at required
      next => cases required
      next nonempty =>
          obtain rfl := Option.some.inj required
          exact Bool.eq_false_iff.2 nonempty
  | _ => cases required

theorem requiredText?_text {t : Text} (nonempty : t.isEmpty = false) :
    requiredText? (.text t) = some t := by
  rw [requiredText?, nonempty]
  rfl

theorem isWellFormed_of_create {code name price : Datum} {currency discount : Option Datum}
    {item : CartItem} (accepted : create code name price currency discount = .ok item) :
    item.IsWellFormed := by
  obtain ⟨codeGiven, currencyGiven, _, _, _, wanted, discounted⟩ := create_eq_ok accepted
  obtain ⟨nonneg, q, isValue, bounds⟩ := wellPriced_of_create accepted
  rw [discounted, Number.value?_ofAmount] at isValue
  obtain rfl := Option.some.inj isValue
  exact ⟨isEmpty_of_requiredText? codeGiven, isEmpty_of_requiredText? currencyGiven, nonneg,
    _, discounted, bounds⟩

/-- A discount within its bounds is granted as it is. -/
theorem boundedDiscount_of_within {price amount : Amount} (nonneg : 0 ≤ amount.value)
    (within : amount.value ≤ price.value) : boundedDiscount price amount = amount := by
  have granted := grantedDiscount_ofAmount price amount
  rw [grantedDiscount_of_finite (w := amount) rfl, if_neg (not_lt.2 within),
    if_neg (not_lt.2 nonneg)] at granted
  simpa [Number.ofAmount] using granted.symm

theorem IsWellFormed.rebuildWith_eq {item : CartItem} (wellFormed : item.IsWellFormed)
    {amount : Amount} (nonneg : 0 ≤ amount.value) (within : amount.value ≤ item.price.value) :
    item.rebuildWith (.ofAmount amount) = .ok { item with discount := .ofAmount amount } := by
  have notNegative : item.price.isNegative = false :=
    Action.isNegative_eq_false_iff.2 wellFormed.price_nonneg
  rw [rebuildWith, create, requiredText?_text wellFormed.code_given]
  dsimp only [Option.getD_some]
  rw [requiredText?_text wellFormed.currency_given]
  change (if item.price.isNegative then _ else _) = _
  rw [notNegative]
  change Except.ok _ = _
  rw [boundedDiscount_of_within nonneg within]

theorem IsWellFormed.rebuild_eq {item : CartItem} (wellFormed : item.IsWellFormed) :
    item.rebuild = .ok item := by
  obtain ⟨amount, discounted, nonneg, within⟩ := wellFormed.discount_within
  rw [rebuild, discounted, wellFormed.rebuildWith_eq nonneg within, ← discounted]

/-- Checking the fields of a well-formed item once more would not change its copy. -/
theorem IsWellFormed.rebuildWith_zero_eq {item : CartItem} (wellFormed : item.IsWellFormed) :
    item.rebuildWith .zero = .ok item.copy :=
  wellFormed.rebuildWith_eq (by rw [Amount.value_zero])
    (by rw [Amount.value_zero]; exact wellFormed.price_nonneg)

end Item

/-- Whatever is handed in, the factories of conditions and actions end with a fault of
the configuration or with a well-formed object, and the constructor of items with a fault
of the validation or with a well-formed item.  The fields of what was built build it
again; with no discount they build the copy of an item, which differs in nothing else.
Every well-formed object can be built in this way. -/
theorem only_well_formed_objects_are_built :
    (∀ kind operator value,
      (∃ fault : ConfigurationFault, Condition.create kind operator value = .error fault) ∨
        ∃ condition, Condition.create kind operator value = .ok condition ∧
          condition.IsWellFormed ∧ condition.rebuild = .ok condition) ∧
    (∀ kind value,
      (∃ fault : ConfigurationFault, Action.create kind value = .error fault) ∨
        ∃ action, Action.create kind value = .ok action ∧
          action.IsWellFormed ∧ action.rebuild = .ok action) ∧
    (∀ code name price currency discount,
      (∃ fault : ValidationFault, Item.create code name price currency discount = .error fault) ∨
        ∃ item, Item.create code name price currency discount = .ok item ∧
          item.IsWellFormed ∧ item.rebuild = .ok item ∧
          item.rebuildWith .zero = .ok item.copy ∧ item.copy.SameProduct item) ∧
    (∀ condition : Condition, condition.IsWellFormed → condition.rebuild = .ok condition) ∧
    (∀ action : Action, action.IsWellFormed → action.rebuild = .ok action) ∧
    ∀ item : CartItem, item.IsWellFormed → item.rebuild = .ok item := by
  refine ⟨fun kind operator value => ?_, fun kind value => ?_,
    fun code name price currency discount => ?_, fun _ => Condition.IsWellFormed.rebuild_eq,
    fun _ => Action.IsWellFormed.rebuild_eq, fun _ => Item.IsWellFormed.rebuild_eq⟩
  · cases created : Condition.create kind operator value with
    | error fault => exact .inl ⟨fault, rfl⟩
    | ok condition =>
        have wellFormed := Condition.isWellFormed_of_create created
        exact .inr ⟨condition, rfl, wellFormed, wellFormed.rebuild_eq⟩
  · cases created : Action.create kind value with
    | error fault => exact .inl ⟨fault, rfl⟩
    | ok action =>
        have wellFormed := Action.isWellFormed_of_create created
        exact .inr ⟨action, rfl, wellFormed, wellFormed.rebuild_eq⟩
  · cases created : Item.create code name price currency discount with
    | error fault => exact .inl ⟨fault, rfl⟩
    | ok item =>
        have wellFormed := Item.isWellFormed_of_create created
        exact .inr ⟨item, rfl, wellFormed, wellFormed.rebuild_eq, wellFormed.rebuildWith_zero_eq,
          ⟨rfl, rfl, rfl, rfl⟩⟩

end RetailPricing
