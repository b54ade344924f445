import RetailPricing.Engine.Pass
import RetailPricing.Rule.Factory

/-!
# What callers hand to the engine

Carts and rule lists arrive as data. Rules are admitted before the cart is
touched; the entries of the cart are only looked at when their discounts are
taken back, so a cart with a foreign entry has already lost the discounts in
front of it.
-/

namespace RetailPricing

namespace Datum

def rule? : Datum → Option PricingRule
  | rule r => some r
  | _ => none

def item? : Datum → Option CartItem
  | item i => some i
  | _ => none

end Datum

/-- The members of a collection; other data cannot be gone through. -/
def membersOf (given : Datum) : Except Fault (List Datum) :=
  match given.elements? with
  | some members => .ok members
  | none => .error .wrongType

/-- The rules of a collection, all of which have to be rules. -/
def admitRules (members : List Datum) : Except Fault (List PricingRule) :=
  (Rule.readMembers Datum.rule? .ruleExpected members).mapError .configuration

/-- The rules handed to a pass. Nothing stands for no rules. -/
def rulesForPass (given : Datum) : Except Fault (List PricingRule) :=
  match given with
  | .null => .ok []
  | _ => do admitRules (← membersOf given)

/-- The rules of a checkout. A collection that is not given has none. -/
def rulesForCheckout (given : Datum) : Except Fault (List PricingRule) := do
  admitRules (← Rule.collect given)

/-- Takes back discounts up to the first entry that is no item. -/
def resetLeading : List Datum → List Datum
  | .item i :: rest => .item i.resetDiscount :: resetLeading rest
  | entries => entries

structure ApplyReport where
  entries : List Datum
  journal : Journal
  outcome : Except Fault Unit

def applyToEntries (rules : List PricingRule) (entries : List Datum) :
    ApplyReport :=
  match entries.mapM Datum.item? with
  | some cart =>
      let report := pass rules cart
      ⟨report.cart.map Datum.item, report.journal, report.outcome⟩
  | none =>
      ⟨resetLeading entries, [.count .passTimed], .error .missingAttribute⟩

/-- Applies the rules `rules` to the cart `cart`, both as they were handed
in. -/
def applyGiven (rules cart : Datum) : ApplyReport :=
  match cart with
  | .null => ⟨[], [], .error (.validation .missingCart)⟩
  | _ =>
      match rulesForPass rules with
      | .error fault => ⟨(cart.elements?).getD [], [], .error fault⟩
      | .ok rules =>
          match membersOf cart with
          | .ok entries => applyToEntries rules entries
          | .error fault => ⟨[], [.count .passTimed], .error fault⟩

/-- The items in front of the first entry that is none. -/
def leadingItems : List Datum → Cart
  | .item i :: rest => i :: leadingItems rest
  | _ => []

/-- The positions that a rule selects among entries of which some are no items.
Without code conditions nobody looks at the entries; otherwise the first code
condition comes to an end at the first foreign entry, if not before. -/
def selectAmongForeign (rule : PricingRule) (entries : List Datum) :
    Reported Fault (List Nat) :=
  match rule.conditionsOf .itemCode with
  | [] => do
      let selected ←
        (rule.select (fun _ => .plain "") entries.zipIdx).mapFault
          Fault.ofInterruption
      return selected.map Prod.snd
  | condition :: _ =>
      .lift <|
        match Rule.meetingCode Item.code condition (leadingItems entries) with
        | .error interruption => .error (.ofInterruption interruption)
        | .ok _ => .error .missingAttribute

/-- The positions that a rule selects in a cart, both as they were handed
in. -/
def selectGiven (rule : Datum) (entries : List Datum) : Reported Fault (List Nat) :=
  match rule with
  | .rule r =>
      if r.isNoop then .done []
      else
        match entries.mapM Datum.item? with
        | some cart => (r.selectPositions cart).mapFault Fault.ofInterruption
        | none => selectAmongForeign r entries
  | _ => .lift (.error .missingAttribute)

/-- Numbers of rules, and the words of the kinds that occur in them. -/
structure RuleStatistics where
  rules : Nat
  noops : Nat
  conditionKinds : List String
  actionKinds : List String

namespace RuleStatistics

/-- The words of the kinds that occur, in alphabetical order. -/
def occurring {α : Type} [Vocabulary α] [DecidableEq α] (alphabetical : List α)
    (kinds : List α) : List String :=
  (alphabetical.filter fun kind => kinds.contains kind).map Vocabulary.word

def ofRules (rules : List PricingRule) : RuleStatistics where
  rules := rules.length
  noops := (rules.filter Rule.isNoop).length
  conditionKinds :=
    occurring [.itemCode, .quantityTotal, .xQuantity]
      (rules.flatMap fun rule => rule.conditions.map Condition.kind)
  actionKinds :=
    occurring [.discountPercent, .fixedPrice]
      (rules.flatMap fun rule => rule.actions.map Action.kind)

/-- Statistics of a rule set as it was handed in. Only collections have a
size, and only rules can be looked into. -/
def ofGiven (given : Datum) : Except Fault RuleStatistics :=
  let members? : Option (List Datum) :=
    match given with
    | .list _ | .tuple _ | .text _ | .mapping _ => given.elements?
    | _ => none
  match members? with
  | none => .error .wrongType
  | some members =>
      match members.mapM Datum.rule? with
      | some rules => .ok (ofRules rules)
      | none => .error .missingAttribute

end RuleStatistics

end RetailPricing
