import RetailPricing.Value

/-!
# Pricing rules

A rule has conditions that select entries of a cart and actions that change
the discounts of the selected entries. Both keep the order in which they were
declared. What a rule is called is only used in reports, so rules are taken
over any type of names.
-/

namespace RetailPricing

/-- A condition: what it looks at, how it compares, and with what. -/
structure Condition where
  kind : ConditionKind
  operator : Operator
  value : Value
deriving DecidableEq

/-- An action on the discount of an item. The value is a price or a
percentage. -/
structure Action where
  kind : ActionKind
  value : Amount
deriving DecidableEq

/-- A pricing rule with a name from `Name`. -/
structure Rule (Name : Type) where
  conditions : List Condition
  actions : List Action
  name : Name

namespace Condition

/-- Whether a fact about the cart meets the condition. -/
def evaluate (condition : Condition) (fact : Value) : Except Interruption Bool :=
  condition.value.compare condition.operator fact

def describe (condition : Condition) : String :=
  condition.kind.word ++ " " ++ condition.operator.word ++ " " ++
    condition.value.content

end Condition

namespace Action

def describe (action : Action) : String :=
  action.kind.word ++ " " ++ action.value.toText

end Action

namespace Rule

variable {Name : Type}

/-- A rule without conditions or without actions never applies. -/
def isNoop (rule : Rule Name) : Bool :=
  rule.conditions.isEmpty || rule.actions.isEmpty

/-- The conditions of one kind, in the order of their declaration. -/
def conditionsOf (rule : Rule Name) (kind : ConditionKind) : List Condition :=
  rule.conditions.filter fun condition => condition.kind = kind

/-- What the conditions say, which stands in for the name of a rule that has
none. -/
def describeConditions (rule : Rule Name) : String :=
  match rule.conditions with
  | [] => "<no conditions>"
  | conditions => String.intercalate " and " (conditions.map Condition.describe)

end Rule

end RetailPricing
