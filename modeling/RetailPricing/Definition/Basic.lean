import RetailPricing.BinaryFloat.Basic
import RetailPricing.Label

/-!
# Definitions

A definition is what a rules file says about a rule once its fields have been
checked. Its operands keep the form in which they were written; turning them
into values is left to the factories of conditions and actions.
-/

namespace RetailPricing

/-- A number as a definition holds it. -/
inductive NumericOperand
  | integer (n : Int)
  | float (x : BinaryFloat)
  | decimal (x : Amount)
deriving DecidableEq

/-- A number or a text as a definition holds it. -/
inductive Operand
  | numeric (n : NumericOperand)
  | text (characters : String)
deriving DecidableEq

structure ConditionDefinition where
  kind : ConditionKind
  operator : Operator
  value : Operand
deriving DecidableEq

structure ActionDefinition where
  kind : ActionKind
  value : NumericOperand
deriving DecidableEq

structure RuleDefinition where
  name : Option String
  conditions : List ConditionDefinition
  actions : List ActionDefinition
deriving DecidableEq

end RetailPricing
