import RetailPricing.Definition.Checking
import RetailPricing.Engine.Admission

/-!
# Loading rules from definitions

Every definition is checked and then built by the factories. The first one
that fails decides the outcome, and its fault says which definition it was.
-/

namespace RetailPricing

namespace ConditionDefinition

def build (d : ConditionDefinition) : Except ConfigurationFault Condition :=
  Condition.create (.text (.label (.conditionKind d.kind)))
    (.text (.label (.operator d.operator))) (.ofOperand d.value)

end ConditionDefinition

namespace ActionDefinition

def build (d : ActionDefinition) : Except ConfigurationFault Action :=
  Action.create (.text (.label (.actionKind d.kind))) (.ofNumericOperand d.value)

end ActionDefinition

namespace RuleDefinition

/-- The rule that a definition describes. Conditions are built before
actions. -/
def build (d : RuleDefinition) : Except ConfigurationFault PricingRule := do
  let conditions ← d.conditions.mapM ConditionDefinition.build
  let actions ← d.actions.mapM ActionDefinition.build
  let name :=
    match d.name with
    | some name => .ofString name
    | none => .null
  return ⟨conditions, actions, name⟩

end RuleDefinition

def loadRule (index : Nat) (given : Datum) : Reported ConfigurationFault PricingRule := do
  let checked ←
    (RuleDefinition.check (some index) given).mapFault
      (ConfigurationFault.invalidDefinition index)
  Reported.lift (checked.build.mapError (ConfigurationFault.inDefinition index))

/-- The rules of definitions of which the first one has the given index. -/
def loadFrom : (index : Nat) → List Datum → Reported ConfigurationFault (List PricingRule)
  | _, [] => .done []
  | index, given :: rest => do
      let rule ← loadRule index given
      let rules ← loadFrom (index + 1) rest
      return rule :: rules

def loadMembers (members : List Datum) : Reported Fault (List PricingRule) := do
  let rules ← (loadFrom 0 members).mapFault .configuration
  Reported.note (.rulesLoaded rules.length)
  return rules

/-- The rules of whatever was handed in, which has to be a collection of
definitions. -/
def loadRules (given : Datum) : Reported Fault (List PricingRule) :=
  match given with
  | .null => .lift (.error (.configuration .missingDefinitions))
  | _ =>
      match membersOf given with
      | .ok members => loadMembers members
      | .error fault => .lift (.error fault)

end RetailPricing
