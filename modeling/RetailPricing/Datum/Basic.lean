import RetailPricing.Definition.Basic
import RetailPricing.Item.Basic
import RetailPricing.Rule.Basic

/-!
# Data

A datum is anything that a caller can hand to a factory or that a rules file
can hold: plain data, and the objects of this library themselves. Factories
take data and either reject them or build an object that is well formed.
-/

namespace RetailPricing

inductive Datum
  | null
  | bool (b : Bool)
  | int (n : Int)
  | float (x : BinaryFloat)
  | decimal (d : Decimal)
  | text (t : Text)
  | list (elements : List Datum)
  | tuple (elements : List Datum)
  | mapping (entries : List (String × Datum))
  | value (v : Value)
  | condition (c : Condition)
  | action (a : Action)
  | rule (r : Rule Datum)
  | item (i : Item Datum)
  | conditionDefinition (d : ConditionDefinition)
  | actionDefinition (d : ActionDefinition)
  | ruleDefinition (d : RuleDefinition)

/-- A rule whose name can be any datum. -/
abbrev PricingRule := Rule Datum

/-- An item whose name can be any datum. -/
abbrev CartItem := Item Datum

/-- The entries of a cart, in the order in which they were added. -/
abbrev Cart := List CartItem

namespace Datum

def ofString (characters : String) : Datum :=
  text (.plain characters)

def number? : Datum → Option Number
  | bool b => some (.flag b)
  | int n => some (.integer n)
  | float x => some (.float x)
  | decimal d => some (.decimal d)
  | _ => none

/-- The whole number that a datum is. A flag counts as one or zero. -/
def whole? : Datum → Option Int
  | bool b => some (if b then 1 else 0)
  | int n => some n
  | _ => none

def lookup (key : String) (entries : List (String × Datum)) : Option Datum :=
  (entries.find? fun entry => entry.1 == key).map Prod.snd

/-- Sets the value of a key. A key keeps the place where it first stood. -/
def setEntry (key : String) (value : Datum) :
    List (String × Datum) → List (String × Datum)
  | [] => [(key, value)]
  | entry :: rest =>
      if entry.1 = key then (key, value) :: rest
      else entry :: setEntry key value rest

theorem lookup_setEntry_self (key : String) (value : Datum)
    (entries : List (String × Datum)) :
    lookup key (setEntry key value entries) = some value := by
  induction entries with
  | nil => simp [setEntry, lookup]
  | cons entry rest ih =>
      by_cases same : entry.1 = key
      · simp [setEntry, lookup, same]
      · simpa [setEntry, lookup, same] using ih

theorem lookup_setEntry_of_ne {key other : String} (different : key ≠ other)
    (value : Datum) (entries : List (String × Datum)) :
    lookup other (setEntry key value entries) = lookup other entries := by
  induction entries with
  | nil => simp [setEntry, lookup, different]
  | cons entry rest ih =>
      by_cases same : entry.1 = key
      · simp [setEntry, lookup, same, different]
      · rw [setEntry, if_neg same]
        by_cases found : entry.1 = other
        · simp [lookup, found]
        · simpa [lookup, found] using ih

/-- A key that no entry has is not found. -/
theorem lookup_eq_none {key : String} {entries : List (String × Datum)}
    (absent : ∀ entry ∈ entries, entry.1 ≠ key) :
    lookup key entries = none := by
  rw [lookup, Option.map_eq_none_iff, List.find?_eq_none]
  intro entry member same
  exact absent entry member (beq_iff_eq.1 same)

/-- A datum counts as given unless it is nothing, a zero or empty. -/
def isGiven : Datum → Bool
  | null => false
  | bool b => b
  | int n => n != 0
  | float x => !x.isZero
  | decimal d => !d.isZero
  | text t => !t.isEmpty
  | list elements => !elements.isEmpty
  | tuple elements => !elements.isEmpty
  | mapping entries => !entries.isEmpty
  | _ => true

def ofNumericOperand : NumericOperand → Datum
  | .integer n => int n
  | .float x => float x
  | .decimal x => decimal (.finite x)

def ofOperand : Operand → Datum
  | .numeric n => ofNumericOperand n
  | .text characters => ofString characters

def conditionFields (d : ConditionDefinition) : List (String × Datum) :=
  [("kind", text (.label (.conditionKind d.kind))),
    ("operator", text (.label (.operator d.operator))),
    ("value", ofOperand d.value)]

def actionFields (d : ActionDefinition) : List (String × Datum) :=
  [("kind", text (.label (.actionKind d.kind))),
    ("value", ofNumericOperand d.value)]

def ruleFields (d : RuleDefinition) : List (String × Datum) :=
  [("name", match d.name with
      | some name => ofString name
      | none => null),
    ("conditions", list (d.conditions.map conditionDefinition)),
    ("actions", list (d.actions.map actionDefinition))]

/-- The data that a datum is made of when it is gone through one by one: the
members of a list, the characters of a text, the keys of a mapping, the named
fields of a definition. -/
def elements? : Datum → Option (List Datum)
  | list elements => some elements
  | tuple elements => some elements
  | text t => some (t.content.toList.map fun c => ofString (String.singleton c))
  | mapping entries => some (entries.map fun entry => ofString entry.1)
  | conditionDefinition d => some (pairs (conditionFields d))
  | actionDefinition d => some (pairs (actionFields d))
  | ruleDefinition d => some (pairs (ruleFields d))
  | _ => none
where
  pairs (fields : List (String × Datum)) : List Datum :=
    fields.map fun field => tuple [ofString field.1, field.2]

def typeName : Datum → String
  | null => "NoneType"
  | bool _ => "bool"
  | int _ => "int"
  | float _ => "float"
  | decimal _ => "Decimal"
  | text (.plain _) => "str"
  | text (.label (.conditionKind _)) => Vocabulary.title ConditionKind
  | text (.label (.operator _)) => Vocabulary.title Operator
  | text (.label (.actionKind _)) => Vocabulary.title ActionKind
  | text (.label (.valueType _)) => Vocabulary.title ValueType
  | list _ => "list"
  | tuple _ => "tuple"
  | mapping _ => "dict"
  | value (.text _) => "TextValue"
  | value (.integer _) => "IntegerValue"
  | value (.decimal _) => "DecimalValue"
  | condition _ => "Condition"
  | action _ => "Action"
  | rule _ => "PricingRule"
  | item _ => "CartItem"
  | conditionDefinition _ => "ConditionDefinition"
  | actionDefinition _ => "ActionDefinition"
  | ruleDefinition _ => "PricingRuleDefinition"

end Datum

namespace Rule

/-- What a rule is called in reports: its name, or else what its conditions
say. -/
def label (rule : PricingRule) : Datum :=
  if rule.name.isGiven then rule.name
  else .ofString rule.describeConditions

end Rule

end RetailPricing
