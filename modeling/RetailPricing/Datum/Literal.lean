import RetailPricing.BinaryFloat.Written
import RetailPricing.Datum.Basic
import RetailPricing.Text.Quoted

/-!
# Data in error details

Details of an error show the rejected datum as a literal, from which its kind
can be seen: texts stand between quotes, decimals and objects carry the name of
their kind, and objects show all their fields.
-/

namespace RetailPricing

namespace Literal

def ofBool (b : Bool) : String :=
  if b then "True" else "False"

def ofDecimal (d : Decimal) : String :=
  "Decimal(" ++ Text.quoted d.toText ++ ")"

def ofLabel (l : Label) : String :=
  "<" ++ l.qualifiedName ++ ": " ++ Text.quoted l.word ++ ">"

def ofText : Text → String
  | .plain characters => Text.quoted characters
  | .label l => ofLabel l

def ofNumber : Number → String
  | .decimal d => ofDecimal d
  | .integer n => toString n
  | .flag b => ofBool b
  | .float x => x.toText

def ofFields (kind : String) (fields : List (String × String)) : String :=
  kind ++ "(" ++ shown fields ++ ")"
where
  shown (fields : List (String × String)) : String :=
    String.intercalate ", " (fields.map fun field => field.1 ++ "=" ++ field.2)

def ofList (members : List String) : String :=
  "[" ++ String.intercalate ", " members ++ "]"

/-- Members between parentheses; a single member is followed by a comma. -/
def ofTuple : List String → String
  | [member] => "(" ++ member ++ ",)"
  | members => "(" ++ String.intercalate ", " members ++ ")"

def ofValue : Value → String
  | .text t => ofFields "TextValue" [("text", ofText t)]
  | .integer n => ofFields "IntegerValue" [("integer", toString n)]
  | .decimal d => ofFields "DecimalValue" [("decimal", ofDecimal d)]

def ofCondition (c : Condition) : String :=
  ofFields "Condition"
    [("kind", ofLabel (.conditionKind c.kind)),
      ("operator", ofLabel (.operator c.operator)),
      ("value", ofValue c.value)]

def ofAction (a : Action) : String :=
  ofFields "Action"
    [("kind", ofLabel (.actionKind a.kind)),
      ("value", ofDecimal (.finite a.value))]

def ofRule (conditions : List Condition) (actions : List Action)
    (name : String) : String :=
  ofFields "PricingRule"
    [("conditions", ofTuple (conditions.map ofCondition)),
      ("actions", ofTuple (actions.map ofAction)),
      ("name", name)]

def ofItem (code : Text) (name : String) (price : Amount) (currency : Text)
    (discount : Number) : String :=
  ofFields "CartItem"
    [("code", ofText code), ("name", name),
      ("price", ofDecimal (.finite price)),
      ("currency", ofText currency), ("discount", ofNumber discount)]

def ofNumericOperand : NumericOperand → String
  | .integer n => toString n
  | .float x => x.toText
  | .decimal x => ofDecimal (.finite x)

def ofOperand : Operand → String
  | .numeric n => ofNumericOperand n
  | .text characters => Text.quoted characters

def conditionFields (d : ConditionDefinition) : List (String × String) :=
  [("kind", ofLabel (.conditionKind d.kind)),
    ("operator", ofLabel (.operator d.operator)), ("value", ofOperand d.value)]

def actionFields (d : ActionDefinition) : List (String × String) :=
  [("kind", ofLabel (.actionKind d.kind)), ("value", ofNumericOperand d.value)]

def ruleFields (d : RuleDefinition) : List (String × String) :=
  [("name", match d.name with
      | some name => Text.quoted name
      | none => "None"),
    ("conditions", ofList <| d.conditions.map fun c =>
      ofFields "ConditionDefinition" (conditionFields c)),
    ("actions", ofList <| d.actions.map fun a =>
      ofFields "ActionDefinition" (actionFields a))]

end Literal

namespace Datum

mutual

def literal : Datum → String
  | null => "None"
  | bool b => Literal.ofBool b
  | int n => toString n
  | float x => x.toText
  | decimal d => Literal.ofDecimal d
  | text t => Literal.ofText t
  | list elements => Literal.ofList (literals elements)
  | tuple elements => Literal.ofTuple (literals elements)
  | mapping entries =>
      "\x7b" ++ String.intercalate ", " (entryLiterals entries) ++ "\x7d"
  | value v => Literal.ofValue v
  | condition c => Literal.ofCondition c
  | action a => Literal.ofAction a
  | rule ⟨conditions, actions, name⟩ =>
      Literal.ofRule conditions actions (literal name)
  | item ⟨code, name, price, currency, discount⟩ =>
      Literal.ofItem code (literal name) price currency discount
  | conditionDefinition d =>
      Literal.ofFields "ConditionDefinition" (Literal.conditionFields d)
  | actionDefinition d =>
      Literal.ofFields "ActionDefinition" (Literal.actionFields d)
  | ruleDefinition d =>
      Literal.ofFields "PricingRuleDefinition" (Literal.ruleFields d)

def literals : List Datum → List String
  | [] => []
  | element :: rest => literal element :: literals rest

/-- Keys and values of a mapping with a colon between them. -/
def entryLiterals : List (String × Datum) → List String
  | [] => []
  | (key, element) :: rest =>
      (Text.quoted key ++ ": " ++ literal element) :: entryLiterals rest

end

private def unnamedFields (fields : List (String × String)) : String :=
  String.intercalate " " (fields.map fun field => field.1 ++ "=" ++ field.2)

/-- The text that a datum is shown as on its own: without quotes, and for
conditions and actions in words. -/
def shown : Datum → String
  | decimal d => d.toText
  | text (.plain characters) => characters
  | text (.label l) => l.qualifiedName
  | value v => v.content
  | condition c => c.describe
  | action a => a.describe
  | conditionDefinition d => unnamedFields (Literal.conditionFields d)
  | actionDefinition d => unnamedFields (Literal.actionFields d)
  | ruleDefinition d => unnamedFields (Literal.ruleFields d)
  | other => other.literal

end Datum

end RetailPricing
