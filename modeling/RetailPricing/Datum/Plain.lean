import RetailPricing.Datum.Basic

/-!
# Plain data

A report holds no objects: every object in it is replaced by the mapping of
its fields. Labels stay labels and numbers stay what they are.
-/

namespace RetailPricing

namespace Datum

def ofNumber : Number → Datum
  | .decimal d => decimal d
  | .integer n => int n
  | .flag b => bool b
  | .float x => float x

def plainValue : Value → Datum
  | .text t => mapping [("text", text t)]
  | .integer n => mapping [("integer", int n)]
  | .decimal d => mapping [("decimal", decimal d)]

def plainCondition (c : Condition) : Datum :=
  mapping
    [("kind", text (.label (.conditionKind c.kind))),
      ("operator", text (.label (.operator c.operator))),
      ("value", plainValue c.value)]

def plainAction (a : Action) : Datum :=
  mapping
    [("kind", text (.label (.actionKind a.kind))),
      ("value", decimal (.finite a.value))]

def plainRule (conditions : List Condition) (actions : List Action)
    (name : Datum) : Datum :=
  mapping
    [("conditions", tuple (conditions.map plainCondition)),
      ("actions", tuple (actions.map plainAction)),
      ("name", name)]

def plainItem (code : Text) (name : Datum) (price : Amount) (currency : Text)
    (discount : Number) : Datum :=
  mapping
    [("code", text code), ("name", name), ("price", decimal (.finite price)),
      ("currency", text currency), ("discount", ofNumber discount)]

def plainRuleDefinition (d : RuleDefinition) : Datum :=
  mapping
    [("name", match d.name with
        | some name => ofString name
        | none => null),
      ("conditions", list (d.conditions.map fun c => mapping (conditionFields c))),
      ("actions", list (d.actions.map fun a => mapping (actionFields a)))]

mutual

/-- The datum with mappings in place of objects. -/
def plain : Datum → Datum
  | list elements => list (plainList elements)
  | tuple elements => tuple (plainList elements)
  | mapping entries => mapping (plainEntries entries)
  | value v => plainValue v
  | condition c => plainCondition c
  | action a => plainAction a
  | rule ⟨conditions, actions, name⟩ => plainRule conditions actions (plain name)
  | item ⟨code, name, price, currency, discount⟩ =>
      plainItem code (plain name) price currency discount
  | conditionDefinition d => mapping (conditionFields d)
  | actionDefinition d => mapping (actionFields d)
  | ruleDefinition d => plainRuleDefinition d
  | null => null
  | bool b => bool b
  | int n => int n
  | float x => float x
  | decimal d => decimal d
  | text t => text t

def plainList : List Datum → List Datum
  | [] => []
  | element :: rest => plain element :: plainList rest

def plainEntries : List (String × Datum) → List (String × Datum)
  | [] => []
  | (key, element) :: rest => (key, plain element) :: plainEntries rest

end

end Datum

end RetailPricing
