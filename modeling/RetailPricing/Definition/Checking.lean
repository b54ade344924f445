import RetailPricing.Definition.Violation
import RetailPricing.Journal.Basic

/-!
# Checking definitions

A definition is checked field by field and all violations are collected, in
the order of its fields. Words of the vocabularies may be written in any case
and with blanks around them. Operands are not converted: a number stays a
number of its kind, and a numeral in a text is no number. Fields that no
definition has are passed over.

Conditions of an unknown kind are left out of a rule before anything else is
checked, each with a notice, so that a rule set may contain conditions that are
only known elsewhere. This applies to lists of conditions as a file has them.
-/

namespace RetailPricing

/-- A checked field or definition, or all that is wrong with it. -/
abbrev Checked (α : Type) := Except (List Violation) α

namespace Checked

variable {α β : Type}

/-- All that is wrong; nothing for a field that is fine. -/
def violations : Checked α → List Violation
  | .ok _ => []
  | .error found => found

/-- The violations seen from a datum that holds the checked one. -/
def under (place : Place) (checked : Checked α) : Checked α :=
  checked.mapError fun found => found.map (Violation.under place)

/-- Both results, or the violations of both. -/
def both (first : Checked α) (second : Checked β) : Checked (α × β) :=
  match first, second with
  | .ok a, .ok b => .ok (a, b)
  | _, _ => .error (first.violations ++ second.violations)

/-- Checks the members of a list, of which the first one has the given
position. -/
def eachFrom (check : Datum → Checked α) : (position : Nat) → List Datum → Checked (List α)
  | _, [] => .ok []
  | position, member :: rest =>
      (both (under (.position position) (check member))
        (eachFrom check (position + 1) rest)).map fun (a, others) => a :: others

/-- A requirement that a datum does not meet. -/
def violated (requirement : Requirement) (found : Datum) : Checked α :=
  .error [⟨requirement, [], found⟩]

def text : Datum → Checked String
  | .text t => .ok t.content
  | found => violated .text found

def optionalText : Datum → Checked (Option String)
  | .null => .ok none
  | given => (text given).map some

def mapping : Datum → Checked (List (String × Datum))
  | .mapping entries => .ok entries
  | found => violated .mapping found

end Checked

/-- The fields of a definition as they are written. -/
abbrev Fields := List (String × Datum)

namespace Fields

variable {α : Type}

/-- Checks a field; without the field, `absent` is the result. -/
def check (fields : Fields) (name : String) (absent : Checked α)
    (checkValue : Datum → Checked α) : Checked α :=
  match Datum.lookup name fields with
  | some given => (checkValue given).under (.field name)
  | none => absent

/-- A field that has to be there. -/
def missing (fields : Fields) (name : String) : Checked α :=
  .error [⟨.present, [.field name], .mapping fields⟩]

/-- Checks a field that has to be there. -/
def checkRequired (fields : Fields) (name : String)
    (checkValue : Datum → Checked α) : Checked α :=
  fields.check name (fields.missing name) checkValue

end Fields

/-- A word of a vocabulary. A word that is not in it is reported in the form in
which it was looked up. -/
def checkWord (α : Type) [Vocabulary α] (given : Datum) : Checked α :=
  match given with
  | .text t =>
      match Vocabulary.ofNormalised? t.content with
      | some member => .ok member
      | none =>
          Checked.violated (.member (Vocabulary.words α))
            (.ofString (String.ofList (Vocabulary.normalised t.content)))
  | found => Checked.violated (.member (Vocabulary.words α)) found

/-- The number that a datum is, if it is one. Decimals beyond the finite ones
are held as floats, as far as there are such floats. -/
def numericOperand? : Datum → Option NumericOperand
  | .int n => some (.integer n)
  | .float x => some (.float x)
  | .decimal (.finite x) => some (.decimal x)
  | .decimal (.infinite negative) => some (.float (.infinite negative))
  | .decimal (.notANumber false _ _) => some (.float .notANumber)
  | _ => none

/-- A requirement for each way of being an operand. -/
def operandViolations (alternatives : List Requirement) (found : Datum) :
    List Violation :=
  alternatives.map fun alternative =>
    ⟨alternative, [.field (way alternative)], found⟩
where
  way : Requirement → String
    | .integer => "int"
    | .number => "float"
    | .text => "str"
    | _ => "decimal"

/-- The requirements for a number. A decimal fails them only when it has no
value at all. -/
def numberAlternatives : Datum → List Requirement
  | .decimal _ => [.integer, .number, .finiteNumber]
  | _ => [.integer, .number, .decimal]

def checkNumericOperand (given : Datum) : Checked NumericOperand :=
  match numericOperand? given with
  | some n => .ok n
  | none => .error (operandViolations (numberAlternatives given) given)

def checkOperand (given : Datum) : Checked Operand :=
  match given with
  | .text t => .ok (.text t.content)
  | _ =>
      match numericOperand? given with
      | some n => .ok (.numeric n)
      | none =>
          .error (operandViolations (numberAlternatives given ++ [.text]) given)

namespace ConditionDefinition

def ofFields (fields : Fields) : Checked ConditionDefinition :=
  let kind := fields.checkRequired "kind" (checkWord ConditionKind)
  let operator := fields.check "operator" (.ok .eq) (checkWord Operator)
  let value := fields.checkRequired "value" checkOperand
  (kind.both (operator.both value)).map fun (kind, operator, value) =>
    ⟨kind, operator, value⟩

/-- Checks a condition. Checked conditions are taken as they are. -/
def check : Datum → Checked ConditionDefinition
  | .conditionDefinition d => .ok d
  | .mapping fields => ofFields fields
  | found => Checked.violated (.definition "ConditionDefinition") found

end ConditionDefinition

namespace ActionDefinition

def ofFields (fields : Fields) : Checked ActionDefinition :=
  let kind := fields.checkRequired "kind" (checkWord ActionKind)
  let value := fields.checkRequired "value" checkNumericOperand
  (kind.both value).map fun (kind, value) => ⟨kind, value⟩

/-- Checks an action. Checked actions are taken as they are. -/
def check : Datum → Checked ActionDefinition
  | .actionDefinition d => .ok d
  | .mapping fields => ofFields fields
  | found => Checked.violated (.definition "ActionDefinition") found

end ActionDefinition

namespace RuleDefinition

/-- Checks what is handed in as a list.  Definitions count as the rows of their named
fields; texts and mappings have members too, but are no lists. -/
def checkMembers {α : Type} (check : Datum → Checked α) (given : Datum) :
    Checked (List α) :=
  match given with
  | .text _ | .mapping _ => Checked.violated .list given
  | _ =>
      match given.elements? with
      | some members => Checked.eachFrom check 0 members
      | none => Checked.violated .list given

/-- The kind of a written condition, if it is a word of no known kind. -/
def unknownKind? : Datum → Option Text
  | .mapping fields =>
      match Datum.lookup "kind" fields with
      | some (.text t) =>
          match (Vocabulary.ofNormalised? t.content : Option ConditionKind) with
          | some _ => none
          | none => some t
      | _ => none
  | _ => none

/-- The written conditions without those of an unknown kind, and the unknown
kinds in the order in which they were written. -/
def dropUnknownKinds : Datum → Datum × List Text
  | .list members =>
      (.list (members.filter fun member => (unknownKind? member).isNone),
        members.filterMap unknownKind?)
  | given => (given, [])

/-- The notices about conditions that are left out. The rule is named as far
as its name is acceptable. -/
def skippedNotices (index : Option Nat) (name : Checked (Option String))
    (kinds : List Text) : Journal :=
  kinds.map fun kind =>
    .notice none (.unknownKindSkipped index (name.toOption.bind id) kind)

/-- Checks the fields of a rule, which is the one with this index in its rule
set. -/
def ofFields (index : Option Nat) (fields : Fields) :
    Reported (List Violation) RuleDefinition :=
  let name := fields.check "name" (.ok none) Checked.optionalText
  let unknown :=
    match Datum.lookup "conditions" fields with
    | some given => (dropUnknownKinds given).2
    | none => []
  let conditions :=
    fields.check "conditions" (.ok []) fun given =>
      checkMembers ConditionDefinition.check (dropUnknownKinds given).1
  let actions :=
    fields.check "actions" (.ok []) (checkMembers ActionDefinition.check)
  ⟨skippedNotices index name unknown,
    (name.both (conditions.both actions)).map fun (name, conditions, actions) =>
      ⟨name, conditions, actions⟩⟩

/-- Checks a rule. Checked rules are taken as they are. -/
def check (index : Option Nat) :
    Datum → Reported (List Violation) RuleDefinition
  | .ruleDefinition d => .done d
  | .mapping fields => ofFields index fields
  | found => .lift (Checked.violated (.definition "PricingRuleDefinition") found)

end RuleDefinition

end RetailPricing
