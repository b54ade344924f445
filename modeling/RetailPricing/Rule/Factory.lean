import RetailPricing.Datum.Number

/-!
# Building conditions, actions and rules

The factories take data of any kind and reject what cannot be evaluated later:
what passes them has a known kind and operator, a typed value, and, where a
number is asked for, a finite number in range. When several things are wrong,
the first one in the order of the checks is reported.
-/

namespace RetailPricing

/-- Reads a datum as a member of a vocabulary: a label, its word or its name
in any case. -/
def readLabel (α : Type) [Vocabulary α] (what : String) (given : Datum) :
    Except ConfigurationFault α :=
  let known : Option α :=
    match given with
    | .text t => Vocabulary.ofAnyCase? t.content
    | _ => none
  match known with
  | some member => .ok member
  | none => .error (.unknownLabel what given (Vocabulary.words α))

namespace Condition

/-- A group size is a positive whole number and is compared by equality. -/
def checkGroup (operator : Operator) (value : Value) :
    Except ConfigurationFault Unit :=
  match value with
  | .integer n =>
      if n ≤ 0 then .error (.groupSizeNotPositive value)
      else if operator = .eq then .ok ()
      else .error (.groupOperator operator)
  | _ => .error (.groupSizeNotPositive value)

/-- Builds a condition. Without an operator it compares for equality. -/
def create (kind operator value : Datum) :
    Except ConfigurationFault Condition := do
  match kind with
  | .null => throw .missingConditionKind
  | _ => pure ()
  match value with
  | .null => throw (.missingConditionValue kind)
  | _ => pure ()
  let kind ← readLabel ConditionKind "condition_kind" kind
  let operator ←
    match operator with
    | .null => pure .eq
    | given => readLabel Operator "condition_operator" given
  let value ← Value.ofDatum value
  match kind with
  | .xQuantity => checkGroup operator value
  | _ => pure ()
  return ⟨kind, operator, value⟩

end Condition

namespace Action

/-- The datum that holds the number of an action. Numeric comparison values
are opened. -/
def operand : Datum → Datum
  | .value (.integer n) => .int n
  | .value (.decimal d) => .decimal d
  | given => given

def create (kind value : Datum) : Except ConfigurationFault Action := do
  match kind with
  | .null => throw .missingActionKind
  | _ => pure ()
  match value with
  | .null => throw (.missingActionValue kind)
  | _ => pure ()
  let kind ← readLabel ActionKind "action_kind" kind
  let some _ := (operand value).number?
    | throw (.actionNotNumeric kind value)
  let amount ← (operand value).toAmount
  if amount.isNegative then throw (.actionNegative kind amount)
  return ⟨kind, amount⟩

end Action

namespace Rule

/-- The members of a collection of rule parts; a collection that is not given
has none. -/
def collect (given : Datum) : Except Fault (List Datum) :=
  if given.isGiven then
    match given.elements? with
    | some elements => .ok elements
    | none => .error .wrongType
  else .ok []

private def condition? : Datum → Option Condition
  | .condition c => some c
  | _ => none

private def action? : Datum → Option Action
  | .action a => some a
  | _ => none

/-- Takes every member for what `read?` says it is; the first member that is
something else is rejected. -/
def readMembers {α : Type} (read? : Datum → Option α) (expected : Datum → ConfigurationFault) :
    List Datum → Except ConfigurationFault (List α)
  | [] => .ok []
  | found :: rest =>
      match read? found with
      | some part => (readMembers read? expected rest).map (part :: ·)
      | none => .error (expected found)

/-- Reading succeeds exactly when every member is of the wanted kind, and then
nothing is lost. -/
theorem readMembers_eq_ok_iff {α : Type} {read? : Datum → Option α}
    {expected : Datum → ConfigurationFault} {members : List Datum} {parts : List α} :
    readMembers read? expected members = .ok parts ↔
      members.map read? = parts.map some := by
  induction members generalizing parts with
  | nil => cases parts <;> simp [readMembers]
  | cons found rest ih =>
      cases known : read? found with
      | none => cases parts <;> simp [readMembers, known]
      | some part =>
          cases others : readMembers read? expected rest with
          | error fault =>
              have never (tail : List α) : rest.map read? ≠ tail.map some := by
                intro same
                have succeeds := ih.mpr same
                simp [others] at succeeds
              cases parts <;> simp [readMembers, known, others, Except.map, never]
          | ok tail =>
              have same := ih.mp others
              cases parts <;>
                simp [readMembers, known, others, Except.map, same,
                  List.map_inj_right (fun _ _ h => Option.some.inj h)]

/-- Builds a rule. Both collections are gone through before their members are
looked at, and conditions come before actions. -/
def create (conditions actions name : Datum) : Except Fault PricingRule := do
  let conditions ← collect conditions
  let actions ← collect actions
  let conditions ←
    (readMembers condition? (.conditionExpected name) conditions).mapError .configuration
  let actions ←
    (readMembers action? (.actionExpected name) actions).mapError .configuration
  return ⟨conditions, actions, name⟩

end Rule

end RetailPricing
