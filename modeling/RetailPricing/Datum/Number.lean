import RetailPricing.Decimal.Numeral
import RetailPricing.Fault

/-!
# Data as numbers and values

Prices, discounts and the values of actions are amounts. A datum is read as an
amount without passing through a binary float: whole numbers and decimals are
taken as they are, and everything else by the numeral that it is shown as.
Comparison values keep their type.
-/

namespace RetailPricing

namespace Datum

/-- The amount of a finite decimal, which was read from `given`. -/
def finiteAmount (given : Datum) (d : Decimal) : Except ConfigurationFault Amount :=
  match d.amount? with
  | some amount => .ok amount
  | none => .error (.notFinite given)

/-- Reads a datum as an amount. Flags are not numbers. -/
def toAmount (given : Datum) : Except ConfigurationFault Amount :=
  match given with
  | bool _ => .error (.booleanNumber given)
  | int n => .ok (.ofInt n)
  | decimal d => finiteAmount given d
  | other =>
      match Decimal.ofText? other.shown with
      | some d => finiteAmount given d
      | none => .error (.notANumber given)

end Datum

namespace Value

/-- The comparison value that a datum stands for. Floats become the decimals
that they are written as. -/
def ofDatum (given : Datum) : Except ConfigurationFault Value :=
  match given with
  | .value v => .ok v
  | .null | .bool _ => .error (.unsupportedValue given)
  | .text t => .ok (.text t)
  | .int n => .ok (.integer n)
  | .decimal d => .ok (.decimal d)
  | .float _ => given.toAmount.map fun amount => .decimal (.finite amount)
  | _ => .error (.unsupportedValueType given)

end Value

end RetailPricing
