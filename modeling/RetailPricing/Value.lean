import RetailPricing.Decimal.Basic
import RetailPricing.Text.Basic

/-!
# Comparison values

A condition holds a value and compares it with a fact about the cart. Both
sides must be of one type; text has no order. Whole numbers and decimals are
different types even where their values agree.
-/

namespace RetailPricing

/-- A value to compare with: a text, a whole number or a decimal. -/
inductive Value
  | text (t : Text)
  | integer (n : Int)
  | decimal (d : Decimal)
deriving DecidableEq

inductive ComparisonFault
  | differentTypes (operator : Operator) (fact expected : ValueType)
  | withoutOrder (operator : Operator) (expected : ValueType)
deriving DecidableEq

/-- What can stop a comparison: a fault of the condition, or a decimal that
cannot be compared. -/
inductive Interruption
  | comparison (fault : ComparisonFault)
  | signal (s : Signal)
deriving DecidableEq

namespace Operator

/-- The operator holds between two sides in this order, the fact on the
left. -/
def holds : Operator → Ordering → Bool
  | eq, o => o == .eq
  | neq, o => o != .eq
  | gt, o => o == .gt
  | lt, o => o == .lt
  | gte, o => o != .lt
  | lte, o => o != .gt

end Operator

namespace Value

def type : Value → ValueType
  | text _ => .text
  | integer _ => .integer
  | decimal _ => .decimal

def isOrdered : Value → Bool
  | text _ => false
  | integer _ | decimal _ => true

def content : Value → String
  | text t => t.content
  | integer n => toString n
  | decimal d => d.toText

/-- A value as a text of its own; a text keeps the form in which it was
given. -/
def asText : Value → Text
  | text t => t
  | number => .plain number.content

/-- Decimals are compared without rounding. Equality of a non-number is
answered, its order is not. -/
def compareDecimals (operator : Operator) (fact expected : Decimal) :
    Except Signal Bool :=
  match operator with
  | .eq => fact.equals expected
  | .neq => (fact.equals expected).map (!·)
  | .gt | .lt | .gte | .lte => (fact.order expected).map operator.holds

/-- Whether `fact operator expected` holds. The types are compared before the
operator is looked at. -/
def compare (expected : Value) (operator : Operator) (fact : Value) :
    Except Interruption Bool :=
  match fact, expected with
  | text f, text e =>
      match operator with
      | .eq => .ok (f.agrees e)
      | .neq => .ok (!f.agrees e)
      | .gt | .lt | .gte | .lte =>
          .error (.comparison (.withoutOrder operator .text))
  | integer f, integer e => .ok (operator.holds (Ord.compare f e))
  | decimal f, decimal e =>
      (compareDecimals operator f e).mapError .signal
  | f, e => .error (.comparison (.differentTypes operator f.type e.type))

/-- Two values are equal when they have one type and say the same. -/
def equals : Value → Value → Except Signal Bool
  | text s, text t => .ok (s.agrees t)
  | integer m, integer n => .ok (m == n)
  | decimal x, decimal y => x.equals y
  | _, _ => .ok false

end Value

end RetailPricing
