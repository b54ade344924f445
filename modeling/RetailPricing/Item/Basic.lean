import RetailPricing.BinaryFloat.Basic
import RetailPricing.Text.Basic

/-!
# Cart items

An item is a product with its price and the discount that is currently granted
on it. The discount lies between nothing and the full price; the operations in
`RetailPricing.Item.Discount` keep it there.

Callers may set a discount to a number of any kind, and the item keeps it as
it was given. All kinds are compared by exact value; floats take part in
comparisons but not in sums with amounts.
-/

namespace RetailPricing

/-- A number of any kind. A flag counts as one or zero. -/
inductive Number
  | decimal (d : Decimal)
  | integer (n : Int)
  | flag (b : Bool)
  | float (x : BinaryFloat)
deriving DecidableEq

namespace Number

def ofAmount (x : Amount) : Number :=
  decimal (.finite x)

/-- The discount of an item that no rule has touched. -/
def zero : Number := ofAmount .zero

/-- The exact value as a decimal. -/
def toDecimal : Number → Decimal
  | decimal d => d
  | integer n => .finite (.ofInt n)
  | flag b => .finite (.ofInt (if b then 1 else 0))
  | float x => x.toDecimal

/-- The amount that stands for the number in a sum. -/
def summand? : Number → Option Amount
  | decimal d => d.amount?
  | integer n => some (.ofInt n)
  | flag b => some (.ofInt (if b then 1 else 0))
  | float _ => none

def order (x : Number) (y : Amount) : Except Signal Ordering :=
  x.toDecimal.order (.finite y)

end Number

/-- An item with a name from `Name`. -/
structure Item (Name : Type) where
  code : Text
  name : Name
  price : Amount
  currency : Text
  discount : Number

namespace Item

variable {Name : Type}

/-- The currency of items that do not say theirs. -/
def defaultCurrency : Text := .plain "EUR"

/-- Takes back every discount. -/
def resetDiscount (item : Item Name) : Item Name :=
  { item with discount := .zero }

@[simp]
theorem resetDiscount_resetDiscount (item : Item Name) :
    item.resetDiscount.resetDiscount = item.resetDiscount :=
  rfl

/-- A fresh entry for the same product, without discount.  The other fields are taken
over as they are and not checked again; of a well-formed item the constructor would
make the same entry (`IsWellFormed.rebuildWith_zero_eq`). -/
def copy (item : Item Name) : Item Name :=
  item.resetDiscount

end Item

end RetailPricing
