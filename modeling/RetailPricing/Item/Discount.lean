import RetailPricing.Amount.Arithmetic
import RetailPricing.Datum.Number

/-!
# Items and their discounts

An item is only built from a code, a currency and a price that make sense, and
its discount is only changed by setting it, which keeps it between nothing and
the full price.  An action on an item changes its discount: a fixed price replaces
it by the distance to the price, whatever was granted before, and a percentage is
added to what is already granted.
-/

namespace RetailPricing

namespace Item

/-- An amount as a discount on an item of this price: the price if it is more
than that, nothing if it is negative. -/
def boundedDiscount (price wanted : Amount) : Amount :=
  match wanted.order price with
  | .gt => price
  | _ => if wanted.isNegative then .zero else wanted

/-- The discount that is granted when `wanted` is asked for: no more than the
price and no less than nothing. -/
def grantedDiscount (price : Amount) (wanted : Number) : Except Signal Number := do
  match ← wanted.order price with
  | .gt => return .ofAmount price
  | _ =>
      match ← wanted.order .zero with
      | .lt => return .zero
      | _ => return wanted

variable {Name : Type}

/-- Sets the discount to a number, within its bounds. -/
def grant (item : Item Name) (wanted : Number) : Except Signal (Item Name) :=
  (grantedDiscount item.price wanted).map fun discount =>
    { item with discount }

/-- Sets the discount to any datum that is a number. -/
def setDiscount (item : Item Name) (given : Datum) : Except Mishap (Item Name) :=
  match given.number? with
  | some wanted => (item.grant wanted).mapError .signal
  | none => .error .wrongType

/-- What is to be paid for the item. A discount that is a float has no place
in this difference. -/
def netPrice (item : Item Name) : Except Mishap Amount :=
  match item.discount.summand? with
  | some discount => (Amount.sub .money item.price discount).mapError .signal
  | none => .error .wrongType

/-- Two entries of one product agree when their prices and discounts have
equal values. The product is known by its code and currency. -/
def sameOffer (item other : CartItem) : Except Signal Bool := do
  if !item.code.agrees other.code then return false
  if !(item.price.order other.price == .eq) then return false
  if !item.currency.agrees other.currency then return false
  item.discount.toDecimal.equals other.discount.toDecimal

def requiredText? : Datum → Option Text
  | .text t => if t.isEmpty then none else some t
  | _ => none

def amountField (field : String) (given : Datum) :
    Except ValidationFault Amount :=
  match given.toAmount with
  | .ok amount => .ok amount
  | .error reason => .error (.notAnAmount field given reason)

/-- Builds an item from data. The code is checked first, then the currency, the
price and the discount. -/
def create (code name price : Datum) (currency discount : Option Datum) :
    Except ValidationFault CartItem := do
  let some code := requiredText? code
    | throw (.codeRequired code)
  let givenCurrency := currency.getD (.text defaultCurrency)
  let some currency := requiredText? givenCurrency
    | throw (.currencyRequired code givenCurrency)
  let price ← amountField "price" price
  if price.isNegative then throw (.negativePrice code price)
  let wanted ←
    match discount with
    | some given => amountField "discount" given
    | none => pure .zero
  return ⟨code, name, price, currency, .ofAmount (boundedDiscount price wanted)⟩

end Item

namespace Action

variable {Name : Type}

/-- The discount that brings an item down to a fixed price. -/
def fixedPriceDiscount (value price : Amount) : Except Signal Amount :=
  Amount.sub .money price value

/-- The share `value` in a hundred of a price. -/
def share (value price : Amount) : Except Signal Amount := do
  Amount.hundredth .money (← Amount.mul .money price value)

/-- The discount together with a further share of the price. -/
def increasedDiscount (value price : Amount) (discount : Number) :
    Except Mishap Amount := do
  let increase ← (share value price).mapError .signal
  match discount.summand? with
  | some granted => (Amount.add .money granted increase).mapError .signal
  | none => throw .wrongType

def apply (action : Action) (item : Item Name) : Except Mishap (Item Name) := do
  let discount ←
    match action.kind with
    | .fixedPrice =>
        (fixedPriceDiscount action.value item.price).mapError .signal
    | .discountPercent =>
        increasedDiscount action.value item.price item.discount
  (item.grant (.ofAmount discount)).mapError .signal

end Action

end RetailPricing
