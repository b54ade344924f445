import RetailPricing.Engine.Admission

/-!
# Checkouts

A checkout keeps a cart for one currency under fixed rules. Every accepted scan
appends a fresh entry for the scanned product and makes a pass over the whole
cart, so the discounts always belong to the cart as it stands. A scan that is
refused changes nothing; a pass that fails after a scan leaves the new entry in
the cart.
-/

namespace RetailPricing

/-- A cart with its rules. The currency is whatever was configured, or nothing
until the first scan fixes it. -/
structure Checkout where
  identity : String
  rules : List PricingRule
  currency : Datum
  cart : Cart

structure ScanReport where
  checkout : Checkout
  journal : Journal
  outcome : Except Fault Unit

namespace Checkout

def create (identity : String) (rules currency : Datum) : Except Fault Checkout := do
  return ⟨identity, ← rulesForCheckout rules, currency, []⟩

/-- An item can be added when its currency is that of the checkout, or when
none is fixed yet. -/
def acceptsCurrency (checkout : Checkout) (item : CartItem) : Bool :=
  match checkout.currency with
  | .null => true
  | .text t => item.currency.agrees t
  | _ => false

/-- The currency after an item has been accepted. -/
def currencyWith (checkout : Checkout) (item : CartItem) : Datum :=
  match checkout.currency with
  | .null => .text item.currency
  | fixed => fixed

def reprice (checkout : Checkout) : ScanReport :=
  let report := pass checkout.rules checkout.cart
  ⟨{ checkout with cart := report.cart }, report.journal, report.outcome⟩

/-- Scans an item: a copy of it joins the cart, and the cart is priced
again. -/
def scanItem (checkout : Checkout) (item : CartItem) : ScanReport :=
  if checkout.acceptsCurrency item then
    let cart := checkout.cart ++ [item.copy]
    let priced :=
      reprice { checkout with currency := checkout.currencyWith item, cart }
    let arrival : Journal :=
      [.notice none (.itemScanned item.code cart.length), .count .itemScanned]
    { priced with
      journal := (arrival ++ priced.journal).boundTo checkout.identity }
  else
    ⟨checkout, [],
      .error (.validation
        (.currencyMismatch item.code item.currency checkout.currency))⟩

/-- Scans whatever was handed in, which has to be an item. -/
def scan (checkout : Checkout) (given : Datum) : ScanReport :=
  match given with
  | .null => ⟨checkout, [], .error (.validation .emptyScan)⟩
  | .item item => scanItem checkout item
  | found => ⟨checkout, [], .error (.validation (.itemExpected found))⟩

/-- Sets the discount of an entry from outside; the next pass takes it
back. -/
def setDiscount (checkout : Checkout) (position : Nat) (given : Datum) :
    Except Mishap Checkout :=
  match checkout.cart[position]? with
  | some item =>
      (item.setDiscount given).map fun changed =>
        { checkout with cart := checkout.cart.set position changed }
  | none => .error .missingPosition

/-- Adds amounts as they are computed, so that the sum breaks off at the first
one that has no value. -/
def sumOfEach (amountOf : CartItem → Except Mishap Amount) (cart : Cart) :
    Except Mishap Amount :=
  cart.foldlM
    (fun total item => do
      let amount ← amountOf item
      (Amount.add .money total amount).mapError .signal)
    .zero

def subtotal (checkout : Checkout) : Except Mishap Amount :=
  sumOfEach (fun item => .ok item.price) checkout.cart

def discountTotal (checkout : Checkout) : Except Mishap Amount :=
  sumOfEach
    (fun item =>
      match item.discount.summand? with
      | some discount => .ok discount
      | none => .error .wrongType)
    checkout.cart

def total (checkout : Checkout) : Except Mishap Amount :=
  sumOfEach Item.netPrice checkout.cart

end Checkout

end RetailPricing
