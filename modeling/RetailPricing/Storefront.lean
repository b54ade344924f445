import RetailPricing.Checkout
import RetailPricing.Journal.Meter

/-!
# Storefronts

A storefront has several checkouts side by side. Each keeps a cart of its own;
the journal is common to all of them and holds what happened in the order in
which it happened. What happens at one checkout leaves the others as they are.
-/

namespace RetailPricing

structure Storefront where
  checkouts : List Checkout
  journal : Journal

namespace Storefront

def empty : Storefront := ⟨[], []⟩

def openCheckout (storefront : Storefront) (checkout : Checkout) : Storefront :=
  { storefront with checkouts := storefront.checkouts ++ [checkout] }

/-- Adds to the journal what did not happen at a checkout. -/
def enter (storefront : Storefront) (journal : Journal) : Storefront :=
  { storefront with journal := storefront.journal ++ journal }

/-- Lets something happen at the checkout with this position. -/
def visit (storefront : Storefront) (position : Nat)
    (activity : Checkout → ScanReport) : Storefront × Except Fault Unit :=
  match storefront.checkouts[position]? with
  | none => (storefront, .error (.mishap .missingPosition))
  | some checkout =>
      let report := activity checkout
      (⟨storefront.checkouts.set position report.checkout,
        storefront.journal ++ report.journal⟩, report.outcome)

def scan (storefront : Storefront) (position : Nat) (given : Datum) :
    Storefront × Except Fault Unit :=
  storefront.visit position fun checkout => checkout.scan given

def reprice (storefront : Storefront) (position : Nat) :
    Storefront × Except Fault Unit :=
  storefront.visit position Checkout.reprice

def setDiscount (storefront : Storefront) (position index : Nat)
    (given : Datum) : Storefront × Except Fault Unit :=
  storefront.visit position fun checkout =>
    match checkout.setDiscount index given with
    | .ok changed => ⟨changed, [], .ok ()⟩
    | .error mishap => ⟨checkout, [], .error (.mishap mishap)⟩

/-- Everything that has been counted, on one meter. -/
def meter (service : String) (storefront : Storefront) : Meter :=
  (Meter.create service).recordAll storefront.journal

/-- A visit leaves the other checkouts as they are. -/
theorem checkout_visit_of_ne {position other : Nat} (different : position ≠ other)
    (storefront : Storefront) (activity : Checkout → ScanReport) :
    (storefront.visit position activity).1.checkouts[other]? =
      storefront.checkouts[other]? := by
  dsimp only [visit]
  split
  · rfl
  · exact List.getElem?_set_ne different

/-- At the visited checkout the activity has happened. -/
theorem checkout_visit_self {position : Nat} {checkout : Checkout}
    {storefront : Storefront}
    (found : storefront.checkouts[position]? = some checkout)
    (activity : Checkout → ScanReport) :
    (storefront.visit position activity).1.checkouts[position]? =
      some (activity checkout).checkout := by
  have within : position < storefront.checkouts.length :=
    (List.getElem?_eq_some_iff.1 found).1
  simp only [visit, found]
  exact List.getElem?_set_self within

end Storefront

end RetailPricing
