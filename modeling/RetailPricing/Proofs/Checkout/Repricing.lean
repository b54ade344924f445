import RetailPricing.Checkout
import RetailPricing.Proofs.Engine.Independence

/-!
# Pricing scan by scan

A checkout makes a pass over its cart at every scan that takes an item.  The
passes before the last one leave no trace: the cart of a checkout is the cart
that a single pass makes of fresh copies of the items taken so far.

Refused scans change nothing, a pass that fails or breaks off is made good by
the next one, and so is every discount that callers set on live entries.  Only
a discount that is set after the last scan that took an item stays, and the
statement asks that there be none (`Undisturbed`).
-/

namespace RetailPricing

namespace Checkout

/-- The item that a scan takes into the cart: the scanned one, unless the scan
was refused. -/
def takenBy (checkout : Checkout) (given : Datum) : Option CartItem :=
  match (checkout.scan given).outcome with
  | .error (.validation _) => none
  | _ => given.item?

end Checkout

/-- A pass refuses nothing; it ends with failed rules or with a mishap. -/
theorem PassReport.outcome_ne_validation (report : PassReport)
    (fault : ValidationFault) : report.outcome ≠ .error (.validation fault) := by
  rw [outcome]
  split <;> simp

namespace Checkout

theorem scan_of_accepted {checkout : Checkout} {item : CartItem}
    (accepted : checkout.acceptsCurrency item = true) :
    (checkout.scan (.item item)).checkout =
        { checkout with
          currency := checkout.currencyWith item
          cart := (pass checkout.rules (checkout.cart ++ [item.copy])).cart } ∧
      checkout.takenBy (.item item) = some item := by
  rw [takenBy, scan, scanItem, if_pos accepted]
  refine ⟨rfl, ?_⟩
  split
  next fault refused =>
      exact absurd refused (PassReport.outcome_ne_validation _ fault)
  next => rfl

theorem scan_of_mismatch {checkout : Checkout} {item : CartItem}
    (refused : ¬ checkout.acceptsCurrency item = true) :
    (checkout.scan (.item item)).checkout = checkout ∧
      checkout.takenBy (.item item) = none := by
  rw [takenBy, scan, scanItem, if_neg refused]
  exact ⟨rfl, rfl⟩

theorem given_of_taken {checkout : Checkout} {given : Datum} {item : CartItem}
    (taken : checkout.takenBy given = some item) : given = .item item := by
  rw [takenBy] at taken
  split at taken
  · cases taken
  · cases given with
    | item scanned => exact congrArg Datum.item (Option.some.inj taken)
    | _ => cases taken

/-- A scan that takes an item adds a copy of it and makes a pass. -/
theorem scan_of_taken {checkout : Checkout} {given : Datum} {item : CartItem}
    (taken : checkout.takenBy given = some item) :
    (checkout.scan given).checkout =
      { checkout with
        currency := checkout.currencyWith item
        cart := (pass checkout.rules (checkout.cart ++ [item.copy])).cart } := by
  have scanned := given_of_taken taken
  subst scanned
  by_cases accepted : checkout.acceptsCurrency item = true
  · exact (scan_of_accepted accepted).1
  · rw [(scan_of_mismatch accepted).2] at taken
    cases taken

/-- Any other scan leaves the checkout as it is. -/
theorem scan_of_refused {checkout : Checkout} {given : Datum}
    (refused : checkout.takenBy given = none) :
    (checkout.scan given).checkout = checkout := by
  cases given with
  | item scanned =>
      by_cases accepted : checkout.acceptsCurrency scanned = true
      · rw [(scan_of_accepted accepted).2] at refused
        cases refused
      · exact (scan_of_mismatch accepted).1
  | _ => rfl

end Checkout

/-- What can happen at a checkout: scans of anything, and callers that give a
live entry another discount, whatever it is and however they do it. -/
inductive CheckoutDeed
  | scan (given : Datum)
  | discount (position : Nat) (granted : Number)

namespace Checkout

/-- The checkout after a deed, also when the deed raises a fault. -/
def perform (checkout : Checkout) : CheckoutDeed → Checkout
  | .scan given => (checkout.scan given).checkout
  | .discount position granted =>
      { checkout with
        cart := checkout.cart.modify position fun item => { item with discount := granted } }

/-- The checkout after a row of deeds. -/
def after (checkout : Checkout) (deeds : List CheckoutDeed) : Checkout :=
  deeds.foldl perform checkout

/-- The items that are taken in the course of a row of deeds. -/
def taken : Checkout → List CheckoutDeed → List CartItem
  | _, [] => []
  | checkout, .scan given :: rest =>
      (checkout.takenBy given).toList ++ taken (checkout.perform (.scan given)) rest
  | checkout, .discount position granted :: rest =>
      taken (checkout.perform (.discount position granted)) rest

/-- Every discount set by callers comes before a scan that takes an item. -/
def Undisturbed : Checkout → List CheckoutDeed → Prop
  | _, [] => True
  | checkout, .scan given :: rest => Undisturbed (checkout.perform (.scan given)) rest
  | checkout, .discount position granted :: rest =>
      let changed := checkout.perform (.discount position granted)
      changed.taken rest ≠ [] ∧ Undisturbed changed rest

/-- The cart is as a pass leaves it. -/
def Priced (checkout : Checkout) : Prop :=
  (pass checkout.rules checkout.cart).cart = checkout.cart

theorem rules_perform (checkout : Checkout) (deed : CheckoutDeed) :
    (checkout.perform deed).rules = checkout.rules := by
  cases deed with
  | discount position granted => rfl
  | scan given =>
      rw [perform]
      cases taken : checkout.takenBy given with
      | none => rw [scan_of_refused taken]
      | some item => rw [scan_of_taken taken]

/-- A scan that takes an item appends its product; nothing else changes the
products of a cart. -/
theorem products_perform_scan (checkout : Checkout) (given : Datum) :
    (checkout.perform (.scan given)).cart.map Item.resetDiscount =
      checkout.cart.map Item.resetDiscount ++
        (checkout.takenBy given).toList.map Item.copy := by
  rw [perform]
  cases taken : checkout.takenBy given with
  | none =>
      rw [scan_of_refused taken, Option.toList_none, List.map_nil, List.append_nil]
  | some item =>
      rw [scan_of_taken taken, map_resetDiscount_pass, List.map_append]
      rfl

theorem products_perform_discount (checkout : Checkout) (position : Nat)
    (granted : Number) :
    (checkout.perform (.discount position granted)).cart.map Item.resetDiscount =
      checkout.cart.map Item.resetDiscount := by
  apply List.ext_getElem?
  intro other
  rw [perform, List.getElem?_map, List.getElem?_map, List.getElem?_modify]
  cases checkout.cart[other]? with
  | none => rfl
  | some item => by_cases same : position = other <;> simp [same, Item.resetDiscount]

/-- The cart holds the products that were taken, in the order of the scans. -/
theorem products_after (checkout : Checkout) (deeds : List CheckoutDeed) :
    (checkout.after deeds).cart.map Item.resetDiscount =
      checkout.cart.map Item.resetDiscount ++ (checkout.taken deeds).map Item.copy := by
  induction deeds generalizing checkout with
  | nil => exact (List.append_nil _).symm
  | cons deed rest ih =>
      rw [after, List.foldl_cons]
      refine (ih (checkout.perform deed)).trans ?_
      cases deed with
      | scan given =>
          rw [products_perform_scan, taken, List.map_append, List.append_assoc]
      | discount position granted => rw [products_perform_discount, taken]

theorem rules_after (checkout : Checkout) (deeds : List CheckoutDeed) :
    (checkout.after deeds).rules = checkout.rules := by
  induction deeds generalizing checkout with
  | nil => rfl
  | cons deed rest ih => exact (ih (checkout.perform deed)).trans (checkout.rules_perform deed)

theorem priced_perform_scan {checkout : Checkout} {given : Datum}
    (settled : checkout.Priced ∨ checkout.takenBy given ≠ none) :
    (checkout.perform (.scan given)).Priced := by
  rw [perform, Priced]
  cases taken : checkout.takenBy given with
  | none =>
      rw [scan_of_refused taken]
      exact settled.resolve_right (not_not.2 taken)
  | some item => rw [scan_of_taken taken, pass_pass]

/-- The invariant of a history: the cart is priced, or an item is still to be
taken. -/
theorem priced_after {checkout : Checkout} {deeds : List CheckoutDeed}
    (undisturbed : checkout.Undisturbed deeds)
    (settled : checkout.Priced ∨ checkout.taken deeds ≠ []) :
    (checkout.after deeds).Priced := by
  induction deeds generalizing checkout with
  | nil => exact settled.resolve_right (not_not.2 rfl)
  | cons deed rest ih =>
      cases deed with
      | scan given =>
          refine ih undisturbed ?_
          by_cases taken : checkout.takenBy given = none
          · refine settled.imp (fun priced => priced_perform_scan (.inl priced)) ?_
            simp only [Checkout.taken, taken, Option.toList_none, List.nil_append]
            exact id
          · exact .inl (priced_perform_scan (.inr taken))
      | discount position granted => exact ih undisturbed.2 (.inr undisturbed.1)

/-- A fresh checkout holds one entry for every scan that took an item, in the
order of the scans and of the scanned product.  The discounts are those that
one pass gives to fresh copies of the items. -/
theorem scans_price_like_one_pass (identity : String) (rules : List PricingRule)
    (currency : Datum) (deeds : List CheckoutDeed) :
    let fresh : Checkout := ⟨identity, rules, currency, []⟩
    List.Forall₂ Item.SameProduct (fresh.after deeds).cart (fresh.taken deeds) ∧
      (fresh.Undisturbed deeds →
        (fresh.after deeds).cart = (pass rules ((fresh.taken deeds).map Item.copy)).cart) := by
  intro fresh
  have products : (fresh.after deeds).cart.map Item.resetDiscount =
      (fresh.taken deeds).map Item.resetDiscount :=
    fresh.products_after deeds
  refine ⟨Item.forall₂_sameProduct_iff.2 products, fun undisturbed => ?_⟩
  have emptyPriced : fresh.Priced :=
    List.eq_nil_of_length_eq_zero (length_pass rules [])
  have priced : (fresh.after deeds).Priced :=
    priced_after undisturbed (.inl emptyPriced)
  have sameCopies : (fresh.after deeds).cart.map Item.resetDiscount =
      ((fresh.taken deeds).map Item.copy).map Item.resetDiscount := by
    rw [products, List.map_map]
    rfl
  have sameRules : (fresh.after deeds).rules = rules := fresh.rules_after deeds
  rw [Priced, sameRules] at priced
  rw [← pass_eq_of_map_resetDiscount_eq rules sameCopies, priced]

theorem two_shirts_price_like_one_pass :
    let fresh : Checkout := ⟨"till", [shirtOffer], .null, []⟩
    let deeds : List CheckoutDeed :=
      [.scan (.item (shirt (.flag true))), .discount 0 (.integer 7), .scan (.int 3),
        .scan (.item { shirt .zero with currency := .plain "USD" }),
        .scan (.item (shirt .zero)), .scan .null]
    fresh.Undisturbed deeds ∧
      (fresh.after deeds).cart =
        (pass [shirtOffer] ((fresh.taken deeds).map Item.copy)).cart := by
  intro fresh deeds
  have undisturbed : fresh.Undisturbed deeds := ⟨by decide, trivial⟩
  exact ⟨undisturbed,
    (scans_price_like_one_pass "till" [shirtOffer] .null deeds).2 undisturbed⟩

end Checkout

end RetailPricing
