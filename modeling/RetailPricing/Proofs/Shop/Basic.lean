import RetailPricing.Checkout
import RetailPricing.Proofs.Engine.SharedItems

/-!
# Shops

A shop holds every item there is: those that callers built, their copies, and
the entries of all carts.  Items are known by their positions, which never
change, and carts are rows of positions.  So one item can be changed by any
caller who has it, also while it stands in a cart.

Every deed ends with an outcome and leaves a shop, whether it succeeded or not.
-/

namespace RetailPricing

/-- A checkout whose cart refers to items of the shop. -/
structure Till where
  identity : String
  rules : List PricingRule
  currency : Datum
  entries : List Nat

/-- All items and all checkouts. -/
structure Shop where
  items : Cart
  tills : List Till

/-- The checkout with the present state of its entries. -/
def Till.checkout (till : Till) (items : Cart) : Checkout :=
  ⟨till.identity, till.rules, till.currency, entriesAt till.entries items⟩

/-- Puts entries back to their positions.  Entries without a position become
further items. -/
def putBack : List Nat → Cart → Cart → Cart
  | position :: positions, entry :: entries, items =>
      putBack positions entries (items.set position entry)
  | _ :: _, [], items => items
  | [], entries, items => items ++ entries

/-- What callers can do in a shop. -/
inductive ShopDeed
  | build (code name price : Datum) (currency discount : Option Datum)
  | change (item : Nat) (deed : ItemDeed)
  | copy (item : Nat)
  | price (entries : List Nat) (rules : Datum)
  | openTill (identity : String) (rules currency : Datum)
  | scan (till item : Nat)
  | scanForeign (till : Nat) (given : Datum) (foreign : given.item? = none)

namespace Shop

def empty : Shop := ⟨[], []⟩

/-- The outcome of a deed on something that does not exist. -/
def missing : Except Fault Unit := .error (.mishap .missingPosition)

/-- Adds an item behind the others. -/
def withItem (shop : Shop) (item : CartItem) : Shop :=
  { shop with items := shop.items ++ [item] }

/-- Scans at one of the checkouts. -/
def scanAt (shop : Shop) (position : Nat) (given : Datum) : Shop × Except Fault Unit :=
  match shop.tills[position]? with
  | none => (shop, missing)
  | some till =>
      let report := (till.checkout shop.items).scan given
      let items := putBack till.entries report.checkout.cart shop.items
      let arrived := List.range' shop.items.length (items.length - shop.items.length)
      let changed : Till :=
        { till with
          currency := report.checkout.currency
          entries := till.entries ++ arrived }
      (⟨items, shop.tills.set position changed⟩, report.outcome)

/-- The shop after a deed, and how the deed ended. -/
def perform (shop : Shop) : ShopDeed → Shop × Except Fault Unit
  | .build code name price currency discount =>
      match Item.create code name price currency discount with
      | .ok item => (shop.withItem item, .ok ())
      | .error fault => (shop, .error (.validation fault))
  | .change position deed =>
      match shop.items[position]?.map deed.perform with
      | some (.ok changed) =>
          ({ shop with items := shop.items.set position changed }, .ok ())
      | some (.error mishap) => (shop, .error (.mishap mishap))
      | none => (shop, missing)
  | .copy position =>
      match shop.items[position]? with
      | some item => (shop.withItem item.copy, .ok ())
      | none => (shop, missing)
  | .price entries rules =>
      if entries.all (· < shop.items.length) then
        match rulesForPass rules with
        | .error fault => (shop, .error fault)
        | .ok rules =>
            let report := passOver entries rules shop.items
            ({ shop with items := report.cart }, report.outcome)
      else (shop, missing)
  | .openTill identity rules currency =>
      match Checkout.create identity rules currency with
      | .ok checkout =>
          ({ shop with
              tills := shop.tills ++ [⟨identity, checkout.rules, checkout.currency, []⟩] },
            .ok ())
      | .error fault => (shop, .error fault)
  | .scan position item =>
      match shop.items[item]? with
      | some scanned => shop.scanAt position (.item scanned)
      | none => (shop, missing)
  | .scanForeign position given _ => shop.scanAt position given

/-- The shop after a row of deeds. -/
def after (shop : Shop) (deeds : List ShopDeed) : Shop :=
  deeds.foldl (fun shop deed => (shop.perform deed).1) shop

end Shop

end RetailPricing
