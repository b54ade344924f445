import RetailPricing.Journal.Meter
import RetailPricing.Proofs.Checkout.Repricing

/-!
# A scan takes an item or changes nothing

A checkout refuses to scan nothing, what is no item, and items in another
currency than the one that is fixed (`Refuses`).  A scan that is refused leaves
the checkout and the journal as they were.  Every other scan appends one entry,
also when the pass that follows fails or breaks off.

The currency of a checkout is fixed by the configuration or by the first item
that is taken.  From then on it stays, and all entries have it (`InCurrency`).
Passes and discounts set by callers do not touch the products of the entries, so
the currency needs a look at scans only.
-/

namespace RetailPricing

namespace Checkout

/-- The scans that a checkout refuses, with their faults. -/
inductive Refuses (checkout : Checkout) : Datum → ValidationFault → Prop
  | nothing : Refuses checkout .null .emptyScan
  | noItem {given : Datum} (something : given ≠ .null) (foreign : given.item? = none) :
      Refuses checkout given (.itemExpected given)
  | otherCurrency {item : CartItem} (fixed : checkout.currency ≠ .null)
      (different : ∀ t, checkout.currency = .text t → item.currency.content ≠ t.content) :
      Refuses checkout (.item item)
        (.currencyMismatch item.code item.currency checkout.currency)

/-- Every entry is in the currency of the checkout, which is fixed when there is
an entry. -/
def InCurrency (checkout : Checkout) : Prop :=
  ∀ entry ∈ checkout.cart, ∃ t, checkout.currency = .text t ∧
    entry.currency.content = t.content

variable {checkout : Checkout}

theorem acceptsCurrency_iff {item : CartItem} :
    checkout.acceptsCurrency item = true ↔ checkout.currency = .null ∨
      ∃ t, checkout.currency = .text t ∧ item.currency.content = t.content := by
  rw [acceptsCurrency]
  cases checkout.currency <;> simp [Text.agrees_iff]

theorem scan_of_refuses {given : Datum} {fault : ValidationFault}
    (refuses : checkout.Refuses given fault) :
    checkout.scan given = ⟨checkout, [], .error (.validation fault)⟩ := by
  cases refuses with
  | nothing => rfl
  | noItem something foreign =>
      cases given with
      | null => exact absurd rfl something
      | item item => cases foreign
      | _ => rfl
  | @otherCurrency item fixed different =>
      have mismatch : ¬ checkout.acceptsCurrency item = true := by
        rw [acceptsCurrency_iff]
        rintro (unfixed | ⟨t, isText, same⟩)
        · exact fixed unfixed
        · exact different t isText same
      rw [scan, scanItem, if_neg mismatch]

/-- What is not refused is an item in a currency that the checkout accepts. -/
theorem exists_accepted {given : Datum} (unrefused : ∀ fault, ¬ checkout.Refuses given fault) :
    ∃ item, given = .item item ∧ checkout.acceptsCurrency item = true := by
  cases isItem : given.item? with
  | none =>
      by_cases something : given = .null
      · subst something
        exact absurd .nothing (unrefused _)
      · exact absurd (.noItem something isItem) (unrefused _)
  | some item =>
      obtain rfl : given = .item item := by
        cases given with
        | item scanned => exact congrArg Datum.item (Option.some.inj isItem)
        | _ => cases isItem
      refine ⟨item, rfl, acceptsCurrency_iff.2 ?_⟩
      by_contra mismatch
      rw [not_or, not_exists] at mismatch
      exact unrefused _ (.otherCurrency mismatch.1 fun t isText same =>
        mismatch.2 t ⟨isText, same⟩)

theorem outcome_scan_of_accepted {item : CartItem}
    (accepted : checkout.acceptsCurrency item = true) :
    (checkout.scan (.item item)).outcome =
      (pass checkout.rules (checkout.cart ++ [item.copy])).outcome := by
  rw [scan, scanItem, if_pos accepted]
  rfl

theorem row_scan_of_accepted {item : CartItem}
    (accepted : checkout.acceptsCurrency item = true) :
    (checkout.scan (.item item)).checkout.cart.length = checkout.cart.length + 1 ∧
      List.Forall₂ Item.SameProduct (checkout.scan (.item item)).checkout.cart
        (checkout.cart ++ [item]) := by
  have products := products_perform_scan checkout (.item item)
  rw [(scan_of_accepted accepted).2, perform] at products
  have sameProducts : (checkout.scan (.item item)).checkout.cart.map Item.resetDiscount =
      (checkout.cart ++ [item]).map Item.resetDiscount := by
    rw [products, List.map_append]
    rfl
  have row := Item.forall₂_sameProduct_iff.2 sameProducts
  exact ⟨row.length_eq.trans List.length_append, row⟩

theorem acceptsCurrency_of_taken {given : Datum} {item : CartItem}
    (taken : checkout.takenBy given = some item) : checkout.acceptsCurrency item = true := by
  have scanned := given_of_taken taken
  subst scanned
  by_contra refused
  rw [(scan_of_mismatch refused).2] at taken
  cases taken

theorem currencyWith_of_fixed (fixed : checkout.currency ≠ .null) (item : CartItem) :
    checkout.currencyWith item = checkout.currency := by
  rw [currencyWith]
  split
  next unfixed => exact absurd unfixed fixed
  next => rfl

theorem currencyWith_of_unfixed (unfixed : checkout.currency = .null) (item : CartItem) :
    checkout.currencyWith item = .text item.currency := by
  rw [currencyWith, unfixed]

theorem currencyWith_of_text {t : Text} (isText : checkout.currency = .text t)
    (item : CartItem) : checkout.currencyWith item = .text t := by
  rw [currencyWith, isText]

/-- After an item is accepted, the currency is fixed and reads as that of the item. -/
theorem exists_currencyWith {item : CartItem} (accepted : checkout.acceptsCurrency item = true) :
    ∃ t, checkout.currencyWith item = .text t ∧ item.currency.content = t.content := by
  rcases acceptsCurrency_iff.1 accepted with unfixed | ⟨t, isText, same⟩
  · exact ⟨item.currency, currencyWith_of_unfixed unfixed item, rfl⟩
  · exact ⟨t, currencyWith_of_text isText item, same⟩

theorem currency_perform (fixed : checkout.currency ≠ .null) (deed : CheckoutDeed) :
    (checkout.perform deed).currency = checkout.currency := by
  cases deed with
  | discount position granted => rfl
  | scan given =>
      rw [perform]
      cases taken : checkout.takenBy given with
      | none => rw [scan_of_refused taken]
      | some item =>
          rw [scan_of_taken taken]
          exact currencyWith_of_fixed fixed item

theorem currency_after (fixed : checkout.currency ≠ .null) (deeds : List CheckoutDeed) :
    (checkout.after deeds).currency = checkout.currency := by
  induction deeds generalizing checkout with
  | nil => rfl
  | cons deed rest ih =>
      have kept := currency_perform fixed deed
      exact (ih (kept ▸ fixed)).trans kept

/-- Currencies are told by the products of the entries. -/
theorem inCurrency_iff : checkout.InCurrency ↔
    ∀ product ∈ checkout.cart.map Item.resetDiscount, ∃ t, checkout.currency = .text t ∧
      product.currency.content = t.content := by
  rw [InCurrency, List.forall_mem_map]
  rfl

theorem InCurrency.perform (held : checkout.InCurrency) (deed : CheckoutDeed) :
    (checkout.perform deed).InCurrency := by
  cases deed with
  | discount position granted =>
      rw [inCurrency_iff, products_perform_discount]
      exact inCurrency_iff.1 held
  | scan given =>
      cases taken : checkout.takenBy given with
      | none =>
          rw [Checkout.perform, scan_of_refused taken]
          exact held
      | some item =>
          have accepted := acceptsCurrency_of_taken taken
          have currency : (checkout.perform (.scan given)).currency =
              checkout.currencyWith item := by
            rw [Checkout.perform, scan_of_taken taken]
          rw [inCurrency_iff, products_perform_scan, taken, currency]
          intro product member
          rcases List.mem_append.1 member with earlier | arrived
          · obtain ⟨t, isText, same⟩ := inCurrency_iff.1 held product earlier
            exact ⟨t, currencyWith_of_text isText item, same⟩
          · rw [List.mem_singleton.1 arrived]
            exact exists_currencyWith accepted

theorem InCurrency.after (held : checkout.InCurrency) (deeds : List CheckoutDeed) :
    (checkout.after deeds).InCurrency := by
  induction deeds generalizing checkout with
  | nil => exact held
  | cons deed rest ih => exact ih (held.perform deed)

/-- Whatever has happened at a checkout, a scan of nothing, of what is no item, or
of an item in another currency than the fixed one is refused, and the checkout and
every meter stay as they are.  Every other scan is one of an item: it ends as the
pass over the longer cart does, and leaves the cart with one more entry, whether
that pass succeeds or not.  This entry is a copy whose fields are not checked again,
which makes a difference only to items that are not well formed (`Item.copy`).
All entries are in the currency of the checkout, which the first item fixes where
the configuration has not, and which then stays. -/
theorem scan_takes_item_or_changes_nothing (identity : String) (rules : List PricingRule)
    (currency : Datum) (deeds : List CheckoutDeed) :
    let fresh : Checkout := ⟨identity, rules, currency, []⟩
    let checkout := fresh.after deeds
    (∀ given fault, checkout.Refuses given fault →
      (checkout.scan given).outcome = .error (.validation fault) ∧
        (checkout.scan given).checkout = checkout ∧
        ∀ meter : Meter, meter.recordAll (checkout.scan given).journal = meter) ∧
    (∀ given, (∀ fault, ¬ checkout.Refuses given fault) → ∃ item, given = .item item ∧
      let priced := pass rules (checkout.cart ++ [item.copy])
      let scanned := checkout.scan given
      scanned.outcome = priced.outcome ∧ scanned.checkout.cart = priced.cart ∧
        scanned.checkout.cart.length = checkout.cart.length + 1 ∧
        List.Forall₂ Item.SameProduct scanned.checkout.cart (checkout.cart ++ [item]) ∧
        (checkout.currency = .null → scanned.checkout.currency = .text item.currency)) ∧
    checkout.InCurrency ∧
    (checkout.currency ≠ .null →
      ∀ later, (checkout.after later).currency = checkout.currency) := by
  intro fresh checkout
  have sameRules : checkout.rules = rules := fresh.rules_after deeds
  have freshInCurrency : fresh.InCurrency := List.forall_mem_nil _
  refine ⟨fun given fault refuses => ?_, fun given unrefused => ?_,
    freshInCurrency.after deeds, currency_after⟩
  · rw [scan_of_refuses refuses]
    exact ⟨rfl, rfl, fun meter => rfl⟩
  · obtain ⟨item, rfl, accepted⟩ := exists_accepted unrefused
    obtain ⟨grown, row⟩ := row_scan_of_accepted accepted
    refine ⟨item, rfl, ?_, ?_, grown, row, fun unfixed => ?_⟩
    · rw [outcome_scan_of_accepted accepted, sameRules]
    · rw [(scan_of_accepted accepted).1, sameRules]
    · rw [(scan_of_accepted accepted).1]
      exact currencyWith_of_unfixed unfixed item

/-- The empty currency is one, so it refuses shirts for euros.  Where nothing is
configured, the first shirt is taken. -/
theorem shirt_scanned_under_empty_and_no_currency :
    let empty : Checkout := ⟨"till", [shirtOffer], .ofString "", []⟩
    let unset : Checkout := ⟨"till", [shirtOffer], .null, []⟩
    let given : Datum := .item (shirt .zero)
    (empty.scan given).checkout = empty ∧
      (unset.scan given).checkout.currency = .text (.plain "EUR") := by
  intro empty unset given
  have refuses : empty.Refuses given _ := .otherCurrency nofun fun t isText => by
    cases isText
    decide
  have unrefused : ∀ fault, ¬ unset.Refuses (.item (shirt .zero)) fault := by
    rintro _ (_ | ⟨_, foreign⟩ | ⟨fixed, _⟩)
    · cases foreign
    · exact fixed rfl
  have underEmpty := scan_takes_item_or_changes_nothing "till" [shirtOffer] (.ofString "") []
  have underNone := scan_takes_item_or_changes_nothing "till" [shirtOffer] .null []
  obtain ⟨item, same, _, _, _, _, fixes⟩ := underNone.2.1 given unrefused
  obtain rfl := Datum.item.inj same
  exact ⟨(underEmpty.1 given _ refuses).2.1, fixes rfl⟩

end Checkout

end RetailPricing
