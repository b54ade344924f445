import RetailPricing.Proofs.Checkout.Repricing
import RetailPricing.Storefront

/-!
# Scans in a storefront

Scan calls reach the checkouts of a storefront in any order.  Each checkout sees
its own calls only: it goes through the same states as when it is alone, and its
calls end in the same way (`alone_at`).

The journal is common to all checkouts.  It counts a scan exactly when a cart
grows, so it counts as many scans as there are entries in all carts
(`CountsEntries`).
-/

namespace RetailPricing

namespace Journal

/-- The number of scans that the journal counts. -/
def scans (journal : Journal) : Nat :=
  journal.counts.count .itemScanned

theorem scans_append (first second : Journal) :
    scans (first ++ second) = scans first + scans second := by
  rw [scans, counts_append, List.count_append]
  rfl

theorem scans_boundTo (checkout : String) (journal : Journal) :
    scans (boundTo checkout journal) = scans journal := by
  rw [scans, counts_boundTo]
  rfl

theorem Uncounted.scans_eq_zero {journal : Journal} (uncounted : journal.Uncounted) :
    journal.scans = 0 := by
  rw [scans, uncounted]
  rfl

end Journal

theorem Meter.scans_record (meter : Meter) (c : Count) :
    (meter.record c).scans = meter.scans + [c].count .itemScanned := by
  cases c <;> rfl

theorem Meter.scans_recordAll (meter : Meter) (journal : Journal) :
    (meter.recordAll journal).scans = meter.scans + journal.scans := by
  rw [recordAll, Journal.scans]
  generalize journal.counts = counts
  induction counts generalizing meter with
  | nil => rfl
  | cons c rest ih =>
      rw [List.foldl_cons, ih, scans_record, Nat.add_assoc, ← List.count_append]
      rfl

theorem scans_applyActions (positions : List Nat) (actions : List Action) (cart : Cart) :
    (applyActions positions actions cart).journal.scans = 0 := by
  induction actions generalizing cart with
  | nil => rfl
  | cons action rest ih =>
      dsimp only [applyActions]
      split
      · rfl
      next changed _ =>
          rw [← ih changed]
          exact (Journal.scans_append [_] _).trans (Nat.zero_add _)

theorem scans_tryRule (index : Nat) (rule : PricingRule) (cart : Cart) :
    (tryRule Rule.selectPositions index rule cart).journal.scans = 0 := by
  have quiet := (rule.picks_selectPositions cart).uncounted.scans_eq_zero
  dsimp only [tryRule]
  split
  · exact quiet
  · rw [Journal.scans_append, quiet]
    rfl
  · rw [Journal.scans_append, quiet]
    rfl
  next positions _ _ =>
      have applied := scans_applyActions positions rule.actions cart
      split
      · rw [Journal.scans_append, quiet, applied]
      · rw [Journal.scans_append, Journal.scans_append, quiet, applied]
        rfl

theorem scans_runRules (index : Nat) (rules : List PricingRule) (cart : Cart) :
    (runRules Rule.selectPositions index rules cart).journal.scans = 0 := by
  induction rules generalizing index cart with
  | nil => rfl
  | cons rule rest ih =>
      have first := scans_tryRule index rule cart
      rw [runRules]
      cases ended : (tryRule Rule.selectPositions index rule cart).broken with
      | some mishap => rw [PassReport.followedBy_of_broken ended, first]
      | none =>
          rw [PassReport.followedBy_of_complete ended]
          dsimp only
          rw [Journal.scans_append, first, ih]

theorem scans_pass (rules : List PricingRule) (cart : Cart) :
    (pass rules cart).journal.scans = 0 := by
  rw [pass]
  dsimp only
  rw [Journal.scans_append, scans_runRules]
  rfl

namespace Checkout

/-- A scan is counted when the cart grows. -/
theorem length_cart_scan (checkout : Checkout) (given : Datum) :
    (checkout.scan given).checkout.cart.length =
      checkout.cart.length + (checkout.scan given).journal.scans := by
  cases given with
  | item item =>
      rw [scan, scanItem]
      split
      · dsimp only
        rw [Journal.scans_boundTo, Journal.scans_append, reprice]
        dsimp only
        rw [scans_pass, length_pass, List.length_append]
        rfl
      · rfl
  | _ => rfl

/-- How each of a row of scans ends. -/
def outcomes : Checkout → List Datum → List (Except Fault Unit)
  | _, [] => []
  | checkout, given :: rest =>
      (checkout.scan given).outcome :: outcomes (checkout.scan given).checkout rest

end Checkout

/-- A call to scan something at the checkout with this position. -/
structure ScanCall where
  position : Nat
  given : Datum

/-- A scan call and how it ended. -/
structure ScanEvent extends ScanCall where
  outcome : Except Fault Unit

/-- The events at the checkout with this position. -/
def eventsAt (position : Nat) (events : List ScanEvent) : List ScanEvent :=
  events.filter fun event => event.position = position

namespace Storefront

/-- The storefront after a row of scan calls. -/
def afterScans (storefront : Storefront) (calls : List ScanCall) : Storefront :=
  calls.foldl (fun storefront call => (storefront.scan call.position call.given).1) storefront

/-- The scan calls with the ends that they come to one after the other. -/
def trace : Storefront → List ScanCall → List ScanEvent
  | _, [] => []
  | storefront, call :: rest =>
      ⟨call, (storefront.scan call.position call.given).2⟩ ::
        trace (storefront.scan call.position call.given).1 rest

variable {storefront : Storefront}

theorem outcome_visit {position : Nat} {checkout : Checkout}
    (found : storefront.checkouts[position]? = some checkout)
    (activity : Checkout → ScanReport) :
    (storefront.visit position activity).2 = (activity checkout).outcome := by
  rw [visit, found]

/-- A checkout goes through the states that it goes through alone, and its scans end
as they do when it is alone. -/
theorem alone_at {position : Nat} {checkout : Checkout}
    (found : storefront.checkouts[position]? = some checkout) (calls : List ScanCall) :
    let own := eventsAt position (storefront.trace calls)
    (storefront.afterScans calls).checkouts[position]? =
        some (checkout.after (own.map fun event => .scan event.given)) ∧
      own.map ScanEvent.outcome = checkout.outcomes (own.map fun event => event.given) := by
  induction calls generalizing storefront checkout with
  | nil => exact ⟨found, rfl⟩
  | cons call rest ih =>
      by_cases here : call.position = position
      · subst here
        have visited := checkout_visit_self found fun checkout => checkout.scan call.given
        obtain ⟨later, outcomes⟩ := ih visited
        have own : eventsAt call.position (storefront.trace (call :: rest)) = _ :=
          List.filter_cons_of_pos (decide_eq_true rfl)
        dsimp only
        rw [own]
        refine ⟨later, ?_⟩
        rw [List.map_cons, List.map_cons, Checkout.outcomes]
        exact List.cons_eq_cons.2 ⟨outcome_visit found _, outcomes⟩
      · have unvisited := (checkout_visit_of_ne here storefront
          fun checkout => checkout.scan call.given).trans found
        obtain ⟨later, outcomes⟩ := ih unvisited
        have own : eventsAt position (storefront.trace (call :: rest)) = _ :=
          List.filter_cons_of_neg (by simpa using here)
        dsimp only
        rw [own]
        exact ⟨later, outcomes⟩

/-- The journal counts as many scans as there are entries in all carts. -/
def CountsEntries (storefront : Storefront) : Prop :=
  storefront.journal.scans =
    (storefront.checkouts.map fun checkout => checkout.cart.length).sum

theorem sum_map_set {α : Type} {f : α → Nat} {members : List α} {position : Nat} {old : α}
    (found : members[position]? = some old) (new : α) :
    ((members.set position new).map f).sum + f old = (members.map f).sum + f new := by
  induction members generalizing position with
  | nil => cases found
  | cons member rest ih =>
      cases position with
      | zero =>
          obtain rfl := Option.some.inj found
          simp only [List.set_cons_zero, List.map_cons, List.sum_cons]
          omega
      | succ position =>
          have behind := ih (show rest[position]? = some old from found)
          simp only [List.set_cons_succ, List.map_cons, List.sum_cons]
          omega

theorem CountsEntries.scan (counted : storefront.CountsEntries) (position : Nat)
    (given : Datum) : (storefront.scan position given).1.CountsEntries := by
  rw [Storefront.scan, visit]
  split
  · exact counted
  next checkout found =>
      have grown := checkout.length_cart_scan given
      have sums := sum_map_set (f := fun checkout : Checkout => checkout.cart.length) found
        (checkout.scan given).checkout
      rw [CountsEntries] at counted ⊢
      dsimp only
      rw [Journal.scans_append]
      omega

theorem CountsEntries.afterScans (counted : storefront.CountsEntries)
    (calls : List ScanCall) : (storefront.afterScans calls).CountsEntries := by
  induction calls generalizing storefront with
  | nil => exact counted
  | cons call rest ih => exact ih (counted.scan call.position call.given)

theorem sample_scans (service : String) (storefront : Storefront) :
    (storefront.meter service).sample? "pricing_items_scanned_total" [] =
      some storefront.journal.scans := by
  have scanned : (storefront.meter service).scans = 0 + storefront.journal.scans :=
    (Meter.create service).scans_recordAll storefront.journal
  rw [Nat.zero_add] at scanned
  exact congrArg some scanned

end Storefront

end RetailPricing
