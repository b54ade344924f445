import RetailPricing.Proofs.Shop.Bounds
import RetailPricing.Proofs.Storefront.Scans
import RetailPricing.Service

/-!
# Checkouts do not interfere

All items of a shop are within reach of every checkout: callers may scan the same
item several times, at one checkout or at several, and even entries that are in a
cart already.  But the carts of a shop keep apart (`Separated`).  A scan puts a copy
of the scanned item behind all items, and the pass that follows changes the entries
of its own cart only.

So what is seen of a shop is a storefront (`view`), in which every checkout has a
cart of its own.  There each checkout is as it is alone.
-/

namespace RetailPricing

section PuttingBack

variable {positions : List Nat} {entries items : Cart}

theorem getElem?_putBack_of_not_mem {other : Nat} (within : other < items.length)
    (apart : other ∉ positions) :
    (putBack positions entries items)[other]? = items[other]? := by
  induction positions generalizing entries items with
  | nil => exact List.getElem?_append_left within
  | cons position rest ih =>
      cases entries with
      | nil => rfl
      | cons entry entries =>
          rw [List.mem_cons, not_or] at apart
          have kept : (putBack rest entries (items.set position entry))[other]? =
              (items.set position entry)[other]? :=
            ih (List.length_set.symm ▸ within) apart.2
          exact kept.trans (List.getElem?_set_ne (Ne.symm apart.1))

theorem length_putBack (enough : positions.length ≤ entries.length) :
    (putBack positions entries items).length =
      items.length + (entries.length - positions.length) := by
  induction positions generalizing entries items with
  | nil => exact List.length_append
  | cons position rest ih =>
      cases entries with
      | nil => exact absurd enough (Nat.not_succ_le_zero _)
      | cons entry entries =>
          rw [putBack, ih (Nat.le_of_succ_le_succ enough), List.length_set, List.length_cons,
            List.length_cons, Nat.succ_sub_succ]

/-- What was put back is found where it was put, and what is new behind all items. -/
theorem entriesAt_putBack (present : ∀ position ∈ positions, position < items.length)
    (distinct : positions.Nodup) (enough : positions.length ≤ entries.length) :
    entriesAt
        (positions ++ List.range' items.length (entries.length - positions.length))
        (putBack positions entries items) = entries := by
  induction positions generalizing entries items with
  | nil => exact entriesAt_range' items entries
  | cons position rest ih =>
      cases entries with
      | nil => exact absurd enough (Nat.not_succ_le_zero _)
      | cons entry entries =>
          have within : position < items.length := present position List.mem_cons_self
          have sameLength : (items.set position entry).length = items.length :=
            List.length_set
          obtain ⟨apart, restDistinct⟩ := List.nodup_cons.1 distinct
          have here : (putBack rest entries (items.set position entry))[position]? =
              some entry := by
            rw [getElem?_putBack_of_not_mem (sameLength.symm ▸ within) apart]
            exact List.getElem?_set_self within
          have restPresent : ∀ other ∈ rest, other < (items.set position entry).length :=
            fun other member => sameLength.symm ▸ present other (List.mem_cons_of_mem _ member)
          have behind : entriesAt (rest ++ _) (putBack rest entries _) = entries :=
            ih restPresent restDistinct (Nat.le_of_succ_le_succ enough)
          rw [sameLength] at behind
          rw [putBack, List.cons_append, entriesAt, List.filterMap_cons, here,
            List.length_cons, List.length_cons, Nat.succ_sub_succ]
          exact congrArg (entry :: ·) behind

end PuttingBack

/-- A scan changes nothing but the currency and the cart. -/
theorem Checkout.checkout_scan (checkout : Checkout) (given : Datum) :
    (checkout.scan given).checkout =
      { checkout with
        currency := (checkout.scan given).checkout.currency
        cart := (checkout.scan given).checkout.cart } := by
  cases taken : checkout.takenBy given with
  | none => rw [scan_of_refused taken]
  | some item => rw [scan_of_taken taken]

/-- What a checkout is opened with. -/
structure Opening where
  identity : String
  rules : List PricingRule
  currency : Datum

namespace Opening

/-- The checkout in a shop. -/
def till (opening : Opening) : Till :=
  ⟨opening.identity, opening.rules, opening.currency, []⟩

/-- The checkout with a cart of its own. -/
def checkout (opening : Opening) : Checkout :=
  ⟨opening.identity, opening.rules, opening.currency, []⟩

end Opening

/-- A scan call at a checkout of a shop: of one of the items, or of what is no item. -/
inductive ShopScan
  | item (till position : Nat)
  | foreign (till : Nat) (given : Datum) (noItem : given.item? = none)

def ShopScan.deed : ShopScan → ShopDeed
  | .item till position => .scan till position
  | .foreign till given noItem => .scanForeign till given noItem

namespace Shop

/-- What a scan call hands in, unless there is no such item. -/
def call? (shop : Shop) : ShopScan → Option ScanCall
  | .item till position => shop.items[position]?.map fun item => ⟨till, .item item⟩
  | .foreign till given _ => some ⟨till, given⟩

/-- What scan calls hand in, and how they end. -/
def trace : Shop → List ShopScan → List ScanEvent
  | _, [] => []
  | shop, scan :: rest =>
      let (next, outcome) := shop.perform scan.deed
      ((shop.call? scan).map fun call => ⟨call, outcome⟩).toList ++ trace next rest

theorem perform_deed (shop : Shop) (scan : ShopScan) :
    shop.perform scan.deed =
      match shop.call? scan with
      | some call => shop.scanAt call.position call.given
      | none => (shop, missing) := by
  cases scan with
  | foreign till given noItem => rfl
  | item till position =>
      rw [ShopScan.deed, perform, call?]
      cases shop.items[position]? <;> rfl

/-- Carts are apart from each other, and from the first `callers` items. -/
structure Separated (callers : Nat) (shop : Shop) : Prop extends shop.Consistent where
  enough : callers ≤ shop.items.length
  own : ∀ till ∈ shop.tills, ∀ position ∈ till.entries, callers ≤ position
  apart : ∀ (first second : Nat) (firstTill secondTill : Till),
    shop.tills[first]? = some firstTill → shop.tills[second]? = some secondTill →
      first ≠ second → firstTill.entries.Disjoint secondTill.entries

/-- The checkouts of a shop as a storefront shows them, each with its cart. -/
def view (journal : Journal) (shop : Shop) : Storefront :=
  ⟨shop.tills.map fun till => till.checkout shop.items, journal⟩

variable {shop : Shop} {callers : Nat}

theorem entries_opened {openings : List Opening} {till : Till}
    (member : till ∈ openings.map Opening.till) : till.entries = [] := by
  obtain ⟨opening, _, rfl⟩ := List.mem_map.1 member
  rfl

theorem separated_opened (items : Cart) (openings : List Opening) :
    Separated items.length ⟨items, openings.map Opening.till⟩ where
  present := by
    intro till member position entry
    rw [entries_opened member] at entry
    cases entry
  distinct := by
    intro till member
    rw [entries_opened member]
    exact List.nodup_nil
  enough := le_rfl
  own := by
    intro till member position entry
    rw [entries_opened member] at entry
    cases entry
  apart := by
    intro first second firstTill secondTill found _ _
    rw [entries_opened (List.mem_of_getElem? found)]
    exact List.disjoint_nil_left _

/-- A cart that grows by new items stays apart from the others. -/
theorem Separated.disjoint_grown (separated : shop.Separated callers) {position other : Nat}
    {till otherTill : Till} (found : shop.tills[position]? = some till)
    (otherFound : shop.tills[other]? = some otherTill) (different : position ≠ other)
    (arrived : Nat) :
    (till.entries ++ List.range' shop.items.length arrived).Disjoint otherTill.entries := by
  intro entry inGrown inOther
  rcases List.mem_append.1 inGrown with earlier | late
  · exact separated.apart position other till otherTill found otherFound different earlier
      inOther
  · have within := separated.present otherTill (List.mem_of_getElem? otherFound) entry inOther
    exact absurd (List.mem_range'_1.1 late).1 (Nat.not_le.2 within)

theorem Separated.scanAt (separated : shop.Separated callers) (position : Nat)
    (given : Datum) : (shop.scanAt position given).1.Separated callers := by
  have consistent := consistent_scanAt separated.toConsistent position given
  rw [Shop.scanAt] at consistent ⊢
  split
  · exact separated
  next till found =>
      rw [found] at consistent
      have longer := length_le_length_putBack till.entries
        ((till.checkout shop.items).scan given).checkout.cart shop.items
      have member := List.mem_of_getElem? found
      refine ⟨consistent, separated.enough.trans longer, ?_, ?_⟩
      · intro other otherMember entry entryMember
        rcases List.mem_or_eq_of_mem_set otherMember with old | rfl
        · exact separated.own other old entry entryMember
        · rcases List.mem_append.1 entryMember with earlier | late
          · exact separated.own till member entry earlier
          · exact separated.enough.trans (List.mem_range'_1.1 late).1
      · intro first second firstTill secondTill firstFound secondFound different
        -- The cart that has grown is the first, the second, or neither of the two.
        have within : position < shop.tills.length := (List.getElem?_eq_some_iff.1 found).1
        by_cases atFirst : position = first
        · subst atFirst
          rw [List.getElem?_set_self within, Option.some.injEq] at firstFound
          rw [List.getElem?_set_ne different] at secondFound
          exact firstFound ▸ separated.disjoint_grown found secondFound different _
        · rw [List.getElem?_set_ne atFirst] at firstFound
          by_cases atSecond : position = second
          · subst atSecond
            rw [List.getElem?_set_self within, Option.some.injEq] at secondFound
            exact secondFound ▸ (separated.disjoint_grown found firstFound atFirst _).symm
          · rw [List.getElem?_set_ne atSecond] at secondFound
            exact separated.apart first second firstTill secondTill firstFound secondFound
              different

/-! ## What is seen of a shop -/

/-- At the checkout of the scan, the shop shows what the scan makes of it. -/
theorem checkout_scanned {till : Till} {items : Cart}
    (present : ∀ position ∈ till.entries, position < items.length)
    (distinct : till.entries.Nodup) (given : Datum) :
    let scanned := ((till.checkout items).scan given).checkout
    let changed := putBack till.entries scanned.cart items
    Till.checkout
        { till with
          currency := scanned.currency
          entries := till.entries ++
            List.range' items.length (changed.length - items.length) }
        changed = scanned := by
  intro scanned changed
  have enough : till.entries.length ≤ scanned.cart.length := by
    have grown := (till.checkout items).length_cart_scan given
    rw [Till.checkout, length_entriesAt present] at grown
    exact grown ▸ Nat.le_add_right _ _
  have arrived : changed.length - items.length =
      scanned.cart.length - till.entries.length := by
    rw [length_putBack enough, Nat.add_sub_cancel_left]
  have cart : entriesAt (till.entries ++
      List.range' items.length (changed.length - items.length)) changed = scanned.cart := by
    rw [arrived]
    exact entriesAt_putBack present distinct enough
  rw [Till.checkout, cart]
  exact ((till.checkout items).checkout_scan given).symm

theorem checkout_unscanned {till other : Till} {items : Cart}
    (present : ∀ position ∈ other.entries, position < items.length)
    (apart : till.entries.Disjoint other.entries) (entries : Cart) :
    other.checkout (putBack till.entries entries items) = other.checkout items := by
  have same : entriesAt other.entries (putBack till.entries entries items) =
      entriesAt other.entries items :=
    List.filterMap_congr fun position member =>
      getElem?_putBack_of_not_mem (present position member) fun scanned => apart scanned member
  rw [Till.checkout, same, Till.checkout]

/-- Apart from the checkout of the scan, all checkouts are shown as before. -/
theorem view_set {position : Nat} {till : Till} (separated : shop.Separated callers)
    (found : shop.tills[position]? = some till) (entries : Cart) (scanned : Checkout) :
    (shop.tills.map fun other => other.checkout (putBack till.entries entries shop.items)).set
        position scanned =
      (shop.tills.map fun other => other.checkout shop.items).set position scanned := by
  apply List.ext_getElem?
  intro index
  rw [List.getElem?_set, List.getElem?_set, List.length_map, List.length_map]
  split
  · rfl
  next elsewhere =>
      rw [List.getElem?_map, List.getElem?_map]
      cases otherFound : shop.tills[index]? with
      | none => rfl
      | some other =>
          have present := separated.present other (List.mem_of_getElem? otherFound)
          have apart := separated.apart position index till other found otherFound elsewhere
          exact congrArg some (checkout_unscanned present apart entries)

/-- A scan in a shop is seen as a scan in a storefront, and ends as it does. -/
theorem exists_view_scanAt (separated : shop.Separated callers) (journal : Journal)
    (position : Nat) (given : Datum) :
    ∃ later, (shop.view journal).scan position given =
      ((shop.scanAt position given).1.view later, (shop.scanAt position given).2) := by
  have seen : (shop.view journal).checkouts[position]? =
      shop.tills[position]?.map fun till => till.checkout shop.items :=
    List.getElem?_map
  rw [Storefront.scan, Storefront.visit, seen, scanAt]
  cases found : shop.tills[position]? with
  | none => exact ⟨journal, rfl⟩
  | some till =>
      have member := List.mem_of_getElem? found
      refine ⟨journal ++ ((till.checkout shop.items).scan given).journal, ?_⟩
      dsimp only [Option.map_some, view]
      rw [List.map_set, checkout_scanned (separated.present till member)
        (separated.distinct till member), view_set separated found]

/-- A row of scan calls in a shop is seen as one in a storefront. -/
theorem exists_view_after (separated : shop.Separated callers) (journal : Journal)
    (scans : List ShopScan) :
    let calls := (shop.trace scans).map ScanEvent.toScanCall
    (shop.view journal).trace calls = shop.trace scans ∧
      ∃ later, (shop.view journal).afterScans calls =
        (shop.after (scans.map ShopScan.deed)).view later := by
  induction scans generalizing shop journal with
  | nil => exact ⟨rfl, journal, rfl⟩
  | cons scan rest ih =>
      rw [trace, List.map_cons, after, List.foldl_cons, perform_deed]
      cases called : shop.call? scan with
      | none => exact ih separated journal
      | some call =>
          obtain ⟨between, step⟩ :=
            exists_view_scanAt separated journal call.position call.given
          obtain ⟨sameEvents, later, same⟩ :=
            ih (separated.scanAt call.position call.given) between
          dsimp only [Option.map_some, Option.toList_some]
          rw [List.singleton_append, List.map_cons, Storefront.trace, Storefront.afterScans,
            List.foldl_cons, step]
          exact ⟨congrArg (_ :: ·) sameEvents, later, same⟩

theorem getElem?_items_scanAt (separated : shop.Separated callers) {item : Nat}
    (outside : item < callers) (position : Nat) (given : Datum) :
    (shop.scanAt position given).1.items[item]? = shop.items[item]? := by
  rw [scanAt]
  split
  · rfl
  next till found =>
      refine getElem?_putBack_of_not_mem (outside.trans_le separated.enough) fun entry => ?_
      have behind := separated.own till (List.mem_of_getElem? found) item entry
      exact Nat.not_le.2 outside behind

theorem getElem?_items_after (separated : shop.Separated callers) {item : Nat}
    (outside : item < callers) (scans : List ShopScan) :
    (shop.after (scans.map ShopScan.deed)).items[item]? = shop.items[item]? := by
  induction scans generalizing shop with
  | nil => rfl
  | cons scan rest ih =>
      rw [List.map_cons, after, List.foldl_cons, perform_deed]
      cases shop.call? scan with
      | none => exact ih separated
      | some call =>
          exact (ih (separated.scanAt call.position call.given)).trans
            (getElem?_items_scanAt separated outside call.position call.given)

theorem countsEntries_opened (openings : List Opening) :
    Storefront.CountsEntries ⟨openings.map Opening.checkout, []⟩ := by
  have none : ∀ size ∈ (openings.map Opening.checkout).map fun checkout => checkout.cart.length,
      size = 0 := by
    rw [List.map_map]
    intro size member
    obtain ⟨opening, _, rfl⟩ := List.mem_map.1 member
    rfl
  exact (List.sum_eq_zero none).symm

/-- Checkouts of one shop do not interfere, whatever rules and currencies they are
opened with, and in whatever order scan calls reach them, also calls that are
refused or end with a fault, and calls for items that are scanned several times, at
one checkout or at several.  Each checkout ends as it does when it makes its own
scans alone, with the same entries, discounts, currency and therefore totals, and so
do its scans.  The items of callers stay as they are, with their discounts.  And what
is seen of the shop is the storefront in which the same calls were made, whose meter
shows as many scanned items as there are entries in all carts. -/
theorem checkouts_do_not_interfere (items : Cart) (openings : List Opening)
    (scans : List ShopScan) :
    let opened : Shop := ⟨items, openings.map Opening.till⟩
    let closed := opened.after (scans.map ShopScan.deed)
    let events := opened.trace scans
    (∀ (position : Nat) (opening : Opening), openings[position]? = some opening →
      let own := eventsAt position events
      (closed.tills[position]?.map fun till => till.checkout closed.items) =
          some (opening.checkout.after (own.map fun event => .scan event.given)) ∧
        own.map ScanEvent.outcome =
          opening.checkout.outcomes (own.map fun event => event.given)) ∧
    (∀ (position : Nat) (item : CartItem),
      items[position]? = some item → closed.items[position]? = some item) ∧
    let front := Storefront.afterScans ⟨openings.map Opening.checkout, []⟩
      (events.map ScanEvent.toScanCall)
    front.checkouts = (closed.tills.map fun till => till.checkout closed.items) ∧
      ∀ service, (front.meter service).sample? "pricing_items_scanned_total" [] =
        some (front.checkouts.map fun checkout => checkout.cart.length).sum := by
  intro opened closed events
  let start : Storefront := ⟨openings.map Opening.checkout, []⟩
  have separated : opened.Separated items.length := separated_opened items openings
  have seen : opened.view [] = start := by
    rw [view, List.map_map]
    rfl
  obtain ⟨sameEvents, later, same⟩ := exists_view_after separated [] scans
  rw [seen] at sameEvents same
  refine ⟨fun position opening found => ?_, fun position item found => ?_, ?_, fun service => ?_⟩
  · have present : start.checkouts[position]? = some opening.checkout := by
      rw [List.getElem?_map, found]
      rfl
    have alone := Storefront.alone_at present (events.map ScanEvent.toScanCall)
    rw [sameEvents, same] at alone
    rw [← List.getElem?_map]
    exact alone
  · have within : position < items.length := (List.getElem?_eq_some_iff.1 found).1
    exact (getElem?_items_after separated within scans).trans found
  · exact congrArg Storefront.checkouts same
  · have counted : start.CountsEntries := countsEntries_opened openings
    rw [Storefront.sample_scans, counted.afterScans]

/-- One shirt is scanned twice at the first checkout.  The second one, for another
currency, refuses it in between. -/
theorem one_shirt_at_two_checkouts :
    let openings : List Opening :=
      [⟨"first", [shirtOffer], .null⟩, ⟨"second", [shirtOffer], .ofString "USD"⟩]
    let scans : List ShopScan := [.item 0 0, .item 1 0, .item 0 0]
    let opened : Shop := ⟨[shirt (.integer 7)], openings.map Opening.till⟩
    let closed := opened.after (scans.map ShopScan.deed)
    let front := Storefront.afterScans ⟨openings.map Opening.checkout, []⟩
      ((opened.trace scans).map ScanEvent.toScanCall)
    closed.items[0]? = some (shirt (.integer 7)) ∧
      (closed.tills[1]?.map fun till => till.checkout closed.items) =
        some (Opening.checkout ⟨"second", [shirtOffer], .ofString "USD"⟩) ∧
      (front.meter "pricing").sample? "pricing_items_scanned_total" [] = some 2 := by
  intro openings scans opened closed front
  obtain ⟨alone, kept, _, counted⟩ :=
    checkouts_do_not_interfere [shirt (.integer 7)] openings scans
  have second := (alone 1 ⟨"second", [shirtOffer], .ofString "USD"⟩ rfl).1
  exact ⟨kept 0 _ rfl, second, counted "pricing"⟩

-- A service opens all its checkouts with its rules and in its currency.
example (service : Service) (identity : String) :
    service.openCheckout identity =
      Opening.checkout
        ⟨identity, service.rules, .ofString service.settings.defaultCurrency⟩ :=
  rfl

end Shop

end RetailPricing
