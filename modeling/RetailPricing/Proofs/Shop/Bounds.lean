import RetailPricing.Proofs.Checkout.Repricing
import RetailPricing.Proofs.Shop.Basic

/-!
# The bounds of discounts in a shop

Whatever is done in a shop, in whatever order and with whatever outcome, every
item keeps its place and its product, and every item that is there came by
adjustments from one that was there before or was built by the deed
(`grows_perform`).  Since the constructor builds well-priced items and
adjustments keep them so, all discounts stay between nothing and the price.
-/

namespace RetailPricing

/-- Every item of `before` keeps its place, and every item of `after` was
adjusted from one of `before`, unless it is one of the `new` ones. -/
structure Grows (new : CartItem → Prop) (before after : Cart) : Prop where
  continued : Continues before after
  origin : ∀ item ∈ after, (∃ old ∈ before, old.Adjusted item) ∨ new item

namespace Grows

variable {new : CartItem → Prop} {before after : Cart}

theorem of_continues (continued : Continues before after)
    (sameLength : after.length = before.length) : Grows new before after :=
  ⟨continued, fun _ member => .inl (continued.exists_adjusted sameLength member)⟩

theorem refl (cart : Cart) : Grows new cart cart :=
  of_continues (.refl cart) rfl

theorem append_singleton {item : CartItem}
    (origin : (∃ old ∈ before, old.Adjusted item) ∨ new item) :
    Grows new before (before ++ [item]) := by
  refine ⟨.append before [item], fun other member => ?_⟩
  rcases List.mem_append.1 member with present | added
  · exact .inl ⟨other, present, .unchanged⟩
  · rw [List.mem_singleton.1 added]
    exact origin

/-- A property that adjustments keep holds everywhere if it holds of what was
there and of what is new. -/
theorem forall_mem {property : CartItem → Prop} (grown : Grows new before after)
    (kept : ∀ {item changed}, item.Adjusted changed → property item → property changed)
    (held : ∀ item ∈ before, property item) (newHeld : ∀ item, new item → property item) :
    ∀ item ∈ after, property item := by
  intro item member
  rcases grown.origin item member with ⟨old, present, adjusted⟩ | isNew
  · exact kept adjusted (held old present)
  · exact newHeld item isNew

end Grows

theorem mem_putBack {item : CartItem} {positions : List Nat} {entries items : Cart}
    (member : item ∈ putBack positions entries items) :
    item ∈ items ∨ item ∈ entries := by
  induction positions generalizing entries items with
  | nil => exact List.mem_append.1 member
  | cons position positions ih =>
      cases entries with
      | nil => exact .inl member
      | cons entry entries =>
          rcases ih member with present | later
          · rcases List.mem_or_eq_of_mem_set present with old | rfl
            · exact .inl old
            · exact .inr List.mem_cons_self
          · exact .inr (List.mem_cons_of_mem entry later)

theorem length_le_length_putBack (positions : List Nat) (entries items : Cart) :
    items.length ≤ (putBack positions entries items).length := by
  induction positions generalizing entries items with
  | nil => simp [putBack]
  | cons position positions ih =>
      cases entries with
      | nil => exact Nat.le_refl _
      | cons entry entries =>
          have sameLength : (items.set position entry).length = items.length :=
            List.length_set
          exact sameLength.symm.le.trans (ih entries _)

/-- Entries that were adjusted at their positions may be put back. -/
theorem continues_putBack {positions : List Nat} {entries start items : Cart}
    (continued : Continues start items)
    (adjusted : ∀ index position : Nat, positions[index]? = some position →
      ∃ old entry : CartItem, start[position]? = some old ∧
        entries[index]? = some entry ∧ old.Adjusted entry) :
    Continues start (putBack positions entries items) := by
  induction positions generalizing entries items with
  | nil => exact continued.trans (.append items entries)
  | cons position positions ih =>
      obtain ⟨old, entry, oldFound, entryFound, changed⟩ :=
        adjusted 0 position List.getElem?_cons_zero
      cases entries with
      | nil => cases entryFound
      | cons first others =>
          rw [List.getElem?_cons_zero, Option.some.injEq] at entryFound
          obtain ⟨present, presentFound, _⟩ := continued position old oldFound
          exact ih (continued.set oldFound presentFound (entryFound ▸ changed))
            fun index => adjusted (index + 1)

/-- The cart of a checkout grows by no more than a copy of the scanned item. -/
theorem grows_scan (checkout : Checkout) (given : Datum) :
    Grows (fun item => ∃ scanned, given = .item scanned ∧ scanned.Adjusted item)
      checkout.cart (checkout.scan given).checkout.cart := by
  cases taken : checkout.takenBy given with
  | none =>
      rw [Checkout.scan_of_refused taken]
      exact .refl checkout.cart
  | some scanned =>
      rw [Checkout.scan_of_taken taken]
      have passed := continues_pass checkout.rules (checkout.cart ++ [scanned.copy])
      refine ⟨(Continues.append checkout.cart [scanned.copy]).trans passed, ?_⟩
      intro item member
      obtain ⟨entry, present, adjusted⟩ :=
        passed.exists_adjusted (length_pass checkout.rules _) member
      rcases List.mem_append.1 present with old | arrived
      · exact .inl ⟨entry, old, adjusted⟩
      · rw [List.mem_singleton.1 arrived] at adjusted
        exact .inr ⟨scanned, Checkout.given_of_taken taken,
          Item.Adjusted.unchanged.reset.trans adjusted⟩

/-- The constructor accepts what the deed gives it and builds this item. -/
def ShopDeed.Builds (deed : ShopDeed) (item : CartItem) : Prop :=
  ∃ code name price currency discount,
    deed = .build code name price currency discount ∧
      Item.create code name price currency discount = .ok item

namespace Shop

/-- The entries of every checkout are items of the shop, each one once. -/
structure Consistent (shop : Shop) : Prop where
  present : ∀ till ∈ shop.tills, ∀ position ∈ till.entries, position < shop.items.length
  distinct : ∀ till ∈ shop.tills, till.entries.Nodup

variable {shop : Shop}

theorem grows_scanAt {new : CartItem → Prop} (consistent : shop.Consistent)
    {given : Datum} (known : ∀ item, given = .item item → item ∈ shop.items)
    (position : Nat) : Grows new shop.items (shop.scanAt position given).1.items := by
  rw [scanAt]
  split
  · exact .refl shop.items
  next till found =>
      have present := consistent.present till (List.mem_of_getElem? found)
      have scanned := grows_scan (till.checkout shop.items) given
      have gathered (index : Nat) := getElem?_entriesAt present index
      refine ⟨continues_putBack (.refl shop.items) ?_, ?_⟩
      · intro index entryAt indexed
        have within : entryAt < shop.items.length :=
          present entryAt (List.mem_of_getElem? indexed)
        have entryFound : (till.checkout shop.items).cart[index]? =
            some shop.items[entryAt] := by
          rw [Till.checkout, gathered, indexed, Option.bind_some,
            List.getElem?_eq_getElem within]
        obtain ⟨changed, changedFound, adjusted⟩ :=
          scanned.continued index _ entryFound
        exact ⟨shop.items[entryAt], changed, List.getElem?_eq_getElem within,
          changedFound, adjusted⟩
      · intro item member
        rcases mem_putBack member with old | entry
        · exact .inl ⟨item, old, .unchanged⟩
        · rcases scanned.origin item entry with
            ⟨old, entryOld, adjusted⟩ | ⟨source, sourced, adjusted⟩
          · obtain ⟨_, _, indexed⟩ := List.mem_filterMap.1 entryOld
            exact .inl ⟨old, List.mem_of_getElem? indexed, adjusted⟩
          · exact .inl ⟨source, known source sourced, adjusted⟩

/-- What a deed does to the items, however it ends. -/
theorem grows_perform (consistent : shop.Consistent) (deed : ShopDeed) :
    Grows deed.Builds shop.items (shop.perform deed).1.items := by
  cases deed with
  | build code name price currency discount =>
      rw [perform]
      split
      next item built =>
          exact .append_singleton (.inr ⟨_, _, _, _, _, rfl, built⟩)
      · exact .refl shop.items
  | change position deed =>
      rw [perform]
      split
      next changed performed =>
          obtain ⟨item, found, done⟩ := Option.map_eq_some_iff.1 performed
          exact .of_continues
            ((Continues.refl shop.items).set found found (ItemDeed.adjusted_of_perform done))
            List.length_set
      · exact .refl shop.items
      · exact .refl shop.items
  | copy position =>
      rw [perform]
      split
      next item found =>
          exact .append_singleton
            (.inl ⟨item, List.mem_of_getElem? found, Item.Adjusted.unchanged.reset⟩)
      · exact .refl shop.items
  | price entries rules =>
      rw [perform]
      split
      · split
        · exact .refl shop.items
        next admitted _ =>
            exact .of_continues (continues_passOver entries admitted shop.items)
              (length_passOver entries admitted shop.items)
      · exact .refl shop.items
  | openTill identity rules currency =>
      rw [perform]
      split
      · exact .refl shop.items
      · exact .refl shop.items
  | scan position item =>
      rw [perform]
      split
      next scanned found =>
          refine grows_scanAt consistent ?_ position
          rintro _ ⟨⟩
          exact List.mem_of_getElem? found
      · exact .refl shop.items
  | scanForeign position given foreign =>
      refine grows_scanAt consistent ?_ position
      rintro item rfl
      cases foreign

theorem consistent_empty : empty.Consistent where
  present := by
    intro till member
    cases member
  distinct := by
    intro till member
    cases member

/-- Further items do no harm to the checkouts. -/
theorem Consistent.of_length_le {other : Shop} (consistent : shop.Consistent)
    (sameTills : other.tills = shop.tills)
    (longer : shop.items.length ≤ other.items.length) : other.Consistent where
  present := by
    rw [sameTills]
    intro till member position entry
    exact lt_of_lt_of_le (consistent.present till member position entry) longer
  distinct := sameTills ▸ consistent.distinct

theorem consistent_scanAt (consistent : shop.Consistent) (position : Nat) (given : Datum) :
    (shop.scanAt position given).1.Consistent := by
  rw [scanAt]
  split
  · exact consistent
  next till found =>
      have member := List.mem_of_getElem? found
      have present := consistent.present till member
      set entries := ((till.checkout shop.items).scan given).checkout.cart with entriesEq
      have longer := length_le_length_putBack till.entries entries shop.items
      constructor
      · intro other otherMember entry entryMember
        rcases List.mem_or_eq_of_mem_set otherMember with old | rfl
        · exact lt_of_lt_of_le (consistent.present other old entry entryMember) longer
        · rcases List.mem_append.1 entryMember with earlier | arrived
          · exact lt_of_lt_of_le (present entry earlier) longer
          · have bounds := List.mem_range'_1.1 arrived
            dsimp only at bounds ⊢
            omega
      · intro other otherMember
        rcases List.mem_or_eq_of_mem_set otherMember with old | rfl
        · exact consistent.distinct other old
        · refine List.nodup_append.2 ⟨consistent.distinct till member, List.nodup_range' _, ?_⟩
          intro earlier earlierMember arrived arrivedMember same
          have before := present earlier earlierMember
          have bounds := List.mem_range'_1.1 arrivedMember
          omega

theorem consistent_perform (consistent : shop.Consistent) (deed : ShopDeed) :
    (shop.perform deed).1.Consistent := by
  have longer := (grows_perform consistent deed).continued.length_le
  cases deed with
  | build | copy | change | price =>
      refine consistent.of_length_le ?_ longer
      rw [perform]
      repeat' split
      all_goals rfl
  | openTill identity rules currency =>
      rw [perform]
      split
      · constructor
        · intro till member position entry
          rcases List.mem_append.1 member with old | opened
          · exact consistent.present till old position entry
          · rw [List.mem_singleton.1 opened] at entry
            cases entry
        · intro till member
          rcases List.mem_append.1 member with old | opened
          · exact consistent.distinct till old
          · rw [List.mem_singleton.1 opened]
            exact List.nodup_nil
      · exact consistent
  | scan position item =>
      rw [perform]
      split
      · exact consistent_scanAt consistent position _
      · exact consistent
  | scanForeign position given foreign => exact consistent_scanAt consistent position given

theorem consistent_after (consistent : shop.Consistent) (deeds : List ShopDeed) :
    (shop.after deeds).Consistent := by
  induction deeds generalizing shop with
  | nil => exact consistent
  | cons deed rest ih => exact ih (consistent_perform consistent deed)

theorem continues_after (consistent : shop.Consistent) (deeds : List ShopDeed) :
    Continues shop.items (shop.after deeds).items := by
  induction deeds generalizing shop with
  | nil => exact .refl shop.items
  | cons deed rest ih =>
      exact (grows_perform consistent deed).continued.trans
        (ih (consistent_perform consistent deed))

/-- A property that adjustments keep holds of every item of a run if it holds
of the items that the run starts with and of those that its deeds build. -/
theorem forall_items_after {property : CartItem → Prop} (consistent : shop.Consistent)
    (kept : ∀ {item changed}, item.Adjusted changed → property item → property changed)
    (held : ∀ item ∈ shop.items, property item) {deeds : List ShopDeed}
    (built : ∀ deed ∈ deeds, ∀ item, deed.Builds item → property item) :
    ∀ item ∈ (shop.after deeds).items, property item := by
  induction deeds generalizing shop with
  | nil => exact held
  | cons deed rest ih =>
      refine ih (consistent_perform consistent deed) ?_ fun later member =>
        built later (List.mem_cons_of_mem deed member)
      exact (grows_perform consistent deed).forall_mem kept held
        (built deed List.mem_cons_self)

/-- After every step of every run, also where a step failed, each item has the
product that the constructor built for it, a price that is not negative, and a
discount between nothing and the price; and no later step changes its code,
price or currency.  The entries of all carts are among these items. -/
theorem discounts_bounded_throughout (deeds later : List ShopDeed) :
    let shop := empty.after deeds
    (∀ item ∈ shop.items, item.WellPriced ∧
      ∃ deed ∈ deeds, ∃ built, deed.Builds built ∧ item.SameProduct built) ∧
    (∀ (position : Nat) (item : CartItem), shop.items[position]? = some item →
      ∃ changed, (shop.after later).items[position]? = some changed ∧
        changed.SameProduct item) ∧
    ∀ till ∈ shop.tills, till.entries.Nodup ∧
      ∀ position ∈ till.entries, position < shop.items.length := by
  intro shop
  have consistent : shop.Consistent := consistent_after consistent_empty deeds
  refine ⟨?_, ?_, fun till member =>
    ⟨consistent.distinct till member, consistent.present till member⟩⟩
  · refine forall_items_after consistent_empty ?_ (by rintro _ ⟨⟩) ?_
    · rintro item changed adjusted ⟨wellPriced, deed, member, built, builds, product⟩
      refine ⟨adjusted.wellPriced wellPriced, deed, member, built, builds, ?_⟩
      exact Item.sameProduct_iff.2
        (adjusted.resetDiscount_eq.trans (Item.sameProduct_iff.1 product))
    · intro deed member item builds
      obtain ⟨_, _, _, _, _, _, accepted⟩ := id builds
      exact ⟨Item.wellPriced_of_create accepted, deed, member, item, builds,
        Item.sameProduct_iff.2 rfl⟩
  · intro position item found
    obtain ⟨changed, changedFound, adjusted⟩ :=
      continues_after consistent later position item found
    exact ⟨changed, changedFound, Item.sameProduct_iff.2 adjusted.resetDiscount_eq⟩

/-- A mug for 5 is built, given a discount of 9, and copied. -/
def mugDeeds : List ShopDeed :=
  [.build (.text (.plain "MUG")) .null (.int 5) none none,
    .change 0 (.setDiscount (.int 9)), .copy 0]

/-- The mug with the whole price as its discount. -/
def freeMug : CartItem :=
  ⟨.plain "MUG", .null, .ofInt 5, Item.defaultCurrency, .ofAmount (.ofInt 5)⟩

theorem mug_discount_bounded :
    (empty.after mugDeeds).items[0]? = some freeMug ∧ freeMug.WellPriced ∧
      ∃ changed, ((empty.after mugDeeds).after [.change 0 .resetDiscount]).items[0]? =
        some changed ∧ changed.SameProduct freeMug :=
  have bounded := discounts_bounded_throughout mugDeeds [.change 0 .resetDiscount]
  have found : (empty.after mugDeeds).items[0]? = some freeMug := rfl
  ⟨found, (bounded.1 freeMug (List.mem_of_getElem? found)).1, bounded.2.1 0 freeMug found⟩

end Shop

end RetailPricing
