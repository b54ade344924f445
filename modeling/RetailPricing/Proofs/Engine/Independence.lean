import RetailPricing.Proofs.Engine.Frame
import RetailPricing.Proofs.Engine.Selection

/-!
# What a pass depends on

A pass sees three things of an item: the characters of its code, its price, and
its discount, which it takes back first.  Replacing an item by its `essence`
drops everything else, and a pass over essences is the essence of the pass.
So two carts that agree on codes and prices are priced alike, down to the
journal and to the point where a pass breaks off, whatever discounts they came
with.

Because a pass leaves codes and prices alone, passes of the same rules repeat
each other, after any history of the cart.
-/

namespace RetailPricing

namespace Item

/-- What a pass sees of an item. -/
def essence (item : CartItem) : CartItem :=
  { item with
    code := .plain item.code.content
    name := .null
    currency := defaultCurrency }

/-- Two items are sold alike when their codes read the same and their prices
are the same amount, digit for digit. -/
structure SoldAlike (item other : CartItem) : Prop where
  code : item.code.agrees other.code = true
  price : item.price = other.price

theorem SoldAlike.essence_resetDiscount_eq {item other : CartItem}
    (alike : item.SoldAlike other) :
    item.resetDiscount.essence = other.resetDiscount.essence := by
  have sameContent : item.code.content = other.code.content :=
    Text.agrees_iff.1 alike.code
  simp only [essence, resetDiscount, sameContent, alike.price]

theorem grant_essence (item : CartItem) (wanted : Number) :
    item.essence.grant wanted = (item.grant wanted).map essence := by
  simp only [grant, essence]
  cases grantedDiscount item.price wanted with
  | error s => rfl
  | ok granted => rfl

end Item

theorem Action.apply_essence (action : Action) (item : CartItem) :
    action.apply item.essence = (action.apply item).map Item.essence := by
  have granting (wanted : Number) :
      (item.essence.grant wanted).mapError Mishap.signal =
        ((item.grant wanted).mapError Mishap.signal).map Item.essence := by
    rw [Item.grant_essence]
    cases item.grant wanted with
    | error s => rfl
    | ok changed => rfl
  unfold Action.apply
  cases action.kind with
  | fixedPrice =>
      dsimp only
      rw [show item.essence.price = item.price from rfl]
      cases Action.fixedPriceDiscount action.value item.price with
      | error s => rfl
      | ok discount => exact granting _
  | discountPercent =>
      dsimp only
      rw [show item.essence.price = item.price from rfl,
        show item.essence.discount = item.discount from rfl]
      cases Action.increasedDiscount action.value item.price item.discount with
      | error mishap => rfl
      | ok discount => exact granting _

theorem Action.applyAt_essence (action : Action) (positions : List Nat) (cart : Cart) :
    action.applyAt positions (cart.map Item.essence) =
      Prod.map (List.map Item.essence) id (action.applyAt positions cart) := by
  induction positions generalizing cart with
  | nil => rfl
  | cons position rest ih =>
      dsimp only [Action.applyAt]
      rw [List.getElem?_map]
      cases cart[position]? with
      | none => exact ih cart
      | some item =>
          dsimp only [Option.map_some]
          rw [Action.apply_essence]
          cases action.apply item with
          | error mishap => rfl
          | ok changed =>
              dsimp only [Except.map]
              rw [← List.map_set]
              exact ih _

/-- The progress with its cart changed. -/
def Progress.mapCart (change : Cart → Cart) (progress : Progress) : Progress :=
  { progress with cart := change progress.cart }

/-- The report with its cart changed. -/
def PassReport.mapCart (change : Cart → Cart) (report : PassReport) : PassReport :=
  { report with cart := change report.cart }

theorem PassReport.followedBy_mapCart {change : Cart → Cart} (first : PassReport)
    {next : Cart → PassReport}
    (sameNext : ∀ cart, next (change cart) = (next cart).mapCart change) :
    (first.mapCart change).followedBy next = (first.followedBy next).mapCart change := by
  have sameEnd : (first.mapCart change).broken = first.broken := rfl
  cases ended : first.broken with
  | some mishap =>
      rw [followedBy_of_broken ended, followedBy_of_broken (sameEnd.trans ended)]
  | none =>
      rw [followedBy_of_complete ended, followedBy_of_complete (sameEnd.trans ended)]
      simp only [mapCart, sameNext]

theorem applyActions_essence (positions : List Nat) (actions : List Action)
    (cart : Cart) :
    applyActions positions actions (cart.map Item.essence) =
      (applyActions positions actions cart).mapCart (List.map Item.essence) := by
  induction actions generalizing cart with
  | nil => rfl
  | cons action rest ih =>
      dsimp only [applyActions]
      rw [Action.applyAt_essence]
      obtain ⟨changed, broken⟩ := action.applyAt positions cart
      cases broken with
      | some mishap => rfl
      | none =>
          dsimp only [Prod.map, id]
          rw [ih changed]
          rfl

theorem tryRule_essence (index : Nat) (rule : PricingRule) (cart : Cart) :
    tryRule Rule.selectPositions index rule (cart.map Item.essence) =
      (tryRule Rule.selectPositions index rule cart).mapCart
        (List.map Item.essence) := by
  have sameSelection := rule.selectPositions_map Item.essence (fun _ => rfl) cart
  dsimp only [tryRule]
  rw [sameSelection]
  split
  · rfl
  · rfl
  · rfl
  next positions _ _ =>
      simp only [applyActions_essence, Progress.mapCart]
      cases (applyActions positions rule.actions cart).broken with
      | some mishap => rfl
      | none => rfl

theorem runRules_essence (index : Nat) (rules : List PricingRule) (cart : Cart) :
    runRules Rule.selectPositions index rules (cart.map Item.essence) =
      (runRules Rule.selectPositions index rules cart).mapCart
        (List.map Item.essence) := by
  induction rules generalizing index cart with
  | nil => rfl
  | cons rule rest ih =>
      rw [runRules, runRules, tryRule_essence]
      exact PassReport.followedBy_mapCart _ (ih (index + 1))

theorem pass_essence (rules : List PricingRule) (cart : Cart) :
    pass rules (cart.map Item.essence) =
      (pass rules cart).mapCart (List.map Item.essence) := by
  have resets : (cart.map Item.essence).map Item.resetDiscount =
      (cart.map Item.resetDiscount).map Item.essence := by
    rw [List.map_map, List.map_map]
    rfl
  rw [pass, resets, runRules_essence]
  rfl

/-- Carts that are sold alike have the same essence once their discounts are
taken back, and so the passes over them have the same essence. -/
theorem pass_mapCart_essence_eq (rules : List PricingRule) {first second : Cart}
    (alike : List.Forall₂ Item.SoldAlike first second) :
    (pass rules first).mapCart (List.map Item.essence) =
      (pass rules second).mapCart (List.map Item.essence) := by
  have sameResets : (first.map Item.essence).map Item.resetDiscount =
      (second.map Item.essence).map Item.resetDiscount := by
    induction alike with
    | nil => rfl
    | cons itemsAlike _ ih =>
        rw [List.map_cons, List.map_cons, ih]
        exact congrArg (· :: _) itemsAlike.essence_resetDiscount_eq
  rw [← pass_essence, ← pass_essence]
  exact pass_eq_of_map_resetDiscount_eq rules sameResets

/-- What can happen to a cart between passes, and passes themselves. -/
inductive CartDeed
  | price (rules : List PricingRule)
  | add (item : CartItem)
  | remove (position : Nat)
  | change (position : Nat) (deed : ItemDeed)

namespace CartDeed

/-- The cart after a deed. A deed that fails leaves the cart as it is; a pass
leaves its cart however it ends. -/
def perform (cart : Cart) : CartDeed → Cart
  | price rules => (pass rules cart).cart
  | add item => cart ++ [item]
  | remove position => cart.eraseIdx position
  | change position deed =>
      match cart[position]?.map deed.perform with
      | some (.ok changed) => cart.set position changed
      | some (.error _) => cart
      | none => cart

end CartDeed

/-- The cart after a row of deeds. -/
def Cart.after (cart : Cart) (deeds : List CartDeed) : Cart :=
  deeds.foldl CartDeed.perform cart

theorem Cart.after_append (cart : Cart) (earlier later : List CartDeed) :
    Cart.after cart (earlier ++ later) = Cart.after (Cart.after cart earlier) later :=
  List.foldl_append

/-- Pricing a cart several times in a row is pricing it once. -/
theorem Cart.after_replicate_price (rules : List PricingRule) (times : Nat)
    (cart : Cart) :
    Cart.after cart (List.replicate (times + 1) (.price rules)) =
      (pass rules cart).cart := by
  induction times generalizing cart with
  | zero => rfl
  | succ times ih =>
      rw [List.replicate_succ]
      change Cart.after (pass rules cart).cart _ = _
      rw [ih, pass_pass]

/-- A pass depends on nothing but codes, prices and rules: carts that agree on
codes and prices end alike and have the same discounts afterwards, whatever
discounts they had before and wherever the pass broke off.  After any history,
pricing a cart again changes nothing.  The entries of these carts are distinct
objects, so an action on one of them leaves the others alone. -/
theorem pass_depends_on_codes_and_prices (rules : List PricingRule) :
    (∀ first second : Cart, List.Forall₂ Item.SoldAlike first second →
      (pass rules first).outcome = (pass rules second).outcome ∧
        (pass rules first).failures = (pass rules second).failures ∧
        (pass rules first).broken = (pass rules second).broken ∧
        (pass rules first).cart.map Item.discount =
          (pass rules second).cart.map Item.discount) ∧
      ∀ (start : Cart) (history : List CartDeed) (times : Nat),
        Cart.after start (history ++ List.replicate (times + 1) (.price rules)) =
          Cart.after start (history ++ [.price rules]) := by
  constructor
  · intro first second alike
    have same := pass_mapCart_essence_eq rules alike
    have sameFailures := congrArg PassReport.failures same
    have sameBroken := congrArg PassReport.broken same
    have sameCart := congrArg (fun report => report.cart.map Item.discount) same
    simp only [PassReport.mapCart, List.map_map] at sameFailures sameBroken sameCart
    refine ⟨?_, sameFailures, sameBroken, sameCart⟩
    rw [PassReport.outcome, PassReport.outcome, sameFailures, sameBroken]
  · intro start history times
    rw [Cart.after_append, Cart.after_append, Cart.after_replicate_price]
    rfl

/-- A shirt for 20.00 with some discount. -/
def shirt (discount : Number) : CartItem :=
  ⟨.plain "TSHIRT", .null, ⟨false, 2000, -2⟩, .plain "EUR", discount⟩

/-- A tenth off every shirt. -/
def shirtOffer : PricingRule :=
  ⟨[⟨.itemCode, .eq, .text (.plain "TSHIRT")⟩], [⟨.discountPercent, .ofInt 10⟩], .null⟩

theorem shirts_priced_alike :
    List.Forall₂ Item.SoldAlike [shirt .zero, shirt (.flag true)]
        [shirt (.integer 7), shirt .zero] ∧
      (pass [shirtOffer] [shirt .zero, shirt (.flag true)]).cart.map Item.discount =
        (pass [shirtOffer] [shirt (.integer 7), shirt .zero]).cart.map Item.discount :=
  have alike : List.Forall₂ Item.SoldAlike [shirt .zero, shirt (.flag true)]
      [shirt (.integer 7), shirt .zero] :=
    .cons ⟨rfl, rfl⟩ (.cons ⟨rfl, rfl⟩ .nil)
  ⟨alike, ((pass_depends_on_codes_and_prices [shirtOffer]).1 _ _ alike).2.2.2⟩

end RetailPricing
