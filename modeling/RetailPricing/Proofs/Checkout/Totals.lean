import RetailPricing.Proofs.Amount.Sums
import RetailPricing.Proofs.Checkout.Repricing
import RetailPricing.Proofs.Engine.Attempts
import RetailPricing.Proofs.Engine.Invariants

/-!
# Totals of a checkout

A checkout adds up the prices, the discounts and what is left to pay in the
order of the cart.  Money is kept to the working precision, so every addition is
rounded, and so is every difference of a price and its discount.  The totals are
the exact sums whenever each of these results has a place within the precision;
then what is to be paid is the exact difference of the other two.

The only fault is the overflow of a sum or a difference.
-/

namespace RetailPricing

namespace WorkingPrecision

/-- Adds a term, unless it has no value, and rounds the sum. -/
def addKept (p : WorkingPrecision) (total : ℚ) (term : Except Signal ℚ) :
    Except Signal ℚ := do
  p.keep (total + (← term))

/-- The sum of the terms, rounded after each of them. -/
def roundedSum (p : WorkingPrecision) (terms : List (Except Signal ℚ)) : Except Signal ℚ :=
  terms.foldlM p.addKept 0

/-- Wherever the sum of the terms is broken off, it has a place within the
precision. -/
def AddsExactly (p : WorkingPrecision) (terms : List ℚ) : Prop :=
  ∀ part ∈ terms.inits, p.Represents part.sum

variable {p : WorkingPrecision}

theorem keep_error {q : ℚ} {s : Signal} (stopped : p.keep q = .error s) : s = .overflow := by
  rw [keep] at stopped
  split at stopped
  · exact (Except.error.inj stopped).symm
  · cases stopped

/-- Few digits at a place between the limits are represented. -/
theorem represents_of_digits {c e : ℤ} (digits : |c| < 10 ^ p.digits)
    (finest : p.finestExponent ≤ e) (coarsest : p.digits + e ≤ p.greatestExponent + 1) :
    p.Represents (c * 10 ^ e) := by
  have scale : (0 : ℚ) < 10 ^ e := zpow_pos (by norm_num) e
  refine ⟨c, e, rfl, digits, finest, ?_⟩
  calc |(c : ℚ) * 10 ^ e|
      = |(c : ℚ)| * 10 ^ e := by rw [abs_mul, abs_of_pos scale]
    _ < 10 ^ p.digits * 10 ^ e := mul_lt_mul_of_pos_right (by exact_mod_cast digits) scale
    _ = 10 ^ (p.digits + e) := by rw [zpow_add₀ (by norm_num), zpow_natCast]
    _ ≤ 10 ^ (p.greatestExponent + 1) := zpow_le_zpow_right₀ (by norm_num) coarsest

/-- Whole numbers of few digits are represented. -/
theorem represents_natCast {n : ℕ} (short : n < 10 ^ 28) : money.Represents n := by
  have digits : |(n : ℤ)| < 10 ^ money.digits := by
    rw [Nat.abs_cast]
    exact_mod_cast short
  simpa using represents_of_digits (e := 0) digits (by decide) (by decide)

/-- From any start, a sum of represented parts is not rounded. -/
theorem foldlM_addKept {start : ℚ} {terms : List ℚ}
    (fits : ∀ part ∈ terms.inits, p.Represents (start + part.sum)) :
    (terms.map .ok).foldlM p.addKept start = .ok (start + terms.sum) := by
  induction terms generalizing start with
  | nil =>
      rw [List.sum_nil, add_zero]
      rfl
  | cons term rest ih =>
      have here : p.addKept start (.ok term) = .ok (start + term) := by
        refine keep_of_represents ?_
        simpa using fits [term] (by simp)
      have later : ∀ part ∈ rest.inits, p.Represents (start + term + part.sum) := by
        intro part member
        have longer : term :: part ∈ (term :: rest).inits := by simpa using member
        rw [add_assoc, ← List.sum_cons]
        exact fits _ longer
      rw [List.map_cons, List.foldlM_cons, here, List.sum_cons, ← add_assoc]
      exact ih later

theorem roundedSum_of_addsExactly {terms : List ℚ} (adds : p.AddsExactly terms) :
    p.roundedSum (terms.map .ok) = .ok terms.sum := by
  have fits : ∀ part ∈ terms.inits, p.Represents (0 + part.sum) := by
    simp only [zero_add]
    exact adds
  rw [roundedSum, foldlM_addKept fits, zero_add]

/-- Sums of terms that overflow at worst overflow at worst. -/
theorem roundedSum_error {terms : List (Except Signal ℚ)}
    (overflowing : ∀ term ∈ terms, ∀ s, term = .error s → s = .overflow) {s : Signal}
    (stopped : p.roundedSum terms = .error s) : s = .overflow := by
  rw [roundedSum] at stopped
  generalize (0 : ℚ) = start at stopped
  induction terms generalizing start with
  | nil => cases stopped
  | cons term rest ih =>
      rw [List.foldlM_cons] at stopped
      rcases Outcome.bind_eq_error_iff.1 stopped with here | ⟨next, _, later⟩
      · rcases Outcome.bind_eq_error_iff.1 here with unknown | ⟨known, _, unkept⟩
        · exact overflowing term List.mem_cons_self s unknown
        · exact keep_error unkept
      · exact ih (fun other member => overflowing other (List.mem_cons_of_mem term member))
          next later

end WorkingPrecision

namespace Item

/-- The exact value of the discount. -/
def discountValue (item : CartItem) : ℚ :=
  item.discount.value?.getD 0

/-- The exact value of what is left to pay. -/
def netValue (item : CartItem) : ℚ :=
  item.price.value - item.discountValue

theorem discountValue_of_ofAmount {item : CartItem} {granted : Amount}
    (discounted : item.discount = .ofAmount granted) : item.discountValue = granted.value := by
  rw [discountValue, discounted, Number.value?_ofAmount, Option.getD_some]

/-- The net price is the exact difference, rounded once. -/
theorem map_value_netPrice {item : CartItem} (amount : item.AmountGranted) :
    item.netPrice.map Amount.value =
      (WorkingPrecision.money.keep item.netValue).mapError .signal := by
  obtain ⟨granted, discounted⟩ := amount
  rw [netPrice, netValue, discountValue_of_ofAmount discounted, discounted,
    ← Amount.map_value_sub WorkingPrecision.usable_money]
  exact Outcome.map_mapError _ _ _

end Item

theorem sum_map_netValue (cart : Cart) :
    (cart.map Item.netValue).sum =
      (cart.map fun item => item.price.value).sum - (cart.map Item.discountValue).sum := by
  induction cart with
  | nil => simp
  | cons item rest ih =>
      simp only [List.map_cons, List.sum_cons, ih, Item.netValue]
      ring

namespace Checkout

open WorkingPrecision (money represents_natCast)

/-- A checkout adds as numbers are added that are rounded at every step. -/
theorem map_value_sumOfEach {amountOf : CartItem → Except Mishap Amount}
    {termOf : CartItem → Except Signal ℚ} {cart : Cart}
    (known : ∀ item ∈ cart,
      (amountOf item).map Amount.value = (termOf item).mapError .signal) :
    (sumOfEach amountOf cart).map Amount.value =
      (money.roundedSum (cart.map termOf)).mapError .signal := by
  rw [sumOfEach, WorkingPrecision.roundedSum, ← Amount.value_zero]
  refine Outcome.map_foldlM_eq_mapError (fun total item member => ?_) Amount.zero
  refine Outcome.map_bind_eq_mapError (known item member) fun amount => ?_
  rw [Outcome.map_mapError, Amount.map_value_add WorkingPrecision.usable_money]

section Totals

variable (checkout : Checkout)

theorem map_value_subtotal :
    checkout.subtotal.map Amount.value =
      (money.roundedSum ((checkout.cart.map fun item => item.price.value).map .ok)).mapError
        .signal := by
  rw [List.map_map]
  exact map_value_sumOfEach fun item _ => rfl

theorem map_value_discountTotal (granted : ∀ item ∈ checkout.cart, item.AmountGranted) :
    checkout.discountTotal.map Amount.value =
      (money.roundedSum ((checkout.cart.map Item.discountValue).map .ok)).mapError
        .signal := by
  rw [List.map_map]
  refine map_value_sumOfEach fun item member => ?_
  obtain ⟨amount, discounted⟩ := granted item member
  rw [Function.comp_apply, Item.discountValue_of_ofAmount discounted, discounted]
  rfl

theorem map_value_total (granted : ∀ item ∈ checkout.cart, item.AmountGranted) :
    checkout.total.map Amount.value =
      (money.roundedSum ((checkout.cart.map Item.netValue).map money.keep)).mapError
        .signal := by
  rw [List.map_map]
  exact map_value_sumOfEach fun item member => Item.map_value_netPrice (granted item member)

end Totals

section Results

variable {result : Except Mishap Amount}

/-- A total that cannot be computed has overflowed. -/
theorem mishap_eq_overflow {terms : List (Except Signal ℚ)}
    (computed : result.map Amount.value = (money.roundedSum terms).mapError .signal)
    (overflowing : ∀ term ∈ terms, ∀ s, term = .error s → s = .overflow) :
    ∀ mishap, result = .error mishap → mishap = .signal .overflow := by
  rintro mishap rfl
  obtain ⟨s, stopped, rfl⟩ := Outcome.mapError_eq_error_iff.1 computed.symm
  rw [WorkingPrecision.roundedSum_error overflowing stopped]

theorem map_value_eq_sum {terms : List ℚ}
    (computed : result.map Amount.value =
      (money.roundedSum (terms.map .ok)).mapError .signal)
    (adds : money.AddsExactly terms) : result.map Amount.value = .ok terms.sum := by
  rw [computed, WorkingPrecision.roundedSum_of_addsExactly adds]
  rfl

end Results

/-! ## Totals after scans -/

/-- After scans alone, every discount is an amount that rules have granted. -/
theorem amountGranted_after_scans {checkout : Checkout} (scanned : List Datum)
    (all : ∀ item ∈ checkout.cart, item.AmountGranted) :
    ∀ item ∈ (checkout.after (scanned.map .scan)).cart, item.AmountGranted := by
  induction scanned generalizing checkout with
  | nil => exact all
  | cons given rest ih =>
      have next : ∀ item ∈ (checkout.perform (.scan given)).cart, item.AmountGranted := by
        rw [perform]
        cases taken : checkout.takenBy given with
        | none => rwa [scan_of_refused taken]
        | some item =>
            rw [scan_of_taken taken]
            exact amountGranted_pass checkout.rules _
      exact ih next

/-- After scans alone, each total is the sum of the exact values in the order of the
cart, rounded at every step, and only an overflow can prevent it.  It is the exact
sum when the sums on the way to it have a place within the precision, and so, for
what is left to pay, have the differences. -/
theorem totals_are_rounded_sums (identity : String) (rules : List PricingRule)
    (currency : Datum) (scanned : List Datum) :
    let fresh : Checkout := ⟨identity, rules, currency, []⟩
    let checkout := fresh.after (scanned.map .scan)
    let prices := checkout.cart.map fun item => item.price.value
    let discounts := checkout.cart.map Item.discountValue
    let nets := checkout.cart.map Item.netValue
    (∀ item ∈ checkout.cart, item.discount.value? = some item.discountValue) ∧
      nets.sum = prices.sum - discounts.sum ∧
      checkout.subtotal.map Amount.value =
        (money.roundedSum (prices.map .ok)).mapError .signal ∧
      checkout.discountTotal.map Amount.value =
        (money.roundedSum (discounts.map .ok)).mapError .signal ∧
      checkout.total.map Amount.value =
        (money.roundedSum (nets.map money.keep)).mapError .signal ∧
      (∀ result ∈ [checkout.subtotal, checkout.discountTotal, checkout.total],
        ∀ mishap, result = .error mishap → mishap = .signal .overflow) ∧
      (money.AddsExactly prices → checkout.subtotal.map Amount.value = .ok prices.sum) ∧
      (money.AddsExactly discounts →
        checkout.discountTotal.map Amount.value = .ok discounts.sum) ∧
      ((∀ net ∈ nets, money.Represents net) → money.AddsExactly nets →
        checkout.total.map Amount.value = .ok nets.sum) := by
  intro fresh checkout prices discounts nets
  have granted : ∀ item ∈ checkout.cart, item.AmountGranted :=
    amountGranted_after_scans scanned (by simp [fresh])
  have subtotal := checkout.map_value_subtotal
  have discountTotal := checkout.map_value_discountTotal granted
  have total := checkout.map_value_total granted
  refine ⟨?_, sum_map_netValue checkout.cart, subtotal, discountTotal, total, ?_,
    map_value_eq_sum subtotal, map_value_eq_sum discountTotal, ?_⟩
  · intro item member
    obtain ⟨amount, discounted⟩ := granted item member
    rw [Item.discountValue_of_ofAmount discounted, discounted, Number.value?_ofAmount]
  · have known (terms : List ℚ) : ∀ term ∈ terms.map Except.ok, ∀ s : Signal,
        term = .error s → s = .overflow := by simp
    have kept : ∀ term ∈ nets.map money.keep, ∀ s, term = .error s → s = .overflow := by
      intro term member s stopped
      obtain ⟨net, _, rfl⟩ := List.mem_map.1 member
      exact WorkingPrecision.keep_error stopped
    simp only [List.forall_mem_cons]
    exact ⟨mishap_eq_overflow subtotal (known prices),
      mishap_eq_overflow discountTotal (known discounts), mishap_eq_overflow total kept,
      List.forall_mem_nil _⟩
  · intro represented adds
    have unrounded : nets.map money.keep = nets.map .ok :=
      List.map_congr_left fun net member =>
        WorkingPrecision.keep_of_represents (represented net member)
    rw [unrounded] at total
    exact map_value_eq_sum total adds

/-- A shirt at a tenth off and a mug are added exactly. -/
theorem shirt_and_mug_total :
    let fresh : Checkout := ⟨"till", [shirtOffer], .null, []⟩
    let checkout := fresh.after ([.item (shirt .zero), .item mug].map .scan)
    money.AddsExactly [20, 10] ∧ money.AddsExactly [2, 0] ∧ money.AddsExactly [18, 10] ∧
      (∀ net ∈ [18, 10], money.Represents net) ∧
      checkout.subtotal.map Amount.value = .ok 30 ∧
      checkout.discountTotal.map Amount.value = .ok 2 ∧
      checkout.total.map Amount.value = .ok 28 := by
  intro fresh checkout
  have addsWhole (m n : ℕ) (short : m + n < 10 ^ 28) : money.AddsExactly [(m : ℚ), n] := by
    have none : money.Represents 0 := by exact_mod_cast represents_natCast (n := 0) (by norm_num)
    have one : money.Represents m := represents_natCast (by omega)
    have both : money.Represents (m + n) := by exact_mod_cast represents_natCast short
    simpa [WorkingPrecision.AddsExactly] using ⟨none, one, both⟩
  have entries : checkout.cart = [shirt (.ofAmount ⟨false, 200, -2⟩), mug] := rfl
  have prices : (checkout.cart.map fun item => item.price.value) = [20, 10] := by
    rw [entries]
    norm_num [shirt, mug, Amount.value, Amount.magnitude, Amount.ofInt]
  have discounts : checkout.cart.map Item.discountValue = [2, 0] := by
    rw [entries]
    norm_num [shirt, mug, Item.discountValue, Amount.value, Amount.magnitude]
  have nets : checkout.cart.map Item.netValue = [18, 10] := by
    rw [entries]
    norm_num [shirt, mug, Item.netValue, Item.discountValue, Amount.value, Amount.magnitude,
      Amount.ofInt]
  have addsPrices : money.AddsExactly [20, 10] := by exact_mod_cast addsWhole 20 10 (by norm_num)
  have addsDiscounts : money.AddsExactly [2, 0] := by exact_mod_cast addsWhole 2 0 (by norm_num)
  have addsNets : money.AddsExactly [18, 10] := by exact_mod_cast addsWhole 18 10 (by norm_num)
  have represented : ∀ net ∈ [18, 10], money.Represents net := by
    have eighteen := represents_natCast (n := 18) (by norm_num)
    have ten := represents_natCast (n := 10) (by norm_num)
    simpa using And.intro eighteen ten
  obtain ⟨_, _, _, _, _, _, subtotal, discountTotal, total⟩ :=
    totals_are_rounded_sums "till" [shirtOffer] .null [.item (shirt .zero), .item mug]
  refine ⟨addsPrices, addsDiscounts, addsNets, represented, ?_, ?_, ?_⟩
  · refine (subtotal (prices ▸ addsPrices)).trans ?_
    rw [prices]
    norm_num
  · refine (discountTotal (discounts ▸ addsDiscounts)).trans ?_
    rw [discounts]
    norm_num
  · refine (total (nets ▸ represented) (nets ▸ addsNets)).trans ?_
    rw [nets]
    norm_num

end Checkout

/-- A gem with a price of thirty places. -/
def gem : CartItem :=
  ⟨.plain "GEM", .null, ⟨false, 3333333333333333333333333333333, -30⟩, Item.defaultCurrency,
    .zero⟩

/-- A tenth off every gem. -/
def gemOffer : PricingRule :=
  ⟨[⟨.itemCode, .eq, .text (.plain "GEM")⟩], [⟨.discountPercent, .ofInt 10⟩], .null⟩

/-- The totals of a single gem are not exact, and there is none for a vault. -/
theorem gem_totals_are_inexact :
    let gems := (⟨"till", [gemOffer], .null, []⟩ : Checkout).after [.scan (.item gem)]
    let vaults := (⟨"till", [], .null, []⟩ : Checkout).after [.scan (.item vault)]
    let subtotal : Amount := ⟨false, 3333333333333333333333333333, -27⟩
    let discountTotal : Amount := ⟨false, 3333333333333333333333333333, -28⟩
    let total : Amount := ⟨false, 3000000000000000000000000000, -27⟩
    Item.create (.text (.plain "GEM")) .null
        (.decimal (.finite ⟨false, 3333333333333333333333333333333, -30⟩)) none none =
          .ok gem ∧
      Item.create (.text (.plain "VAULT")) .null (.decimal (.finite ⟨false, 1, 1000000⟩)) none
        none = .ok vault ∧
      offerFor "GEM" "discount_percent" 10 = .ok gemOffer ∧
      gems.subtotal = .ok subtotal ∧ gems.discountTotal = .ok discountTotal ∧
      gems.total = .ok total ∧
      subtotal.value ≠ (gems.cart.map fun item => item.price.value).sum ∧
      total.value ≠ (gems.cart.map Item.netValue).sum ∧
      total.value ≠ subtotal.value - discountTotal.value ∧
      vaults.subtotal = .error (.signal .overflow) := by
  intro gems vaults subtotal discountTotal total
  have entries : gems.cart = [{ gem with discount := .ofAmount discountTotal }] := rfl
  refine ⟨rfl, rfl, rfl, rfl, rfl, rfl, ?_, ?_, ?_, rfl⟩
  · rw [entries]
    norm_num [subtotal, gem, Amount.value, Amount.magnitude]
  · rw [entries]
    norm_num [total, discountTotal, gem, Item.netValue, Item.discountValue, Amount.value,
      Amount.magnitude]
  · norm_num [total, subtotal, discountTotal, Amount.value, Amount.magnitude]

end RetailPricing
