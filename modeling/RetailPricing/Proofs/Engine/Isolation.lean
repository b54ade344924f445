import RetailPricing.Proofs.Engine.Attempts
import RetailPricing.Proofs.Engine.Independence
import RetailPricing.Proofs.Engine.SharedItems

/-!
# Rules that fail leave no trace but their report

Whether a rule can be evaluated depends on the products in the cart only, and a
rule that cannot be has not touched any item.  So a pass reports exactly the
rules that fail on the cart as it was given (`failures_runRules`), and what it
leaves of the cart is what the other rules alone would have left
(`runRules_filter_takesPart`).

Everything is said of carts that may hold one item several times; a cart in
which every item stands once is a special case.
-/

namespace RetailPricing

namespace Rule

/-- Selecting from the cart ends with this fault. -/
def FailsWith (rule : PricingRule) (cart : Cart) (fault : EvaluationFault) : Prop :=
  ((rule.selectPositions cart).mapFault Fault.ofInterruption).outcome =
    .error (.evaluation fault)

theorem failsWith_iff {rule : PricingRule} {cart : Cart} {fault : EvaluationFault} :
    rule.FailsWith cart fault ↔
      ∃ inner, (rule.selectPositions cart).outcome = .error (.comparison inner) ∧
        fault = .comparison inner := by
  rw [FailsWith, Reported.mapFault, Outcome.mapError_eq_error_iff]
  constructor
  · rintro ⟨interruption, stopped, told⟩
    cases interruption with
    | comparison inner =>
        cases told
        exact ⟨inner, stopped, rfl⟩
    | signal s => cases told
  · rintro ⟨inner, stopped, rfl⟩
    exact ⟨.comparison inner, stopped, rfl⟩

theorem verdict_eq_failed_iff {rule : PricingRule} {cart : Cart} :
    rule.verdict cart = .failed ↔ ∃ fault, rule.FailsWith cart fault := by
  rw [verdict]
  cases ended : (rule.selectPositions cart).outcome with
  | error interruption =>
      obtain ⟨inner, rfl⟩ := (rule.picks_selectPositions cart).stopped ended
      exact ⟨fun _ => ⟨_, failsWith_iff.2 ⟨inner, ended, rfl⟩⟩, fun _ => rfl⟩
  | ok positions =>
      have neverFails : ¬ ∃ fault, rule.FailsWith cart fault := by
        rintro ⟨fault, fails⟩
        obtain ⟨inner, stopped, _⟩ := failsWith_iff.1 fails
        rw [ended] at stopped
        cases stopped
      cases positions with
      | nil => simp [neverFails]
      | cons position rest => simp [neverFails]

/-- The rule can change discounts in the cart: it is no rule without conditions
or actions, and it can be evaluated. -/
def takesPart (rule : PricingRule) (cart : Cart) : Bool :=
  !rule.isNoop && rule.verdict cart != .failed

end Rule

/-- The rules that cannot be evaluated for the cart, each with its index. -/
def failingRules (rules : List PricingRule) (cart : Cart) (index : Nat) :
    List (PricingRule × Nat) :=
  (rules.zipIdx index).filter fun entry => entry.1.verdict cart = .failed

theorem failingRules_cons (rule : PricingRule) (rest : List PricingRule) (cart : Cart)
    (index : Nat) :
    failingRules (rule :: rest) cart index =
      if rule.verdict cart = .failed then (rule, index) :: failingRules rest cart (index + 1)
      else failingRules rest cart (index + 1) := by
  by_cases failed : rule.verdict cart = .failed <;>
    simp [failingRules, List.zipIdx_cons, failed]

theorem mem_failingRules_iff {rules : List PricingRule} {cart : Cart} {rule : PricingRule}
    {index : Nat} :
    (rule, index) ∈ failingRules rules cart 0 ↔
      rules[index]? = some rule ∧ ∃ fault, rule.FailsWith cart fault := by
  rw [failingRules, List.mem_filter, List.mk_mem_zipIdx_iff_getElem?, decide_eq_true_iff,
    Rule.verdict_eq_failed_iff]

theorem failingRules_increasing (rules : List PricingRule) (cart : Cart) :
    ((failingRules rules cart 0).map Prod.snd).Pairwise (· < ·) := by
  have indices : rules.zipIdx.map Prod.snd = List.range rules.length := by
    rw [List.zipIdx_map_snd, List.range_eq_range']
  have sublist := (List.filter_sublist (l := rules.zipIdx)
    (p := fun entry => entry.1.verdict cart = .failed)).map Prod.snd
  rw [indices] at sublist
  exact List.pairwise_lt_range.sublist sublist

/-- Every failing rule is noted with its index, its label and its fault. -/
theorem forall₂_failuresAmong (cart : Cart) (index : Nat) (rules : List PricingRule) :
    List.Forall₂ (fun (entry : PricingRule × Nat) (failure : RuleFailure) =>
        failure.index = entry.2 ∧ failure.label = entry.1.label ∧
          entry.1.FailsWith cart (.comparison failure.fault))
      (failingRules rules cart index) (failuresAmong cart index rules) := by
  induction rules generalizing index with
  | nil => exact .nil
  | cons rule rest ih =>
      rw [failingRules_cons, failuresAmong, Rule.failure?]
      by_cases failed : rule.verdict cart = .failed
      · obtain ⟨fault, fails⟩ := Rule.verdict_eq_failed_iff.1 failed
        obtain ⟨inner, stopped, rfl⟩ := Rule.failsWith_iff.1 fails
        rw [if_pos failed, stopped]
        exact .cons ⟨rfl, rfl, fails⟩ (ih (index + 1))
      · rw [if_neg failed]
        split
        next inner stopped =>
            exact absurd (Rule.verdict_eq_failed_iff.2
              ⟨_, Rule.failsWith_iff.2 ⟨inner, stopped, rfl⟩⟩) failed
        · exact ih (index + 1)

/-- Rules that take part do not fail. -/
theorem failuresAmong_filter_takesPart (cart : Cart) (index : Nat)
    (rules : List PricingRule) :
    failuresAmong cart index (rules.filter fun rule => rule.takesPart cart) = [] := by
  have noted := forall₂_failuresAmong cart index
    (rules.filter fun rule => rule.takesPart cart)
  have noneFails : failingRules (rules.filter fun rule => rule.takesPart cart) cart index = [] := by
    refine List.filter_eq_nil_iff.2 fun entry member => ?_
    have kept := (List.mem_filter.1 (List.fst_mem_of_mem_zipIdx member)).2
    rw [Rule.takesPart, Bool.and_eq_true, bne_iff_ne] at kept
    exact fun failed => kept.2 (of_decide_eq_true failed)
  rw [noneFails] at noted
  exact List.forall₂_nil_left_iff.1 noted

/-! ## Passes over shared items -/

section Shared

variable {entries : List Nat}

theorem map_resetDiscount_entriesAt (entries : List Nat) (items : Cart) :
    (entriesAt entries items).map Item.resetDiscount =
      entriesAt entries (items.map Item.resetDiscount) := by
  rw [entriesAt, entriesAt, List.map_filterMap]
  simp only [List.getElem?_map]

/-- Items of the same products make carts of the same products. -/
theorem entriesAt_sameProducts (entries : List Nat) {items changed : Cart}
    (sameProducts : changed.map Item.resetDiscount = items.map Item.resetDiscount) :
    (entriesAt entries changed).map Item.resetDiscount =
      (entriesAt entries items).map Item.resetDiscount := by
  rw [map_resetDiscount_entriesAt, sameProducts, map_resetDiscount_entriesAt]

/-- A rule that cannot be evaluated leaves the items as they are. -/
theorem tryRule_of_failsWith {rule : PricingRule} {items : Cart} {inner : ComparisonFault}
    (fails : rule.FailsWith (entriesAt entries items) (.comparison inner)) (index : Nat) :
    let report := tryRule (Rule.selectAmong entries) index rule items
    report.cart = items ∧ report.broken = none ∧
      report.failures = [⟨index, rule.label, inner⟩] := by
  obtain ⟨_, stopped, ⟨⟩⟩ := Rule.failsWith_iff.1 fails
  have stops : (rule.selectAmong entries items).outcome = .error (.comparison inner) :=
    Outcome.map_eq_error_iff.2 stopped
  dsimp only [tryRule]
  rw [stops]
  exact ⟨rfl, rfl, rfl⟩

theorem tryRule_of_noop {rule : PricingRule} (noop : rule.isNoop = true) (items : Cart)
    (index : Nat) :
    let report := tryRule (Rule.selectAmong entries) index rule items
    report.cart = items ∧ report.broken = none := by
  have selectsNothing : (rule.selectAmong entries items).outcome = .ok [] := by
    rw [Rule.selectAmong, Rule.selectPositions_of_noop noop]
    rfl
  dsimp only [tryRule]
  rw [selectsNothing]
  exact ⟨rfl, rfl⟩

theorem failures_tryRule (index : Nat) (rule : PricingRule) (items : Cart) :
    (tryRule (Rule.selectAmong entries) index rule items).failures =
      (rule.failure? (entriesAt entries items) index).toList := by
  have picks := rule.picks_selectPositions (entriesAt entries items)
  dsimp only [tryRule, Rule.failure?, Rule.selectAmong, Reported.mapResult]
  cases ended : (rule.selectPositions (entriesAt entries items)).outcome with
  | error interruption =>
      obtain ⟨inner, rfl⟩ := picks.stopped ended
      rfl
  | ok positions =>
      dsimp only [Except.map]
      cases positions.filterMap (entries[·]?) with
      | nil => rfl
      | cons position others =>
          dsimp only
          cases (applyActions (position :: others) rule.actions items).broken <;> rfl

/-- Which index a rule has makes no difference to the items. -/
theorem tryRule_index (select : PricingRule → Cart → Reported Interruption (List Nat))
    (index other : Nat) (rule : PricingRule) (items : Cart) :
    (tryRule select index rule items).cart = (tryRule select other rule items).cart ∧
      (tryRule select index rule items).broken = (tryRule select other rule items).broken := by
  dsimp only [tryRule]
  split
  · exact ⟨rfl, rfl⟩
  · exact ⟨rfl, rfl⟩
  · exact ⟨rfl, rfl⟩
  · split <;> exact ⟨rfl, rfl⟩

/-- A rule that takes no part leaves the items as they are. -/
theorem tryRule_of_not_takesPart {rule : PricingRule} {items : Cart}
    (idle : rule.takesPart (entriesAt entries items) = false) (index : Nat) :
    let report := tryRule (Rule.selectAmong entries) index rule items
    report.cart = items ∧ report.broken = none := by
  cases noop : rule.isNoop with
  | true => exact tryRule_of_noop noop items index
  | false =>
      have failed : rule.verdict (entriesAt entries items) = .failed := by
        simpa [Rule.takesPart, noop] using idle
      obtain ⟨fault, fails⟩ := Rule.verdict_eq_failed_iff.1 failed
      obtain ⟨inner, _, rfl⟩ := Rule.failsWith_iff.1 fails
      obtain ⟨unchanged, complete, _⟩ := tryRule_of_failsWith fails index
      exact ⟨unchanged, complete⟩

/-- Rules that come to their end report those among them that fail. -/
theorem failures_runRules {index : Nat} {rules : List PricingRule} {items : Cart}
    (complete : (runRules (Rule.selectAmong entries) index rules items).broken = none) :
    (runRules (Rule.selectAmong entries) index rules items).failures =
      failuresAmong (entriesAt entries items) index rules := by
  induction rules generalizing index items with
  | nil => rfl
  | cons rule rest ih =>
      rw [runRules] at complete ⊢
      cases ended : (tryRule (Rule.selectAmong entries) index rule items).broken with
      | some mishap =>
          rw [PassReport.followedBy_of_broken ended, ended] at complete
          cases complete
      | none =>
          rw [PassReport.followedBy_of_complete ended] at complete ⊢
          have sameProducts := entriesAt_sameProducts entries
            (map_resetDiscount_tryRule (Rule.selectAmong entries) index rule items)
          dsimp only at complete ⊢
          rw [failures_tryRule, ih complete,
            failuresAmong_eq_of_map_resetDiscount_eq sameProducts, failuresAmong]

/-- Without the rules that take no part, the others leave the same items and
end in the same way, whatever their indices are now. -/
theorem runRules_filter_takesPart (index other : Nat) (rules : List PricingRule)
    {items cart : Cart}
    (sameCart : (entriesAt entries items).map Item.resetDiscount =
      cart.map Item.resetDiscount) :
    let all := runRules (Rule.selectAmong entries) index rules items
    let kept := runRules (Rule.selectAmong entries) other
      (rules.filter fun rule => rule.takesPart cart) items
    kept.cart = all.cart ∧ kept.broken = all.broken := by
  induction rules generalizing index other items with
  | nil => exact ⟨rfl, rfl⟩
  | cons rule rest ih =>
      have sameVerdict : Rule.verdict (entriesAt entries items) = Rule.verdict cart :=
        verdict_eq_of_map_resetDiscount_eq sameCart
      dsimp only
      rw [List.filter_cons, runRules]
      cases active : rule.takesPart cart with
      | false =>
          have idle : rule.takesPart (entriesAt entries items) = false := by
            rw [Rule.takesPart, sameVerdict]
            exact active
          obtain ⟨unchanged, complete⟩ := tryRule_of_not_takesPart idle index
          rw [if_neg Bool.false_ne_true, PassReport.followedBy_of_complete complete, unchanged]
          exact ih (index + 1) other sameCart
      | true =>
          obtain ⟨sameItems, sameEnd⟩ :=
            tryRule_index (Rule.selectAmong entries) other index rule items
          rw [if_pos rfl, runRules]
          cases ended : (tryRule (Rule.selectAmong entries) index rule items).broken with
          | some mishap =>
              rw [PassReport.followedBy_of_broken ended,
                PassReport.followedBy_of_broken (sameEnd.trans ended)]
              exact ⟨sameItems, sameEnd⟩
          | none =>
              have sameProducts := entriesAt_sameProducts entries
                (map_resetDiscount_tryRule (Rule.selectAmong entries) index rule items)
              rw [PassReport.followedBy_of_complete ended,
                PassReport.followedBy_of_complete (sameEnd.trans ended), sameItems]
              exact ih (index + 1) (other + 1) (sameProducts.trans sameCart)

/-- Taking back discounts leaves the products. -/
theorem map_resetDiscount_mapIdx (entries : List Nat) (items : Cart) :
    (items.mapIdx fun position item =>
        if position ∈ entries then item.resetDiscount else item).map Item.resetDiscount =
      items.map Item.resetDiscount := by
  refine List.ext_getElem? fun position => ?_
  rw [List.getElem?_map, List.getElem?_map, List.getElem?_mapIdx]
  cases items[position]? with
  | none => rfl
  | some item => by_cases inCart : position ∈ entries <;> simp [inCart]

theorem entriesAt_mapIdx_resetDiscount (entries : List Nat) (items : Cart) :
    (entriesAt entries (items.mapIdx fun position item =>
        if position ∈ entries then item.resetDiscount else item)).map Item.resetDiscount =
      (entriesAt entries items).map Item.resetDiscount :=
  entriesAt_sameProducts entries (map_resetDiscount_mapIdx entries items)

theorem failures_passOver {rules : List PricingRule} {items : Cart}
    (complete : (passOver entries rules items).broken = none) :
    (passOver entries rules items).failures =
      failuresAmong (entriesAt entries items) 0 rules := by
  have sameCart := entriesAt_mapIdx_resetDiscount entries items
  exact (failures_runRules complete).trans
    (failuresAmong_eq_of_map_resetDiscount_eq sameCart 0 rules)

theorem passOver_filter_takesPart (entries : List Nat) (rules : List PricingRule)
    (items : Cart) :
    let all := passOver entries rules items
    let kept := passOver entries
      (rules.filter fun rule => rule.takesPart (entriesAt entries items)) items
    kept.cart = all.cart ∧ kept.broken = all.broken :=
  runRules_filter_takesPart 0 0 rules (entriesAt_mapIdx_resetDiscount entries items)

end Shared

/-- The datum tells of a failing rule its index, its label, and the code, the
message and the details of the fault with which selecting from the cart ends. -/
def TellsFailure (cart : Cart) (entry : PricingRule × Nat) (told : Datum) : Prop :=
  ∃ fault, entry.1.FailsWith cart fault ∧
    told = .mapping
      [("rule_index", .int entry.2), ("rule", entry.1.label),
        ("code", .ofString Category.evaluation.code), ("message", .ofString fault.message),
        ("details", .mapping fault.details)]

/-- What a pass that came to its end reports of the rules that fail for its
cart, and what it leaves, compared with a pass without these rules. -/
structure IsolatesFailures (rules : List PricingRule) (cart : Cart)
    (report without : PassReport) : Prop where
  failing_iff : ∀ rule index, (rule, index) ∈ failingRules rules cart 0 ↔
    rules[index]? = some rule ∧ ∃ fault, rule.FailsWith cart fault
  increasing : ((failingRules rules cart 0).map Prod.snd).Pairwise (· < ·)
  returns_iff : report.outcome = .ok () ↔ failingRules rules cart 0 = []
  message : ∀ fault, report.outcome = .error (.evaluation fault) →
    fault.message =
      toString (failingRules rules cart 0).length ++ " pricing rule(s) failed to evaluate"
  details : ∀ fault, report.outcome = .error (.evaluation fault) →
    ∃ told, fault.details = [("failed_rules", .list told)] ∧
      List.Forall₂ (TellsFailure cart) (failingRules rules cart 0) told
  cause : ∀ fault, report.outcome = .error (.evaluation fault) →
    ∃ first inner, (failingRules rules cart 0).head? = some first ∧
      first.1.FailsWith cart (.comparison inner) ∧ fault.cause? = some inner
  sameCart : report.cart = without.cart
  withoutReturns : without.outcome = .ok ()

/-- The fault of a pass that did not break off holds the failures. -/
theorem PassReport.eq_failedRules {report : PassReport} {fault : EvaluationFault}
    (complete : report.broken = none) (raised : report.outcome = .error (.evaluation fault)) :
    fault = .failedRules report.failures := by
  rw [outcome_of_complete complete] at raised
  split at raised
  · cases raised
  · cases raised
    rfl

/-- A report is settled by the failures that it holds and by the cart. -/
theorem IsolatesFailures.of_failures {rules : List PricingRule} {cart : Cart}
    {report without : PassReport} (complete : report.broken = none)
    (failures : report.failures = failuresAmong cart 0 rules)
    (sameCart : report.cart = without.cart) (withoutReturns : without.outcome = .ok ()) :
    IsolatesFailures rules cart report without := by
  have noted := forall₂_failuresAmong cart 0 rules
  rw [← failures] at noted
  have isFailures {fault : EvaluationFault}
      (raised : report.outcome = .error (.evaluation fault)) :=
    PassReport.eq_failedRules complete raised
  refine ⟨fun _ _ => mem_failingRules_iff, failingRules_increasing rules cart, ?_, ?_, ?_, ?_,
    sameCart, withoutReturns⟩
  · have empty : failingRules rules cart 0 = [] ↔ report.failures = [] := by
      rw [← List.length_eq_zero_iff, noted.length_eq, List.length_eq_zero_iff]
    rw [PassReport.outcome_of_complete complete, empty]
    cases report.failures <;> simp
  · intro fault raised
    rw [isFailures raised, noted.length_eq]
    rfl
  · intro fault raised
    rw [isFailures raised]
    refine ⟨_, rfl, List.forall₂_map_right_iff.2 (noted.imp ?_)⟩
    rintro ⟨rule, index⟩ failure ⟨rfl, sameLabel, fails⟩
    exact ⟨_, fails, by rw [RuleFailure.fields, sameLabel]; rfl⟩
  · intro fault raised
    cases listed : report.failures with
    | nil =>
        rw [PassReport.outcome_of_complete complete, listed] at raised
        cases raised
    | cons failure others =>
        rw [listed] at noted
        obtain ⟨first, _, ⟨_, _, fails⟩, _, failing⟩ := List.forall₂_cons_right_iff.1 noted
        refine ⟨first, failure.fault, ?_, fails, ?_⟩
        · rw [failing, List.head?_cons]
        · rw [isFailures raised, listed]
          rfl

theorem isolatesFailures_passOver {entries : List Nat} {rules : List PricingRule} {items : Cart}
    (ends : (passOver entries rules items).RunsToEnd) :
    IsolatesFailures rules (entriesAt entries items) (passOver entries rules items)
      (passOver entries
        (rules.filter fun rule => rule.takesPart (entriesAt entries items)) items) := by
  have complete := PassReport.runsToEnd_iff.1 ends
  obtain ⟨sameItems, sameEnd⟩ := passOver_filter_takesPart entries rules items
  have completeWithout := sameEnd.trans complete
  refine .of_failures complete (failures_passOver complete) sameItems.symm ?_
  rw [PassReport.outcome_of_complete completeWithout, failures_passOver completeWithout,
    failuresAmong_filter_takesPart]
  rfl

/-- A pass that comes to its end raises exactly when some rule cannot be
evaluated for its cart.  Then it tells of every such rule, in order, and names
the first one as the cause, and it leaves the cart as the other rules alone
leave it.  This holds of carts of distinct entries and of carts that hold one
item several times. -/
theorem failing_rules_are_isolated (rules : List PricingRule) :
    (∀ cart : Cart, (pass rules cart).RunsToEnd →
      IsolatesFailures rules cart (pass rules cart)
        (pass (rules.filter fun rule => rule.takesPart cart) cart)) ∧
      ∀ (entries : List Nat) (items : Cart), (passOver entries rules items).RunsToEnd →
        IsolatesFailures rules (entriesAt entries items) (passOver entries rules items)
          (passOver entries
            (rules.filter fun rule => rule.takesPart (entriesAt entries items)) items) := by
  refine ⟨fun cart ends => ?_, fun entries items => isolatesFailures_passOver⟩
  rw [← passOver_range] at ends
  have isolates := isolatesFailures_passOver ends
  rwa [entriesAt_range, passOver_range, passOver_range] at isolates

/-- An offer that asks for an order of codes, which there is none of. -/
def orderedCodeOffer : PricingRule :=
  ⟨[⟨.itemCode, .gt, .text (.plain "A")⟩], [⟨.fixedPrice, .ofInt 1⟩], .null⟩

/-- An offer that compares a number of entries with a text. -/
def wordyQuantityOffer : PricingRule :=
  ⟨[⟨.quantityTotal, .eq, .text (.plain "two")⟩], [⟨.fixedPrice, .ofInt 2⟩], .null⟩

theorem two_failing_offers_isolated :
    let rules := [orderedCodeOffer, shirtOffer, ⟨[], [], .null⟩, wordyQuantityOffer]
    let cart := [mug, shirt (.integer 7)]
    (pass rules cart).RunsToEnd ∧ (passOver [1, 0, 1] rules cart).RunsToEnd ∧
      (failingRules rules cart 0).map Prod.snd = [0, 3] ∧
      (pass rules cart).cart = (pass [shirtOffer] cart).cart ∧
      (passOver [1, 0, 1] rules cart).cart = (passOver [1, 0, 1] [shirtOffer] cart).cart := by
  intro rules cart
  have ends : (pass rules cart).RunsToEnd := PassReport.runsToEnd_iff.2 (by decide +kernel)
  have sharedEnds : (passOver [1, 0, 1] rules cart).RunsToEnd :=
    PassReport.runsToEnd_iff.2 (by decide +kernel)
  obtain ⟨isolates, sharedIsolates⟩ := failing_rules_are_isolated rules
  exact ⟨ends, sharedEnds, rfl, (isolates cart ends).sameCart,
    (sharedIsolates [1, 0, 1] cart sharedEnds).sameCart⟩

end RetailPricing
