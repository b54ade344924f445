import RetailPricing.Proofs.Engine.Lanes
import RetailPricing.Rule.Factory

/-!
# Which rules a pass attempts

A pass goes through its rules in order.  A rule that cannot be evaluated is
noted and keeps no other rule from its turn; only arithmetic breaks a pass off.
The journal counts every rule that came to an end, so it tells how far the pass
went: to the end of the list, or up to the first rule whose actions overflow on
some entry.
-/

namespace RetailPricing

namespace Journal

/-- How the evaluation of rules ended, in the order of the journal. -/
def ruleOutcomes (journal : Journal) : List RuleOutcome :=
  journal.counts.filterMap fun
    | .ruleEvaluated outcome => some outcome
    | _ => none

theorem ruleOutcomes_append (first second : Journal) :
    ruleOutcomes (first ++ second) = ruleOutcomes first ++ ruleOutcomes second := by
  rw [ruleOutcomes, counts_append, List.filterMap_append]
  rfl

theorem Uncounted.ruleOutcomes_eq_nil {journal : Journal} (uncounted : journal.Uncounted) :
    journal.ruleOutcomes = [] := by
  rw [ruleOutcomes, uncounted]
  rfl

end Journal

namespace Rule

/-- How the evaluation of a rule ends, unless its actions overflow. -/
def verdict (cart : Cart) (rule : PricingRule) : RuleOutcome :=
  match (rule.selectPositions cart).outcome with
  | .error _ => .failed
  | .ok [] => .skipped
  | .ok (_ :: _) => .fired

/-- What is reported of a rule that cannot be evaluated. -/
def failure? (cart : Cart) (index : Nat) (rule : PricingRule) : Option RuleFailure :=
  match (rule.selectPositions cart).outcome with
  | .error (.comparison fault) => some ⟨index, rule.label, fault⟩
  | _ => none

end Rule

/-- The failures among rules of which the first one has the given index. -/
def failuresAmong (cart : Cart) : Nat → List PricingRule → List RuleFailure
  | _, [] => []
  | index, rule :: rest =>
      (rule.failure? cart index).toList ++ failuresAmong cart (index + 1) rest

/-- Carts of the same products have the same verdicts and failures. -/
theorem verdict_eq_of_map_resetDiscount_eq {first second : Cart}
    (sameProducts : first.map Item.resetDiscount = second.map Item.resetDiscount) :
    Rule.verdict first = Rule.verdict second := by
  funext rule
  rw [Rule.verdict, Rule.verdict,
    rule.selectPositions_eq_of_map_resetDiscount_eq sameProducts]

theorem failuresAmong_eq_of_map_resetDiscount_eq {first second : Cart}
    (sameProducts : first.map Item.resetDiscount = second.map Item.resetDiscount)
    (index : Nat) (rules : List PricingRule) :
    failuresAmong first index rules = failuresAmong second index rules := by
  induction rules generalizing index with
  | nil => rfl
  | cons rule rest ih =>
      rw [failuresAmong, failuresAmong, ih, Rule.failure?, Rule.failure?,
        rule.selectPositions_eq_of_map_resetDiscount_eq sameProducts]

/-- Applying actions counts actions and no rules. -/
theorem ruleOutcomes_applyActions (positions : List Nat) (actions : List Action)
    (cart : Cart) : (applyActions positions actions cart).journal.ruleOutcomes = [] := by
  induction actions generalizing cart with
  | nil => rfl
  | cons action rest ih =>
      dsimp only [applyActions]
      split
      · rfl
      next changed _ => exact ih changed

/-- A rule that comes to its end is counted with its verdict; one that breaks
off is not counted. -/
theorem account_tryRule (index : Nat) (rule : PricingRule) (cart : Cart) :
    let report := tryRule Rule.selectPositions index rule cart
    (report.broken = none → report.journal.ruleOutcomes = [rule.verdict cart] ∧
      report.failures = (rule.failure? cart index).toList) ∧
    (report.broken ≠ none → report.journal.ruleOutcomes = [] ∧ report.failures = []) := by
  have picks := rule.picks_selectPositions cart
  have quiet := picks.uncounted.ruleOutcomes_eq_nil
  dsimp only [tryRule, Rule.verdict, Rule.failure?]
  cases ended : (rule.selectPositions cart).outcome with
  | error interruption =>
      obtain ⟨fault, rfl⟩ := picks.stopped ended
      dsimp only
      rw [Journal.ruleOutcomes_append, quiet]
      exact ⟨fun _ => ⟨rfl, rfl⟩, fun broken => absurd rfl broken⟩
  | ok positions =>
      cases positions with
      | nil =>
          dsimp only
          rw [Journal.ruleOutcomes_append, quiet]
          exact ⟨fun _ => ⟨rfl, rfl⟩, fun broken => absurd rfl broken⟩
      | cons position rest =>
          have applied := ruleOutcomes_applyActions (position :: rest) rule.actions cart
          dsimp only
          cases (applyActions (position :: rest) rule.actions cart).broken with
          | some mishap =>
              dsimp only
              rw [Journal.ruleOutcomes_append, quiet, applied]
              exact ⟨by rintro ⟨⟩, fun _ => ⟨rfl, rfl⟩⟩
          | none =>
              dsimp only
              rw [Journal.ruleOutcomes_append, Journal.ruleOutcomes_append, quiet, applied]
              exact ⟨fun _ => ⟨rfl, rfl⟩, fun broken => absurd rfl broken⟩

/-- What a pass over `rules` reports when it comes to the end of `attempted`. -/
structure Attempts (cart : Cart) (index : Nat) (rules attempted : List PricingRule)
    (report : PassReport) : Prop where
  outcomes : report.journal.ruleOutcomes = attempted.map (Rule.verdict cart)
  failures : report.failures = failuresAmong cart index attempted
  complete : (runRules Rule.selectPositions index attempted cart).broken = none
  stopped : (attempted = rules ∧ report.broken = none) ∨
    ∃ rule rest, rules = attempted ++ rule :: rest ∧ report.broken ≠ none ∧
      (runRules Rule.selectPositions index (attempted ++ [rule]) cart).broken ≠ none

theorem exists_attempts (index : Nat) (rules : List PricingRule) (cart : Cart) :
    ∃ attempted, Attempts cart index rules attempted
      (runRules Rule.selectPositions index rules cart) := by
  induction rules generalizing index cart with
  | nil => exact ⟨[], rfl, rfl, rfl, .inl ⟨rfl, rfl⟩⟩
  | cons rule rest ih =>
      obtain ⟨counted, uncounted⟩ := account_tryRule index rule cart
      have runs (others : List PricingRule) :
          runRules Rule.selectPositions index (rule :: others) cart =
            (tryRule Rule.selectPositions index rule cart).followedBy
              (runRules Rule.selectPositions (index + 1) others) := rfl
      cases ended : (tryRule Rule.selectPositions index rule cart).broken with
      | some mishap =>
          -- The attempts end in front of this rule, whatever comes behind it.
          have broken : (tryRule Rule.selectPositions index rule cart).broken ≠ none := by
            rw [ended]
            exact Option.some_ne_none mishap
          obtain ⟨noOutcome, noFailure⟩ := uncounted broken
          have stays (others : List PricingRule) :=
            (runs others).trans (PassReport.followedBy_of_broken ended _)
          rw [stays rest]
          refine ⟨[], noOutcome, noFailure, rfl, .inr ⟨rule, rest, rfl, broken, ?_⟩⟩
          rw [List.nil_append, stays []]
          exact broken
      | none =>
          obtain ⟨outcome, failure⟩ := counted ended
          have goesOn (others : List PricingRule) :=
            (runs others).trans (PassReport.followedBy_of_complete ended _)
          -- The rest meets a cart with other discounts, which no verdict looks at.
          have sameProducts := map_resetDiscount_tryRule Rule.selectPositions index rule cart
          obtain ⟨attempted, outcomes, failures, complete, stopped⟩ :=
            ih (index + 1) (tryRule Rule.selectPositions index rule cart).cart
          refine ⟨rule :: attempted, ?_, ?_, ?_, ?_⟩
          · rw [goesOn rest]
            dsimp only
            rw [Journal.ruleOutcomes_append, outcome, outcomes,
              verdict_eq_of_map_resetDiscount_eq sameProducts]
            rfl
          · rw [goesOn rest]
            dsimp only
            rw [failure, failures, failuresAmong_eq_of_map_resetDiscount_eq sameProducts]
            rfl
          · rw [goesOn attempted]
            exact complete
          · rcases stopped with ⟨rfl, finished⟩ | ⟨last, others, rfl, broken, breaks⟩
            · exact .inl ⟨rfl, by rw [goesOn attempted]; exact finished⟩
            · refine .inr ⟨last, others, rfl, ?_, ?_⟩
              · rw [goesOn]
                exact broken
              · rw [List.cons_append, goesOn]
                exact breaks

theorem exists_attempts_pass (rules : List PricingRule) (cart : Cart) :
    ∃ attempted,
      (pass rules cart).journal.ruleOutcomes = attempted.map (Rule.verdict cart) ∧
        (pass rules cart).failures = failuresAmong cart 0 attempted ∧
        (pass attempted cart).broken = none ∧
        ((attempted = rules ∧ (pass rules cart).broken = none) ∨
          ∃ rule rest, rules = attempted ++ rule :: rest ∧
            (pass rules cart).broken ≠ none ∧
            (pass (attempted ++ [rule]) cart).broken ≠ none) := by
  have sameProducts := map_resetDiscount_map_resetDiscount cart
  obtain ⟨attempted, outcomes, failures, complete, stopped⟩ :=
    exists_attempts 0 rules (cart.map Item.resetDiscount)
  rw [verdict_eq_of_map_resetDiscount_eq sameProducts] at outcomes
  rw [failuresAmong_eq_of_map_resetDiscount_eq sameProducts] at failures
  refine ⟨attempted, ?_, failures, complete, stopped⟩
  rw [← outcomes, pass]
  dsimp only
  rw [Journal.ruleOutcomes_append]
  exact List.append_nil _

theorem failures_pass_of_complete {rules : List PricingRule} {cart : Cart}
    (complete : (pass rules cart).broken = none) :
    (pass rules cart).failures = failuresAmong cart 0 rules := by
  obtain ⟨attempted, _, failures, _, stopped⟩ := exists_attempts_pass rules cart
  rcases stopped with ⟨rfl, _⟩ | ⟨_, _, _, broken, _⟩
  · exact failures
  · exact absurd complete broken

theorem PassReport.outcome_of_complete {report : PassReport} (complete : report.broken = none) :
    report.outcome =
      if report.failures.isEmpty then .ok ()
      else .error (.evaluation (.failedRules report.failures)) := by
  rw [outcome, complete]
  cases report.failures with
  | nil => rfl
  | cons failure rest => rfl

theorem PassReport.outcome_of_broken {report : PassReport} {mishap : Mishap}
    (broken : report.broken = some mishap) : report.outcome = .error (.mishap mishap) := by
  rw [outcome, broken]

/-- The pass came to its end: it returned, or it told which rules failed. -/
def PassReport.RunsToEnd (report : PassReport) : Prop :=
  report.outcome = .ok () ∨ ∃ fault, report.outcome = .error (.evaluation fault)

/-- A pass comes to its end unless it breaks off. -/
theorem PassReport.runsToEnd_iff {report : PassReport} :
    report.RunsToEnd ↔ report.broken = none := by
  rw [RunsToEnd]
  cases ended : report.broken with
  | none =>
      rw [outcome_of_complete ended]
      cases report.failures with
      | nil => simp
      | cons failure rest => simp
  | some mishap => simp [outcome_of_broken ended]

theorem mem_actionsReaching {rules : List PricingRule} {cart : Cart} {position : Nat}
    {action : Action} (member : action ∈ actionsReaching rules cart position) :
    ∃ rule ∈ rules, action ∈ rule.actions := by
  obtain ⟨rule, ruleMember, reached⟩ := List.mem_flatMap.1 member
  refine ⟨rule, ruleMember, ?_⟩
  unfold Rule.actionsAt at reached
  split at reached
  · split at reached
    · exact reached
    · cases reached
  · cases reached

theorem not_overflows_of_fits {rules : List PricingRule} {cart : Cart}
    (fits : ∀ item ∈ cart, ∀ rule ∈ rules, ∀ action ∈ rule.actions,
      action.Fits item.price) : ¬ Overflows rules cart := by
  rintro ⟨position, item, found, overflowed⟩
  have zeroBelow : Amount.zero.magnitude ≤ item.price.magnitude := by
    rw [Amount.magnitude_zero]
    exact item.price.magnitude_nonneg
  have reachingFit : ∀ action ∈ actionsReaching rules cart position,
      action.Fits item.price := by
    intro action member
    obtain ⟨rule, ruleMember, actionMember⟩ := mem_actionsReaching member
    exact fits item (List.mem_of_getElem? found) rule ruleMember action actionMember
  obtain ⟨final, discounted⟩ := Action.exists_discountAfterAll_eq_ok reachingFit zeroBelow
  rw [overflowed] at discounted
  cases discounted

/-- A pass attempts the rules in their order, each one once, whichever of them
fail.  It ends by returning or with the failed rules, after the last rule,
unless the actions that reach some entry overflow: then the first rule with
which they do ends the pass with the overflow signal, and no other signal ever
leaves a pass.  Prices and values that fit never overflow. -/
theorem pass_attempts_rules_until_overflow (rules : List PricingRule) (cart : Cart) :
    let report := pass rules cart
    (∃ attempted,
      report.journal.ruleOutcomes = attempted.map (Rule.verdict cart) ∧
        report.failures = failuresAmong cart 0 attempted ∧
        ¬ Overflows attempted cart ∧
        ((attempted = rules ∧
            report.outcome =
              if report.failures.isEmpty then .ok ()
              else .error (.evaluation (.failedRules report.failures))) ∨
          ∃ rule rest, rules = attempted ++ rule :: rest ∧
            Overflows (attempted ++ [rule]) cart ∧
            report.outcome = .error (.mishap (.signal .overflow)))) ∧
      ((∀ item ∈ cart, ∀ rule ∈ rules, ∀ action ∈ rule.actions, action.Fits item.price) →
        report.journal.ruleOutcomes = rules.map (Rule.verdict cart) ∧
          report.outcome =
            if report.failures.isEmpty then .ok ()
            else .error (.evaluation (.failedRules report.failures))) := by
  intro report
  obtain ⟨attempted, outcomes, failures, complete, stopped⟩ := exists_attempts_pass rules cart
  have overflowing {others : List PricingRule} (broken : (pass others cart).broken ≠ none) :
      (pass others cart).broken = some (.signal .overflow) ∧ Overflows others cart := by
    rcases broken_pass others cart with ⟨finished, _⟩ | overflowed
    · exact absurd finished broken
    · exact overflowed
  have finishes : ¬ Overflows attempted cart := by
    rcases broken_pass attempted cart with ⟨_, finishes⟩ | ⟨broken, _⟩
    · exact finishes
    · rw [complete] at broken
      cases broken
  refine ⟨⟨attempted, outcomes, failures, finishes, ?_⟩, fun fits => ?_⟩
  · rcases stopped with ⟨same, finished⟩ | ⟨rule, rest, split, broken, breaks⟩
    · exact .inl ⟨same, PassReport.outcome_of_complete finished⟩
    · exact .inr ⟨rule, rest, split, (overflowing breaks).2,
        PassReport.outcome_of_broken (overflowing broken).1⟩
  · rcases stopped with ⟨same, finished⟩ | ⟨_, _, _, broken, _⟩
    · rw [outcomes, same]
      exact ⟨rfl, PassReport.outcome_of_complete finished⟩
    · exact absurd (overflowing broken).2 (not_overflows_of_fits fits)

/-- A rule for items of one code, as the factories build it. -/
def offerFor (code kind : String) (value : Int) : Except Fault PricingRule := do
  let condition ←
    (Condition.create (.text (.plain "item_code")) .null (.text (.plain code))).mapError
      .configuration
  let action ← (Action.create (.text (.plain kind)) (.int value)).mapError .configuration
  Rule.create (.list [.condition condition]) (.list [.action action]) .null

/-- A mug for 10. -/
def mug : CartItem :=
  ⟨.plain "MUG", .null, .ofInt 10, Item.defaultCurrency, .zero⟩

/-- A tenth off every mug. -/
def mugOffer : PricingRule :=
  ⟨[⟨.itemCode, .eq, .text (.plain "MUG")⟩], [⟨.discountPercent, .ofInt 10⟩], .null⟩

theorem mug_offer_attempted :
    (∀ item ∈ [mug], ∀ rule ∈ [mugOffer], ∀ action ∈ rule.actions, action.Fits item.price) ∧
      (pass [mugOffer] [mug]).journal.ruleOutcomes = [.fired] := by
  have ten : (Amount.ofInt 10).magnitude = 10 := by
    simp [Amount.magnitude, Amount.ofInt]
  have hundreds : (10 : ℚ) ^ (3 : Int) ≤ 10 ^ Action.safeExponent :=
    zpow_le_zpow_right₀ (by norm_num) (by decide)
  have fits : Action.Fits ⟨.discountPercent, .ofInt 10⟩ mug.price := by
    constructor
    · exact (ten.trans_lt (by norm_num)).trans_le hundreds
    · exact (ten.trans_lt (by norm_num)).trans_le hundreds
    · refine lt_of_lt_of_le ?_ hundreds
      change (Amount.ofInt 10).magnitude * (Amount.ofInt 10).magnitude < _
      rw [ten]
      norm_num
  have allFit : ∀ item ∈ [mug], ∀ rule ∈ [mugOffer], ∀ action ∈ rule.actions,
      action.Fits item.price := by
    intro item itemMember rule ruleMember action actionMember
    obtain rfl := List.mem_singleton.1 itemMember
    obtain rfl := List.mem_singleton.1 ruleMember
    obtain rfl := List.mem_singleton.1 actionMember
    exact fits
  exact ⟨allFit, ((pass_attempts_rules_until_overflow [mugOffer] [mug]).2 allFit).1⟩

/-- A vault for `10 ^ 1000000`, which the constructor accepts although no result
of arithmetic is as great. -/
def vault : CartItem :=
  ⟨.plain "VAULT", .null, ⟨false, 1, 1000000⟩, Item.defaultCurrency, .zero⟩

/-- Vaults for nothing. -/
def vaultOffer : PricingRule :=
  ⟨[⟨.itemCode, .eq, .text (.plain "VAULT")⟩], [⟨.fixedPrice, .ofInt 0⟩], .null⟩

/-- The offer for the vault overflows, and nobody looks at the one for the mug. -/
theorem vault_offer_overflows :
    Item.create (.text (.plain "VAULT")) .null (.decimal (.finite ⟨false, 1, 1000000⟩)) none
        none = .ok vault ∧
      Item.create (.text (.plain "MUG")) .null (.int 10) none none = .ok mug ∧
      offerFor "VAULT" "fixed_price" 0 = .ok vaultOffer ∧
      offerFor "MUG" "discount_percent" 10 = .ok mugOffer ∧
      (pass [vaultOffer, mugOffer] [vault, mug]).outcome =
        .error (.mishap (.signal .overflow)) ∧
      (pass [vaultOffer, mugOffer] [vault, mug]).journal.ruleOutcomes = [] ∧
      (pass [mugOffer] [vault, mug]).journal.ruleOutcomes = [.fired] :=
  ⟨rfl, rfl, rfl, rfl, rfl, rfl, rfl⟩

end RetailPricing
