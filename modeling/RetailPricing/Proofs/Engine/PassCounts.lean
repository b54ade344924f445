import RetailPricing.Journal.Meter
import RetailPricing.Proofs.Engine.Attempts

/-!
# What a complete pass counts

Counts arise in the middle of a pass: an action is counted once it has reached all
selected entries, a rule once it has come to its end, a failure while it is caught.
If the pass is not broken off, they come rule by rule, and what a rule adds is told by
the cart alone (`Rule.countsIn`).  So every number on the meter grows by a sum over
the rules.
-/

namespace RetailPricing

namespace Rule

/-- The positions that a rule selects; there are none if it cannot be evaluated. -/
def positionsIn (cart : Cart) (rule : PricingRule) : List Nat :=
  match (rule.selectPositions cart).outcome with
  | .ok positions => positions
  | .error _ => []

/-- What is counted of a rule that comes to its end. -/
def countsIn (cart : Cart) (rule : PricingRule) : List Count :=
  match rule.verdict cart with
  | .fired =>
      (rule.actions.map fun action =>
        .actionsApplied action.kind (rule.positionsIn cart).length) ++ [.ruleEvaluated .fired]
  | .skipped => [.ruleEvaluated .skipped]
  | .failed => [.ruleEvaluated .failed, .evaluationFailed]

/-- A rule fires when it selects something. -/
theorem verdict_eq_fired_iff {cart : Cart} {rule : PricingRule} :
    rule.verdict cart = .fired ↔ rule.positionsIn cart ≠ [] := by
  rw [verdict, positionsIn]
  cases (rule.selectPositions cart).outcome with
  | error interruption => simp
  | ok positions => cases positions <;> simp

theorem positionsIn_eq_nil {cart : Cart} {rule : PricingRule}
    (unfired : rule.verdict cart ≠ .fired) : rule.positionsIn cart = [] :=
  Classical.not_not.1 (mt verdict_eq_fired_iff.2 unfired)

/-- Carts of the same products are counted alike. -/
theorem positionsIn_eq_of_map_resetDiscount_eq {first second : Cart}
    (sameProducts : first.map Item.resetDiscount = second.map Item.resetDiscount) :
    positionsIn first = positionsIn second := by
  funext rule
  rw [positionsIn, positionsIn, rule.selectPositions_eq_of_map_resetDiscount_eq sameProducts]

theorem countsIn_eq_of_map_resetDiscount_eq {first second : Cart}
    (sameProducts : first.map Item.resetDiscount = second.map Item.resetDiscount) :
    countsIn first = countsIn second := by
  funext rule
  rw [countsIn, countsIn, verdict_eq_of_map_resetDiscount_eq sameProducts,
    positionsIn_eq_of_map_resetDiscount_eq sameProducts]

end Rule

theorem counts_applyActions_of_complete {positions : List Nat} {actions : List Action}
    {cart : Cart} (complete : (applyActions positions actions cart).broken = none) :
    (applyActions positions actions cart).journal.counts =
      actions.map fun action => .actionsApplied action.kind positions.length := by
  induction actions generalizing cart with
  | nil => rfl
  | cons action rest ih =>
      -- An action that was broken off is not counted, and then the row is not complete.
      rw [applyActions] at complete ⊢
      split at complete
      · cases complete
      next changed applied => exact congrArg (_ :: ·) (ih complete)

theorem counts_tryRule_of_complete {index : Nat} {rule : PricingRule} {cart : Cart}
    (complete : (tryRule Rule.selectPositions index rule cart).broken = none) :
    (tryRule Rule.selectPositions index rule cart).journal.counts = rule.countsIn cart := by
  have picks := rule.picks_selectPositions cart
  have quiet := picks.uncounted
  rw [Journal.Uncounted] at quiet
  revert complete
  dsimp only [tryRule, Rule.countsIn, Rule.verdict, Rule.positionsIn]
  cases ended : (rule.selectPositions cart).outcome with
  | error interruption =>
      obtain ⟨fault, rfl⟩ := picks.stopped ended
      intro _
      dsimp only
      rw [Journal.counts_append, quiet]
      rfl
  | ok positions =>
      cases positions with
      | nil =>
          intro _
          dsimp only
          rw [Journal.counts_append, quiet]
          rfl
      | cons position rest =>
          dsimp only
          cases finished : (applyActions (position :: rest) rule.actions cart).broken with
          | some mishap => rintro ⟨⟩
          | none =>
              intro _
              dsimp only
              rw [Journal.counts_append, Journal.counts_append, quiet,
                counts_applyActions_of_complete finished]
              rfl

theorem counts_runRules_of_complete {index : Nat} {rules : List PricingRule} {cart : Cart}
    (complete : (runRules Rule.selectPositions index rules cart).broken = none) :
    (runRules Rule.selectPositions index rules cart).journal.counts =
      rules.flatMap (Rule.countsIn cart) := by
  induction rules generalizing index cart with
  | nil => rfl
  | cons rule rest ih =>
      rw [runRules] at complete ⊢
      cases ended : (tryRule Rule.selectPositions index rule cart).broken with
      | some mishap =>
          rw [PassReport.followedBy_of_broken ended, ended] at complete
          cases complete
      | none =>
          rw [PassReport.followedBy_of_complete ended] at complete ⊢
          dsimp only
          rw [Journal.counts_append, counts_tryRule_of_complete ended, ih complete,
            List.flatMap_cons, Rule.countsIn_eq_of_map_resetDiscount_eq
              (map_resetDiscount_tryRule Rule.selectPositions index rule cart)]

theorem counts_pass_of_complete {rules : List PricingRule} {cart : Cart}
    (complete : (pass rules cart).broken = none) :
    (pass rules cart).journal.counts = rules.flatMap (Rule.countsIn cart) ++ [.passTimed] := by
  rw [pass] at complete ⊢
  dsimp only at complete ⊢
  rw [Journal.counts_append, counts_runRules_of_complete complete,
    Rule.countsIn_eq_of_map_resetDiscount_eq (map_resetDiscount_map_resetDiscount cart)]
  rfl

/-! ## The numbers on the meter -/

namespace Meter

/-- The value of a sample.  One with labels that were never used stands at zero. -/
def reading (meter : Meter) (name : String) (labels : List (String × String)) : Nat :=
  (meter.sample? name labels).getD 0

/-- The number of rules whose evaluation ended in this way. -/
def evaluationsOf (outcome : RuleOutcome) (meter : Meter) : Nat :=
  meter.reading "pricing_rule_evaluations_total" [("outcome", outcome.word)]

/-- The number of entries to which actions of this kind were applied. -/
def actionsOf (kind : ActionKind) (meter : Meter) : Nat :=
  meter.reading "pricing_rule_actions_total" [("action", kind.word)]

/-- The number of evaluation errors of the meter's own service. -/
def evaluationErrors (meter : Meter) : Nat :=
  meter.reading "errors_total"
    [("error_type", "evaluation_error"), ("service", meter.service)]

/-- A number to which every count adds its own amount. -/
def Sums (read : Meter → Nat) (amount : Count → Nat) : Prop :=
  ∀ meter c, read (meter.record c) = read meter + amount c

theorem Sums.recordAll {read : Meter → Nat} {amount : Count → Nat} (sums : Sums read amount)
    (meter : Meter) (journal : Journal) :
    read (meter.recordAll journal) = read meter + (journal.counts.map amount).sum := by
  rw [Meter.recordAll]
  generalize journal.counts = counts
  induction counts generalizing meter with
  | nil => rfl
  | cons c rest ih =>
      rw [List.foldl_cons, ih, sums meter c, List.map_cons, List.sum_cons, Nat.add_assoc]

theorem service_record (meter : Meter) (c : Count) : (meter.record c).service = meter.service := by
  cases c <;> rfl

/-- A meter stays with its service. -/
theorem service_recordAll (meter : Meter) (journal : Journal) :
    (meter.recordAll journal).service = meter.service := by
  rw [recordAll]
  generalize journal.counts = counts
  induction counts generalizing meter with
  | nil => rfl
  | cons c rest ih => rw [List.foldl_cons, ih, service_record]

end Meter

namespace Count

/-- One for a rule whose evaluation ended in this way. -/
def evaluated (outcome : RuleOutcome) (c : Count) : Nat :=
  if c = .ruleEvaluated outcome then 1 else 0

/-- The number of entries to which an action of this kind was applied. -/
def applied (kind : ActionKind) : Count → Nat
  | .actionsApplied other items => if other = kind then items else 0
  | _ => 0

/-- One for an evaluation that failed. -/
def failed (c : Count) : Nat :=
  if c = .evaluationFailed then 1 else 0

end Count

namespace Meter

theorem sums_evaluationsOf (outcome : RuleOutcome) :
    Sums (evaluationsOf outcome) (Count.evaluated outcome) := by
  intro meter c
  cases c with
  | ruleEvaluated other =>
      change (countOf? outcome.word (addTo other.word 1 meter.evaluations)).getD 0 =
        (countOf? outcome.word meter.evaluations).getD 0 + _
      by_cases same : other = outcome
      · rw [same, countOf?_addTo_self, Count.evaluated, if_pos rfl]
        rfl
      · have different : other.word ≠ outcome.word := by
          revert same
          cases other <;> cases outcome <;> decide
        rw [countOf?_addTo_of_ne different, Count.evaluated, if_neg (by simpa using same)]
        rfl
  | _ => rfl

theorem sums_actionsOf (kind : ActionKind) : Sums (actionsOf kind) (Count.applied kind) := by
  intro meter c
  cases c with
  | actionsApplied other items =>
      change (countOf? kind.word (addTo other.word items meter.actions)).getD 0 =
        (countOf? kind.word meter.actions).getD 0 + if other = kind then items else 0
      by_cases same : other = kind
      · rw [same, countOf?_addTo_self, if_pos rfl]
        rfl
      · have different : other.word ≠ kind.word := by
          revert same
          cases other <;> cases kind <;> decide
        rw [countOf?_addTo_of_ne different, if_neg same]
        rfl
  | _ => rfl

theorem sums_evaluationErrors : Sums evaluationErrors Count.failed := by
  intro meter c
  cases c with
  | evaluationFailed =>
      change (countOf? ("evaluation_error", meter.service)
          (addTo ("evaluation_error", meter.service) 1 meter.errors)).getD 0 =
        (countOf? ("evaluation_error", meter.service) meter.errors).getD 0 + 1
      rw [countOf?_addTo_self]
      rfl
  | _ => rfl

end Meter

theorem sum_map_flatMap {α : Type} (f : α → List Count) (amount : Count → Nat)
    (members : List α) :
    ((members.flatMap f).map amount).sum =
      (members.map fun member => ((f member).map amount).sum).sum := by
  induction members with
  | nil => rfl
  | cons member rest ih =>
      rw [List.flatMap_cons, List.map_append, List.sum_append, ih, List.map_cons,
        List.sum_cons]

theorem sum_map_ite {α : Type} (p : α → Prop) [DecidablePred p] (n : Nat)
    (members : List α) :
    (members.map fun member => if p member then n else 0).sum =
      members.countP (fun member => p member) * n := by
  induction members with
  | nil => exact (Nat.zero_mul n).symm
  | cons member rest ih =>
      rw [List.map_cons, List.sum_cons, ih, List.countP_cons]
      by_cases holds : p member
      · rw [if_pos holds, if_pos (decide_eq_true holds), Nat.succ_mul, Nat.add_comm]
      · rw [if_neg holds, if_neg (by simpa using holds), Nat.zero_add, Nat.add_zero]

namespace Rule

variable (cart : Cart) (rule : PricingRule)

/-- What a rule adds to a number that is not about actions. -/
theorem sum_countsIn_of_unapplied {amount : Count → Nat}
    (unapplied : ∀ kind items, amount (.actionsApplied kind items) = 0) :
    ((rule.countsIn cart).map amount).sum =
      match rule.verdict cart with
      | .fired => amount (.ruleEvaluated .fired)
      | .skipped => amount (.ruleEvaluated .skipped)
      | .failed => amount (.ruleEvaluated .failed) + amount .evaluationFailed := by
  have unseen : ((rule.actions.map fun action =>
      .actionsApplied action.kind (rule.positionsIn cart).length).map amount).sum = 0 :=
    List.sum_eq_zero fun n member => by
      obtain ⟨c, counted, rfl⟩ := List.mem_map.1 member
      obtain ⟨action, _, rfl⟩ := List.mem_map.1 counted
      exact unapplied _ _
  rw [countsIn]
  cases rule.verdict cart with
  | fired =>
      dsimp only
      rw [List.map_append, List.sum_append, unseen, Nat.zero_add]
      rfl
  | _ => rfl

theorem sum_evaluated (outcome : RuleOutcome) :
    ((rule.countsIn cart).map (Count.evaluated outcome)).sum =
      if rule.verdict cart = outcome then 1 else 0 := by
  rw [sum_countsIn_of_unapplied cart rule fun _ _ => rfl]
  cases rule.verdict cart <;> cases outcome <;> rfl

theorem sum_failed :
    ((rule.countsIn cart).map Count.failed).sum =
      if rule.verdict cart = .failed then 1 else 0 := by
  rw [sum_countsIn_of_unapplied cart rule fun _ _ => rfl]
  cases rule.verdict cart <;> rfl

theorem sum_applied (kind : ActionKind) :
    ((rule.countsIn cart).map (Count.applied kind)).sum =
      rule.actions.countP (fun action => action.kind = kind) *
        (rule.positionsIn cart).length := by
  rw [countsIn]
  cases ended : rule.verdict cart with
  | fired =>
      rw [List.map_append, List.sum_append, List.map_map]
      exact sum_map_ite (fun action : Action => action.kind = kind) _ rule.actions
  | skipped =>
      rw [positionsIn_eq_nil (by rw [ended]; decide)]
      rfl
  | failed =>
      rw [positionsIn_eq_nil (by rw [ended]; decide)]
      rfl

end Rule

/-- A failure is reported for each rule that cannot be evaluated. -/
theorem length_failuresAmong (cart : Cart) (index : Nat) (rules : List PricingRule) :
    (failuresAmong cart index rules).length =
      rules.countP fun rule => rule.verdict cart = .failed := by
  induction rules generalizing index with
  | nil => rfl
  | cons rule rest ih =>
      have picks := rule.picks_selectPositions cart
      rw [failuresAmong, List.length_append, ih, List.countP_cons, Nat.add_comm, Rule.failure?,
        Rule.verdict]
      cases ended : (rule.selectPositions cart).outcome with
      | error interruption =>
          obtain ⟨fault, rfl⟩ := picks.stopped ended
          rfl
      | ok positions => cases positions <;> rfl

/-- Every rule fires, is skipped or fails. -/
theorem countP_verdicts (cart : Cart) (rules : List PricingRule) :
    (rules.countP fun rule => rule.verdict cart = .fired) +
        (rules.countP fun rule => rule.verdict cart = .skipped) +
        (rules.countP fun rule => rule.verdict cart = .failed) =
      rules.length := by
  induction rules with
  | nil => rfl
  | cons rule rest ih =>
      rw [List.countP_cons, List.countP_cons, List.countP_cons, List.length_cons]
      cases rule.verdict cart <;> simp <;> omega

namespace Meter

variable {rules : List PricingRule} {cart : Cart}

/-- A complete pass adds to a number what its rules add. -/
theorem Sums.recordAll_pass {read : Meter → Nat} {amount : Count → Nat}
    (sums : Sums read amount) (complete : (pass rules cart).broken = none)
    (untimed : amount .passTimed = 0) (meter : Meter) :
    read (meter.recordAll (pass rules cart).journal) =
      read meter + (rules.map fun rule => ((rule.countsIn cart).map amount).sum).sum := by
  rw [sums.recordAll, counts_pass_of_complete complete, List.map_append, List.sum_append,
    sum_map_flatMap, List.map_singleton, List.sum_singleton, untimed, Nat.add_zero]

theorem evaluationsOf_recordAll_pass (complete : (pass rules cart).broken = none)
    (meter : Meter) (outcome : RuleOutcome) :
    evaluationsOf outcome (meter.recordAll (pass rules cart).journal) =
      evaluationsOf outcome meter +
        rules.countP fun rule => rule.verdict cart = outcome := by
  rw [(sums_evaluationsOf outcome).recordAll_pass complete rfl]
  simp only [Rule.sum_evaluated, sum_map_ite, Nat.mul_one]

theorem actionsOf_recordAll_pass (complete : (pass rules cart).broken = none)
    (meter : Meter) (kind : ActionKind) :
    actionsOf kind (meter.recordAll (pass rules cart).journal) =
      actionsOf kind meter +
        (rules.map fun rule => rule.actions.countP (fun action => action.kind = kind) *
          (rule.positionsIn cart).length).sum := by
  rw [(sums_actionsOf kind).recordAll_pass complete rfl]
  simp only [Rule.sum_applied]

theorem evaluationErrors_recordAll_pass (complete : (pass rules cart).broken = none)
    (meter : Meter) :
    evaluationErrors (meter.recordAll (pass rules cart).journal) =
      evaluationErrors meter + rules.countP fun rule => rule.verdict cart = .failed := by
  rw [sums_evaluationErrors.recordAll_pass complete rfl]
  simp only [Rule.sum_failed, sum_map_ite, Nat.mul_one]

end Meter

end RetailPricing
