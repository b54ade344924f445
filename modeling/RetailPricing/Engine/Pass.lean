import RetailPricing.Engine.Selection
import RetailPricing.Item.Discount

/-!
# A pass over the cart

A pass takes back all discounts and then tries the rules in order. A rule that
selects entries has its actions applied to them, one action after the other. A
rule with a condition that cannot be evaluated is skipped and reported at the
end, together with all others like it. A signal from arithmetic breaks the pass
off where it arises; what was changed before stays changed.
-/

namespace RetailPricing

/-- What applying actions leaves: the cart, the journal, and the mishap that
broke it off, if any. -/
structure Progress where
  cart : Cart
  journal : Journal
  broken : Option Mishap

namespace Action

/-- Applies an action at positions of the cart, up to the first mishap. -/
def applyAt (action : Action) : List Nat → Cart → Cart × Option Mishap
  | [], cart => (cart, none)
  | position :: rest, cart =>
      match cart[position]? with
      | none => applyAt action rest cart
      | some item =>
          match action.apply item with
          | .ok changed => applyAt action rest (cart.set position changed)
          | .error mishap => (cart, some mishap)

theorem length_applyAt (action : Action) (positions : List Nat) (cart : Cart) :
    (action.applyAt positions cart).1.length = cart.length := by
  induction positions generalizing cart with
  | nil => rfl
  | cons position rest ih =>
      dsimp only [applyAt]
      split
      · exact ih cart
      · split
        · exact (ih _).trans List.length_set
        · rfl

end Action

/-- Applies actions in order, each one at all positions. An action is counted
once it has reached all of them. -/
def applyActions (positions : List Nat) : List Action → Cart → Progress
  | [], cart => ⟨cart, [], none⟩
  | action :: rest, cart =>
      match action.applyAt positions cart with
      | (changed, some mishap) => ⟨changed, [], some mishap⟩
      | (changed, none) =>
          let others := applyActions positions rest changed
          { others with
            journal :=
              .count (.actionsApplied action.kind positions.length) ::
                others.journal }

theorem length_applyActions (positions : List Nat) (actions : List Action)
    (cart : Cart) :
    (applyActions positions actions cart).cart.length = cart.length := by
  induction actions generalizing cart with
  | nil => rfl
  | cons action rest ih =>
      have kept := action.length_applyAt positions cart
      dsimp only [applyActions]
      split
      next changed mishap applied =>
          rw [applied] at kept
          exact kept
      next changed applied =>
          rw [applied] at kept
          exact (ih changed).trans kept

/-- What a pass leaves: the cart, the journal, the rules that failed, and the
mishap that broke it off, if any. -/
structure PassReport where
  cart : Cart
  journal : Journal
  failures : List RuleFailure
  broken : Option Mishap

namespace PassReport

/-- Goes on with the cart that the report leaves, unless it broke off. -/
def followedBy (first : PassReport) (next : Cart → PassReport) : PassReport :=
  match first.broken with
  | some _ => first
  | none =>
      let second := next first.cart
      ⟨second.cart, first.journal ++ second.journal,
        first.failures ++ second.failures, second.broken⟩

theorem followedBy_of_broken {first : PassReport} {mishap : Mishap}
    (broken : first.broken = some mishap) (next : Cart → PassReport) :
    first.followedBy next = first := by
  simp only [followedBy, broken]

theorem followedBy_of_complete {first : PassReport} (complete : first.broken = none)
    (next : Cart → PassReport) :
    first.followedBy next =
      ⟨(next first.cart).cart, first.journal ++ (next first.cart).journal,
        first.failures ++ (next first.cart).failures, (next first.cart).broken⟩ := by
  simp only [followedBy, complete]

/-- A pass comes to its end without result when it broke off or when rules
failed. -/
def outcome (report : PassReport) : Except Fault Unit :=
  match report.broken, report.failures with
  | some m, _ => .error (.mishap m)
  | none, [] => .ok ()
  | none, failures => .error (.evaluation (.failedRules failures))

end PassReport

def firedNotice (rule : PricingRule) (selected : Nat) : Event :=
  .notice none (.ruleApplied rule.label selected (rule.actions.map Action.describe))

/-- What is reported of a rule that cannot be evaluated. -/
def failedEvents (failure : RuleFailure) : Journal :=
  [.notice none (.ruleFailed failure), .count (.ruleEvaluated .failed),
    .count .evaluationFailed]

/-- Tries the rule with the given index. What it applies to is told by
`select`, as positions in the cart. -/
def tryRule (select : PricingRule → Cart → Reported Interruption (List Nat))
    (index : Nat) (rule : PricingRule) (cart : Cart) : PassReport :=
  let selection := select rule cart
  match selection.outcome with
  | .error (.signal s) => ⟨cart, selection.journal, [], some (.signal s)⟩
  | .error (.comparison fault) =>
      let failure : RuleFailure := ⟨index, rule.label, fault⟩
      ⟨cart, selection.journal ++ failedEvents failure, [failure], none⟩
  | .ok [] => ⟨cart, selection.journal ++ [.count (.ruleEvaluated .skipped)], [], none⟩
  | .ok positions =>
      let progress := applyActions positions rule.actions cart
      let journal := selection.journal ++ progress.journal
      match progress.broken with
      | some mishap => ⟨progress.cart, journal, [], some mishap⟩
      | none =>
          ⟨progress.cart,
            journal ++ [firedNotice rule positions.length, .count (.ruleEvaluated .fired)],
            [], none⟩

theorem length_tryRule
    (select : PricingRule → Cart → Reported Interruption (List Nat))
    (index : Nat) (rule : PricingRule) (cart : Cart) :
    (tryRule select index rule cart).cart.length = cart.length := by
  dsimp only [tryRule]
  split
  · rfl
  · rfl
  · rfl
  next positions _ _ =>
      have kept := length_applyActions positions rule.actions cart
      split
      · exact kept
      · exact kept

/-- Tries rules in order, of which the first one has the given index. -/
def runRules (select : PricingRule → Cart → Reported Interruption (List Nat)) :
    (index : Nat) → List PricingRule → Cart → PassReport
  | _, [], cart => ⟨cart, [], [], none⟩
  | index, rule :: rest, cart =>
      (tryRule select index rule cart).followedBy (runRules select (index + 1) rest)

theorem length_runRules
    (select : PricingRule → Cart → Reported Interruption (List Nat))
    (index : Nat) (rules : List PricingRule) (cart : Cart) :
    (runRules select index rules cart).cart.length = cart.length := by
  induction rules generalizing index cart with
  | nil => rfl
  | cons rule rest ih =>
      have kept := length_tryRule select index rule cart
      rw [runRules]
      cases ended : (tryRule select index rule cart).broken with
      | some mishap => rw [PassReport.followedBy_of_broken ended, kept]
      | none => rw [PassReport.followedBy_of_complete ended, ih, kept]

/-- One pass of the rules over the cart. It is timed however it ends. -/
def pass (rules : List PricingRule) (cart : Cart) : PassReport :=
  let report :=
    runRules Rule.selectPositions 0 rules (cart.map Item.resetDiscount)
  { report with journal := report.journal ++ [.count .passTimed] }

/-- A pass neither adds entries nor takes any away. -/
theorem length_pass (rules : List PricingRule) (cart : Cart) :
    (pass rules cart).cart.length = cart.length :=
  (length_runRules Rule.selectPositions 0 rules _).trans (List.length_map _)

end RetailPricing
