import RetailPricing.Engine.Admission
import RetailPricing.Proofs.Engine.PassCounts
import RetailPricing.Proofs.Rule.Factory

/-!
# Engines with a meter

A pass writes into its journal what is to be counted, and whoever has a meter reads the
journal afterwards.  Here the same pass is run by an engine that counts on the spot, if
it has a meter, and that also remembers which actions it has called.  It leaves the
same cart and ends in the same way, and its meter stands where reading the journal
brings it (`Engine.mirrors_pass`).

So a meter changes nothing that a caller can see, and what it shows after a complete
pass accounts for every rule and for every single call of an action.
-/

namespace RetailPricing

/-- An engine, with a meter or without one. -/
structure Engine where
  meter : Option Meter

namespace Engine

def unmetered : Engine := ⟨none⟩

def metered (meter : Meter) : Engine := ⟨some meter⟩

/-- Counts on the spot, if there is a meter. -/
def count (engine : Engine) (c : Count) : Engine :=
  ⟨engine.meter.map fun meter => meter.record c⟩

/-- Counts everything that a journal has to count, afterwards. -/
def read (engine : Engine) (journal : Journal) : Engine :=
  journal.counts.foldl count engine

/-- What a run on an engine leaves: the engine, the cart, the kinds of the actions that
were called, call by call, the rules that failed, and the mishap that broke it off, if
any. -/
structure Run where
  engine : Engine
  cart : Cart
  calls : List ActionKind
  failures : List RuleFailure
  broken : Option Mishap

namespace Run

/-- Nothing has happened yet. -/
def idle (engine : Engine) (cart : Cart) : Run :=
  ⟨engine, cart, [], [], none⟩

/-- Goes on with the engine and the cart that a run leaves, unless it broke off. -/
def andThen (first : Run) (next : Engine → Cart → Run) : Run :=
  match first.broken with
  | some _ => first
  | none =>
      let second := next first.engine first.cart
      ⟨second.engine, second.cart, first.calls ++ second.calls,
        first.failures ++ second.failures, second.broken⟩

/-- A run ends as a report of a pass does. -/
def outcome (run : Run) : Except Fault Unit :=
  PassReport.outcome ⟨run.cart, [], run.failures, run.broken⟩

/-- The run came to its end: it returned, or it told which rules failed. -/
def RunsToEnd (run : Run) : Prop :=
  run.outcome = .ok () ∨ ∃ fault, run.outcome = .error (.evaluation fault)

end Run

/-- Calls an action at positions of the cart, up to the first mishap. -/
def callAt (engine : Engine) (action : Action) : List Nat → Cart → Run
  | [], cart => .idle engine cart
  | position :: rest, cart =>
      match cart[position]? with
      | none => callAt engine action rest cart
      | some item =>
          match action.apply item with
          | .ok changed =>
              let run := callAt engine action rest (cart.set position changed)
              { run with calls := action.kind :: run.calls }
          | .error mishap => ⟨engine, cart, [action.kind], [], some mishap⟩

/-- Applies actions in order.  An action is counted once it has reached all
positions. -/
def applyActions (positions : List Nat) : List Action → Engine → Cart → Run
  | [], engine, cart => .idle engine cart
  | action :: rest, engine, cart =>
      (engine.callAt action positions cart).andThen fun engine cart =>
        applyActions positions rest (engine.count (.actionsApplied action.kind positions.length))
          cart

/-- Tries a rule and counts how its evaluation ends. -/
def tryRule (index : Nat) (rule : PricingRule) (engine : Engine) (cart : Cart) : Run :=
  match (rule.selectPositions cart).outcome with
  | .error (.signal s) => ⟨engine, cart, [], [], some (.signal s)⟩
  | .error (.comparison fault) =>
      ⟨(engine.count (.ruleEvaluated .failed)).count .evaluationFailed, cart, [],
        [⟨index, rule.label, fault⟩], none⟩
  | .ok [] => .idle (engine.count (.ruleEvaluated .skipped)) cart
  | .ok positions =>
      (applyActions positions rule.actions engine cart).andThen fun engine cart =>
        .idle (engine.count (.ruleEvaluated .fired)) cart

/-- Tries rules in order, of which the first one has the given index. -/
def runRules : (index : Nat) → List PricingRule → Engine → Cart → Run
  | _, [], engine, cart => .idle engine cart
  | index, rule :: rest, engine, cart =>
      (tryRule index rule engine cart).andThen (runRules (index + 1) rest)

/-- One pass of the rules over the cart.  It is timed however it ends. -/
def pass (engine : Engine) (rules : List PricingRule) (cart : Cart) : Run :=
  let run := runRules 0 rules engine (cart.map Item.resetDiscount)
  { run with engine := run.engine.count .passTimed }

/-- What a caller gets back: the entries of the cart as they are left, and how the call
ended. -/
structure Reply where
  entries : List Datum
  outcome : Except Fault Unit

/-- Applies rules to a cart, both as they were handed in. -/
def apply (engine : Engine) (rules cart : Datum) : Engine × Reply :=
  match cart with
  | .null => (engine, ⟨[], .error (.validation .missingCart)⟩)
  | _ =>
      match rulesForPass rules with
      | .error fault => (engine, ⟨cart.elements?.getD [], .error fault⟩)
      | .ok rules =>
          match membersOf cart with
          | .error fault => (engine.count .passTimed, ⟨[], .error fault⟩)
          | .ok entries =>
              match entries.mapM Datum.item? with
              | some cart =>
                  let run := engine.pass rules cart
                  (run.engine, ⟨run.cart.map .item, run.outcome⟩)
              | none =>
                  (engine.count .passTimed,
                    ⟨resetLeading entries, .error .missingAttribute⟩)

/-- The replies to a row of calls.  The rules and the cart of a call may depend on the
replies so far. -/
def replies (engine : Engine) (seen : List Reply) :
    List (List Reply → Datum × Datum) → List Reply
  | [] => seen
  | call :: rest =>
      let (next, reply) := engine.apply (call seen).1 (call seen).2
      replies next (seen ++ [reply]) rest

/-! ## Reading the journal comes to the same -/

theorem meter_read (engine : Engine) (journal : Journal) :
    (engine.read journal).meter = engine.meter.map fun meter => meter.recordAll journal := by
  simp only [read, Meter.recordAll]
  generalize journal.counts = counts
  induction counts generalizing engine with
  | nil => exact Option.map_id'.symm
  | cons c rest ih =>
      rw [List.foldl_cons, ih, count, Option.map_map]
      rfl

theorem read_append (engine : Engine) (first second : Journal) :
    engine.read (first ++ second) = (engine.read first).read second := by
  rw [read, Journal.counts_append, List.foldl_append]
  rfl

theorem read_of_uncounted (engine : Engine) {journal : Journal}
    (uncounted : journal.Uncounted) : engine.read journal = engine := by
  rw [read, uncounted]
  rfl

/-- A run leaves what a report tells, and its engine has counted what the report has to
count. -/
structure Mirrors (engine : Engine) (run : Run) (report : PassReport) : Prop where
  engine : run.engine = engine.read report.journal
  cart : run.cart = report.cart
  failures : run.failures = report.failures
  broken : run.broken = report.broken

namespace Run

variable {first : Run} {next : Engine → Cart → Run}

theorem andThen_of_broken {mishap : Mishap} (broken : first.broken = some mishap) :
    first.andThen next = first := by
  simp only [andThen, broken]

theorem andThen_of_complete (complete : first.broken = none) :
    first.andThen next =
      ⟨(next first.engine first.cart).engine, (next first.engine first.cart).cart,
        first.calls ++ (next first.engine first.cart).calls,
        first.failures ++ (next first.engine first.cart).failures,
        (next first.engine first.cart).broken⟩ := by
  simp only [andThen, complete]

end Run

namespace Mirrors

variable {engine : Engine} {run : Run} {report : PassReport}

theorem idle (engine : Engine) (cart : Cart) :
    Mirrors engine (.idle engine cart) ⟨cart, [], [], none⟩ :=
  ⟨rfl, rfl, rfl, rfl⟩

/-- Runs follow each other as reports do. -/
theorem andThen {next : Engine → Cart → Run} {nextReport : Cart → PassReport}
    (first : Mirrors engine run report)
    (goesOn : ∀ engine cart, Mirrors engine (next engine cart) (nextReport cart)) :
    Mirrors engine (run.andThen next) (report.followedBy nextReport) := by
  cases ended : report.broken with
  | some mishap =>
      rw [Run.andThen_of_broken (first.broken.trans ended),
        PassReport.followedBy_of_broken ended]
      exact first
  | none =>
      obtain ⟨counted, cart, failures, broken⟩ := goesOn run.engine run.cart
      rw [Run.andThen_of_complete (first.broken.trans ended),
        PassReport.followedBy_of_complete ended, ← first.cart]
      refine ⟨?_, cart, ?_, broken⟩
      · dsimp only
        rw [counted, first.engine, read_append]
      · dsimp only
        rw [failures, first.failures]

theorem outcome_eq (mirrors : Mirrors engine run report) : run.outcome = report.outcome := by
  rw [Run.outcome, PassReport.outcome, PassReport.outcome, mirrors.broken, mirrors.failures]

/-- What is counted in front of a run. -/
theorem counted {c : Count} (mirrors : Mirrors (engine.count c) run report) :
    Mirrors engine run { report with journal := .count c :: report.journal } :=
  ⟨mirrors.engine, mirrors.cart, mirrors.failures, mirrors.broken⟩

end Mirrors

theorem mirrors_callAt (engine : Engine) (action : Action) (positions : List Nat)
    (cart : Cart) :
    Mirrors engine (engine.callAt action positions cart)
      ⟨(action.applyAt positions cart).1, [], [], (action.applyAt positions cart).2⟩ := by
  induction positions generalizing cart with
  | nil => exact .idle engine cart
  | cons position rest ih =>
      rw [callAt, Action.applyAt]
      cases cart[position]? with
      | none => exact ih cart
      | some item =>
          dsimp only
          cases action.apply item with
          | error mishap => exact ⟨rfl, rfl, rfl, rfl⟩
          | ok changed =>
              have later := ih (cart.set position changed)
              exact ⟨later.engine, later.cart, later.failures, later.broken⟩

/-- What applying actions leaves, as a report without failures. -/
def progressReport (progress : Progress) : PassReport :=
  ⟨progress.cart, progress.journal, [], progress.broken⟩

theorem progressReport_cons (positions : List Nat) (action : Action) (rest : List Action)
    (cart : Cart) :
    progressReport (RetailPricing.applyActions positions (action :: rest) cart) =
      (⟨(action.applyAt positions cart).1, [], [], (action.applyAt positions cart).2⟩ :
        PassReport).followedBy fun changed =>
          let others := progressReport (RetailPricing.applyActions positions rest changed)
          { others with
            journal := .count (.actionsApplied action.kind positions.length) ::
              others.journal } := by
  rw [RetailPricing.applyActions]
  rcases action.applyAt positions cart with ⟨changed, broken⟩
  cases broken <;> rfl

theorem mirrors_applyActions (positions : List Nat) (actions : List Action)
    (engine : Engine) (cart : Cart) :
    Mirrors engine (applyActions positions actions engine cart)
      (progressReport (RetailPricing.applyActions positions actions cart)) := by
  induction actions generalizing engine cart with
  | nil => exact .idle engine cart
  | cons action rest ih =>
      rw [progressReport_cons]
      exact (mirrors_callAt engine action positions cart).andThen
        fun engine cart => (ih (engine.count _) cart).counted

theorem mirrors_tryRule (index : Nat) (rule : PricingRule) (engine : Engine) (cart : Cart) :
    Mirrors engine (tryRule index rule engine cart)
      (RetailPricing.tryRule Rule.selectPositions index rule cart) := by
  have quiet := (rule.picks_selectPositions cart).uncounted
  have selected := engine.read_of_uncounted quiet
  dsimp only [tryRule, RetailPricing.tryRule]
  cases (rule.selectPositions cart).outcome with
  | error interruption =>
      cases interruption with
      | signal s => exact ⟨selected.symm, rfl, rfl, rfl⟩
      | comparison fault => exact ⟨by rw [read_append, selected]; rfl, rfl, rfl, rfl⟩
  | ok positions =>
      cases positions with
      | nil => exact ⟨by rw [read_append, selected]; rfl, rfl, rfl, rfl⟩
      | cons position rest =>
          have applied := mirrors_applyActions (position :: rest) rule.actions engine cart
          dsimp only
          cases ended :
              (RetailPricing.applyActions (position :: rest) rule.actions cart).broken with
          | some mishap =>
              rw [Run.andThen_of_broken (applied.broken.trans ended)]
              refine ⟨?_, applied.cart, applied.failures, applied.broken.trans ended⟩
              rw [applied.engine, read_append, selected]
              rfl
          | none =>
              rw [Run.andThen_of_complete (applied.broken.trans ended)]
              refine ⟨?_, applied.cart, ?_, rfl⟩
              · dsimp only [Run.idle]
                rw [applied.engine, read_append, read_append, selected]
                rfl
              · dsimp only [Run.idle]
                rw [applied.failures]
                rfl

theorem mirrors_runRules (index : Nat) (rules : List PricingRule) (engine : Engine)
    (cart : Cart) :
    Mirrors engine (runRules index rules engine cart)
      (RetailPricing.runRules Rule.selectPositions index rules cart) := by
  induction rules generalizing index engine cart with
  | nil => exact .idle engine cart
  | cons rule rest ih => exact (mirrors_tryRule index rule engine cart).andThen (ih (index + 1))

/-- The engine runs the same pass, whether it has a meter or not. -/
theorem mirrors_pass (engine : Engine) (rules : List PricingRule) (cart : Cart) :
    Mirrors engine (engine.pass rules cart) (RetailPricing.pass rules cart) := by
  have run := mirrors_runRules 0 rules engine (cart.map Item.resetDiscount)
  refine ⟨?_, run.cart, run.failures, run.broken⟩
  dsimp only [pass, RetailPricing.pass]
  rw [read_append, run.engine]
  rfl

/-! ## The calls of a complete pass -/

theorem Run.broken_of_andThen {first : Run} {next : Engine → Cart → Run}
    (complete : (first.andThen next).broken = none) : first.broken = none := by
  cases ended : first.broken with
  | none => rfl
  | some mishap => rw [← complete, Run.andThen_of_broken ended, ended]

theorem calls_callAt {engine : Engine} {action : Action} {positions : List Nat} {cart : Cart}
    (inside : ∀ position ∈ positions, position < cart.length)
    (complete : (engine.callAt action positions cart).broken = none) :
    (engine.callAt action positions cart).calls =
      List.replicate positions.length action.kind := by
  induction positions generalizing cart with
  | nil => rfl
  | cons position rest ih =>
      obtain ⟨here, later⟩ := List.forall_mem_cons.1 inside
      rw [callAt, List.getElem?_eq_getElem here] at complete ⊢
      dsimp only at complete ⊢
      cases applied : action.apply cart[position] with
      | error mishap =>
          rw [applied] at complete
          cases complete
      | ok changed =>
          rw [applied] at complete
          dsimp only at complete ⊢
          rw [ih (by simpa using later) complete]
          rfl

theorem calls_applyActions {positions : List Nat} {actions : List Action} {engine : Engine}
    {cart : Cart} (inside : ∀ position ∈ positions, position < cart.length)
    (complete : (applyActions positions actions engine cart).broken = none) :
    (applyActions positions actions engine cart).calls =
      actions.flatMap fun action => List.replicate positions.length action.kind := by
  induction actions generalizing engine cart with
  | nil => rfl
  | cons action rest ih =>
      rw [applyActions] at complete ⊢
      have first := Run.broken_of_andThen complete
      rw [Run.andThen_of_complete first] at complete ⊢
      -- No entry comes or goes, so the positions stay inside for the actions behind.
      have sameLength : (engine.callAt action positions cart).cart.length = cart.length :=
        (congrArg List.length (mirrors_callAt engine action positions cart).cart).trans
          (action.length_applyAt positions cart)
      rw [← sameLength] at inside
      dsimp only
      rw [ih inside complete, List.flatMap_cons, calls_callAt (sameLength ▸ inside) first]

/-- The calls that a rule makes when it comes to its end, by their kinds: each of its
actions once on every entry that it selects. -/
def callsOf (cart : Cart) (rule : PricingRule) : List ActionKind :=
  rule.actions.flatMap fun action =>
    List.replicate (rule.positionsIn cart).length action.kind

theorem callsOf_of_selects_nothing {cart : Cart} {rule : PricingRule}
    (nothing : rule.positionsIn cart = []) : callsOf cart rule = [] := by
  rw [callsOf, nothing]
  exact List.flatMap_eq_nil_iff.2 fun _ _ => rfl

theorem callsOf_eq_of_map_resetDiscount_eq {first second : Cart}
    (sameProducts : first.map Item.resetDiscount = second.map Item.resetDiscount) :
    callsOf first = callsOf second := by
  funext rule
  rw [callsOf, callsOf, Rule.positionsIn_eq_of_map_resetDiscount_eq sameProducts]

theorem count_callsOf (cart : Cart) (rule : PricingRule) (kind : ActionKind) :
    (callsOf cart rule).count kind =
      rule.actions.countP (fun action => action.kind = kind) *
        (rule.positionsIn cart).length := by
  rw [callsOf, List.count_flatMap]
  simp only [Function.comp_def, List.count_replicate, beq_iff_eq, sum_map_ite]

theorem calls_tryRule {index : Nat} {rule : PricingRule} {engine : Engine} {cart : Cart}
    (complete : (tryRule index rule engine cart).broken = none) :
    (tryRule index rule engine cart).calls = callsOf cart rule := by
  have picks := rule.picks_selectPositions cart
  rw [tryRule] at complete ⊢
  cases ended : (rule.selectPositions cart).outcome with
  | error interruption =>
      have nothing : rule.positionsIn cart = [] := by rw [Rule.positionsIn, ended]
      rw [ended] at complete
      rw [callsOf_of_selects_nothing nothing]
      cases interruption <;> rfl
  | ok positions =>
      have selected : rule.positionsIn cart = positions := by rw [Rule.positionsIn, ended]
      rw [ended] at complete
      cases positions with
      | nil => exact (callsOf_of_selects_nothing selected).symm
      | cons position rest =>
          dsimp only at complete ⊢
          have first := Run.broken_of_andThen complete
          have inside : ∀ other ∈ position :: rest, other < cart.length := fun other member =>
            List.mem_range.1 ((picks.sublist ended).subset member)
          rw [Run.andThen_of_complete first, calls_applyActions inside first, callsOf, selected]
          exact List.append_nil _

theorem calls_runRules {index : Nat} {rules : List PricingRule} {engine : Engine} {cart : Cart}
    (complete : (runRules index rules engine cart).broken = none) :
    (runRules index rules engine cart).calls = rules.flatMap (callsOf cart) := by
  induction rules generalizing index engine cart with
  | nil => rfl
  | cons rule rest ih =>
      rw [runRules] at complete ⊢
      have first := Run.broken_of_andThen complete
      rw [Run.andThen_of_complete first] at complete ⊢
      -- The rules behind meet other discounts, which no selection looks at.
      have sameProducts : (tryRule index rule engine cart).cart.map Item.resetDiscount =
          cart.map Item.resetDiscount := by
        rw [(mirrors_tryRule index rule engine cart).cart]
        exact map_resetDiscount_tryRule Rule.selectPositions index rule cart
      dsimp only
      rw [calls_tryRule first, ih complete, callsOf_eq_of_map_resetDiscount_eq sameProducts,
        List.flatMap_cons]

theorem calls_pass {rules : List PricingRule} {engine : Engine} {cart : Cart}
    (complete : (engine.pass rules cart).broken = none) :
    (engine.pass rules cart).calls = rules.flatMap (callsOf cart) := by
  rw [← callsOf_eq_of_map_resetDiscount_eq (map_resetDiscount_map_resetDiscount cart)]
  exact calls_runRules complete

theorem count_calls_pass {rules : List PricingRule} {engine : Engine} {cart : Cart}
    (complete : (engine.pass rules cart).broken = none) (kind : ActionKind) :
    (engine.pass rules cart).calls.count kind =
      (rules.map fun rule => rule.actions.countP (fun action => action.kind = kind) *
        (rule.positionsIn cart).length).sum := by
  rw [calls_pass complete, List.count_flatMap]
  simp only [Function.comp_def, count_callsOf]

/-- The engine replies what the rules and the cart come to without a meter. -/
theorem apply_eq (engine : Engine) (rules cart : Datum) :
    engine.apply rules cart =
      (engine.read (applyGiven rules cart).journal,
        ⟨(applyGiven rules cart).entries, (applyGiven rules cart).outcome⟩) := by
  by_cases missing : cart = .null
  · rw [missing]
    rfl
  · rw [apply.eq_2 engine rules cart missing, applyGiven.eq_2 rules cart missing]
    cases rulesForPass rules with
    | error fault => rfl
    | ok admitted =>
        dsimp only
        cases membersOf cart with
        | error fault => rfl
        | ok entries =>
            dsimp only
            rw [applyToEntries]
            cases entries.mapM Datum.item? with
            | none => rfl
            | some items =>
                have mirrors := engine.mirrors_pass admitted items
                dsimp only
                rw [mirrors.engine, mirrors.cart, mirrors.outcome_eq]

/-- A meter is not seen in any reply. -/
theorem replies_eq (first second : Engine) (seen : List Reply)
    (calls : List (List Reply → Datum × Datum)) :
    first.replies seen calls = second.replies seen calls := by
  induction calls generalizing first second seen with
  | nil => rfl
  | cons call rest ih =>
      rw [replies, replies, apply_eq, apply_eq]
      exact ih _ _ _

/-- Rules with something else among them are refused: nothing is counted and no entry
is touched. -/
theorem apply_of_foreign_rule (engine : Engine) {rules cart : Datum} {members : List Datum}
    (given : cart ≠ .null) (handedIn : membersOf rules = .ok members)
    (foreign : ∃ member ∈ members, member.rule? = none) :
    ∃ found ∈ members, found.rule? = none ∧ engine.apply rules cart =
      (engine, ⟨cart.elements?.getD [], .error (.configuration (.ruleExpected found))⟩) := by
  obtain ⟨found, isMember, isForeign, refused⟩ :=
    Rule.exists_of_readMembers_foreign .ruleExpected foreign
  have rulesGiven : rules ≠ .null := by
    rintro rfl
    cases handedIn
  refine ⟨found, isMember, isForeign, ?_⟩
  rw [apply.eq_2 engine rules cart given, rulesForPass.eq_2 rules rulesGiven, handedIn]
  change (match admitRules members with
    | .error fault => _
    | .ok rules => _) = _
  rw [admitRules, refused]
  rfl

/-- Rules and items that are handed in as they are. -/
theorem apply_lists (engine : Engine) (rules : List PricingRule) (cart : Cart) :
    engine.apply (.list (rules.map .rule)) (.list (cart.map .item)) =
      ((engine.pass rules cart).engine,
        ⟨(engine.pass rules cart).cart.map .item, (engine.pass rules cart).outcome⟩) := by
  have admitted : rulesForPass (.list (rules.map .rule)) = .ok rules := by
    have all : Rule.readMembers Datum.rule? .ruleExpected (rules.map .rule) = .ok rules :=
      Rule.readMembers_map (fun rule => show (Datum.rule rule).rule? = some rule from rfl) rules
    change admitRules (rules.map .rule) = _
    rw [admitRules, all]
    rfl
  have items : (cart.map Datum.item).mapM Datum.item? = some cart := by
    induction cart with
    | nil => rfl
    | cons item rest ih => rw [List.map_cons, List.mapM_cons, ih]; rfl
  rw [apply.eq_2 engine (.list (rules.map .rule)) (.list (cart.map .item)) nofun, admitted]
  change (match (cart.map Datum.item).mapM Datum.item? with
    | some cart => _
    | none => _) = _
  rw [items]

/-- What a meter shows before and after a pass that came to its end.  A rule that does
not fire selects nothing, so it adds nothing to the sum of the calls. -/
structure Accounts (rules : List PricingRule) (cart : Cart) (run : Run)
    (before after : Meter) : Prop where
  service : after.service = before.service
  everyRule :
    after.evaluationsOf .fired + after.evaluationsOf .skipped + after.evaluationsOf .failed =
      before.evaluationsOf .fired + before.evaluationsOf .skipped +
        before.evaluationsOf .failed + rules.length
  fired : after.evaluationsOf .fired =
    before.evaluationsOf .fired + rules.countP fun rule => rule.positionsIn cart ≠ []
  failed : after.evaluationsOf .failed = before.evaluationsOf .failed + run.failures.length
  errors : after.evaluationErrors = before.evaluationErrors + run.failures.length
  actions : ∀ kind, after.actionsOf kind = before.actionsOf kind + run.calls.count kind
  calls : ∀ kind, run.calls.count kind =
    (rules.map fun rule => rule.actions.countP (fun action => action.kind = kind) *
      (rule.positionsIn cart).length).sum

theorem accounts_pass {meter : Meter} {rules : List PricingRule} {cart : Cart}
    (ends : ((metered meter).pass rules cart).RunsToEnd) :
    ∃ after, ((metered meter).pass rules cart).engine = metered after ∧
      Accounts rules cart ((metered meter).pass rules cart) meter after := by
  have mirrors := (metered meter).mirrors_pass rules cart
  have runComplete : ((metered meter).pass rules cart).broken = none :=
    PassReport.runsToEnd_iff.1 ends
  have complete : (RetailPricing.pass rules cart).broken = none :=
    mirrors.broken.symm.trans runComplete
  have failures : ((metered meter).pass rules cart).failures.length =
      rules.countP fun rule => rule.verdict cart = .failed := by
    rw [mirrors.failures, failures_pass_of_complete complete, length_failuresAmong]
  have evaluations := Meter.evaluationsOf_recordAll_pass complete meter
  have calls := count_calls_pass runComplete
  refine ⟨meter.recordAll (RetailPricing.pass rules cart).journal, ?_,
    meter.service_recordAll _, ?_, ?_, ?_, ?_, ?_, calls⟩
  · rw [mirrors.engine]
    exact congrArg Engine.mk ((metered meter).meter_read _)
  · have verdicts := countP_verdicts cart rules
    rw [evaluations, evaluations, evaluations]
    omega
  · rw [evaluations]
    simp only [Rule.verdict_eq_fired_iff]
  · rw [evaluations, failures]
  · rw [Meter.evaluationErrors_recordAll_pass complete, failures]
  · intro kind
    rw [Meter.actionsOf_recordAll_pass complete, calls]

end Engine

/-- Metrics account for every rule and every call of an action.  After a pass that came
to its end the numbers of fired, skipped and failed rules have grown by the number of
rules, failures and evaluation errors by the number of the rules that are told to have
failed, fired rules by the number of the rules that select something, and the actions of
each kind by the calls of actions of that kind.  A pass that is refused, for want of a
cart or because of something that is no rule, counts nothing and leaves the cart as it
was handed in.

And metrics are passive.  Counting on the spot comes to the same as reading the journal
afterwards, and the same calls have the same replies on an engine without a meter. -/
theorem metrics_account_for_passes_and_are_passive :
    (∀ (meter : Meter) (rules : List PricingRule) (cart : Cart),
      let run := (Engine.metered meter).pass rules cart
      run.RunsToEnd → ∃ after,
        (Engine.metered meter).apply (.list (rules.map .rule)) (.list (cart.map .item)) =
          (.metered after, ⟨run.cart.map .item, run.outcome⟩) ∧
        Engine.Accounts rules cart run meter after) ∧
    (∀ (engine : Engine) (rules : Datum),
      engine.apply rules .null = (engine, ⟨[], .error (.validation .missingCart)⟩)) ∧
    (∀ (engine : Engine) (rules cart : Datum) (members : List Datum), cart ≠ .null →
      membersOf rules = .ok members → (∃ member ∈ members, member.rule? = none) →
      ∃ found ∈ members, found.rule? = none ∧ engine.apply rules cart =
        (engine, ⟨cart.elements?.getD [], .error (.configuration (.ruleExpected found))⟩)) ∧
    (∀ (engine : Engine) (rules cart : Datum),
      let report := applyGiven rules cart
      (engine.apply rules cart).2 = ⟨report.entries, report.outcome⟩ ∧
        (engine.apply rules cart).1.meter =
          engine.meter.map fun meter => meter.recordAll report.journal) ∧
    ∀ (engine : Engine) (calls : List (List Engine.Reply → Datum × Datum)),
      engine.replies [] calls = Engine.unmetered.replies [] calls := by
  refine ⟨fun meter rules cart ends => ?_, fun engine rules => rfl,
    fun engine rules cart members given handedIn => engine.apply_of_foreign_rule given handedIn,
    fun engine rules cart => ?_, fun engine => engine.replies_eq .unmetered []⟩
  · obtain ⟨after, engine, accounts⟩ := Engine.accounts_pass ends
    exact ⟨after, by rw [Engine.apply_lists, engine], accounts⟩
  · rw [Engine.apply_eq]
    exact ⟨rfl, engine.meter_read _⟩

/-- A price for whatever has a code in front of a letter, which codes cannot be asked. -/
def earlyCodeOffer : PricingRule :=
  ⟨[⟨.itemCode, .lt, .text (.plain "N")⟩], [⟨.fixedPrice, .ofInt 1⟩], .null⟩

/-- Of three offers for two mugs one fires, one fails and one is skipped. -/
theorem three_offers_for_two_mugs_accounted :
    let run := (Engine.metered (.create "pricing")).pass
      [mugOffer, earlyCodeOffer, vaultOffer] [mug, mug]
    run.RunsToEnd ∧ run.calls = [.discountPercent, .discountPercent] ∧
      run.failures.length = 1 ∧
      ∃ after, Engine.Accounts [mugOffer, earlyCodeOffer, vaultOffer] [mug, mug] run
        (.create "pricing") after := by
  intro run
  have ends : run.RunsToEnd := .inr ⟨_, rfl⟩
  obtain ⟨after, _, accounts⟩ := metrics_account_for_passes_and_are_passive.1
    (.create "pricing") [mugOffer, earlyCodeOffer, vaultOffer] [mug, mug] ends
  exact ⟨ends, rfl, rfl, after, accounts⟩

end RetailPricing
