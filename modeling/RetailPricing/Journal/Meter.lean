import RetailPricing.Journal.Basic

/-!
# The meter

The meter keeps a count for every label that has been used, and hands out
samples by name and labels. A sample with labels that were never used does not
exist; counts without labels start at zero. Passes are counted in a histogram
of their durations, and a pass is faster than the finest of its bounds. Samples
are whole numbers, and all passes together take no whole second.

A journal adds ones and small numbers, which count exactly. Numbers that are
recorded by hand can be of any size: the count after each of them is the float
that is nearest to it.
-/

namespace RetailPricing

structure Meter where
  service : String
  evaluations : List (String × Nat)
  actions : List (String × Nat)
  errors : List ((String × String) × Nat)
  passes : Nat
  scans : Nat

namespace RuleOutcome

def word : RuleOutcome → String
  | fired => "fired"
  | skipped => "skipped"
  | failed => "failed"

end RuleOutcome

namespace Meter

variable {Key : Type} [DecidableEq Key]

def addTo (key : Key) (n : Nat) : List (Key × Nat) → List (Key × Nat)
  | [] => [(key, n)]
  | entry :: rest =>
      if entry.1 = key then (key, entry.2 + n) :: rest
      else entry :: addTo key n rest

def countOf? (key : Key) (counts : List (Key × Nat)) : Option Nat :=
  (counts.find? fun entry => entry.1 = key).map Prod.snd

theorem countOf?_addTo_self (key : Key) (n : Nat) (counts : List (Key × Nat)) :
    countOf? key (addTo key n counts) = some ((countOf? key counts).getD 0 + n) := by
  induction counts with
  | nil => simp [addTo, countOf?]
  | cons entry rest ih =>
      by_cases same : entry.1 = key
      · simp [addTo, countOf?, same]
      · simpa [addTo, countOf?, same] using ih

theorem countOf?_addTo_of_ne {key other : Key} (different : key ≠ other) (n : Nat)
    (counts : List (Key × Nat)) :
    countOf? other (addTo key n counts) = countOf? other counts := by
  induction counts with
  | nil => simp [addTo, countOf?, different]
  | cons entry rest ih =>
      by_cases same : entry.1 = key
      · simp [addTo, countOf?, same, different]
      · rw [addTo, if_neg same]
        by_cases found : entry.1 = other
        · simp [countOf?, found]
        · simpa [countOf?, found] using ih

def create (service : String) : Meter :=
  ⟨service, [], [], [], 0, 0⟩

def recordEvaluation (outcome : String) (meter : Meter) : Meter :=
  { meter with evaluations := addTo outcome 1 meter.evaluations }

def recordActions (action : String) (n : Nat) (meter : Meter) : Meter :=
  { meter with actions := addTo action n meter.actions }

/-- The float nearest to a whole number, which is itself a whole number. Beyond
the largest float there is none. -/
def nearestCount? (n : Nat) : Option Nat :=
  match BinaryFloat.nearest false n 1 with
  | .finite _ mantissa exponent =>
      some (if exponent < 0 then mantissa / Nat.pow 2 exponent.natAbs
        else mantissa * Nat.pow 2 exponent.natAbs)
  | _ => none

/-- The number that is added to the count `count` when `n` is recorded. -/
def addend? (count n : Nat) : Option Nat := do
  let nearest ← nearestCount? n
  let total := (nearestCount? (count + nearest)).getD count
  return total - count

/-- Records a number of actions by hand. Counts are never taken back: a negative
number is refused, and only the label comes into use, as with everything that
is no count. -/
def recordGiven (action : String) (given : Datum) (meter : Meter) :
    Meter × Except Mishap Unit :=
  let refused (mishap : Mishap) : Meter × Except Mishap Unit :=
    (meter.recordActions action 0, .error mishap)
  match given.whole? with
  | none => refused .wrongType
  | some n =>
      if n < 0 then refused .badValue
      else
        match addend? ((countOf? action meter.actions).getD 0) n.toNat with
        | some added => (meter.recordActions action added, .ok ())
        | none => refused .numberTooLarge

def recordScan (meter : Meter) : Meter :=
  { meter with scans := meter.scans + 1 }

def recordPass (meter : Meter) : Meter :=
  { meter with passes := meter.passes + 1 }

/-- An error belongs to the service of the meter unless another one is
named. -/
def recordError (type : String) (service : Option String) (meter : Meter) : Meter :=
  { meter with errors := addTo (type, service.getD meter.service) 1 meter.errors }

def record (meter : Meter) : Count → Meter
  | .ruleEvaluated outcome => meter.recordEvaluation outcome.word
  | .actionsApplied kind items => meter.recordActions kind.word items
  | .evaluationFailed => meter.recordError "evaluation_error" none
  | .passTimed => meter.recordPass
  | .itemScanned => meter.recordScan

/-- Counts everything that a journal has to count. -/
def recordAll (meter : Meter) (journal : Journal) : Meter :=
  journal.counts.foldl record meter

def metricNames : List String :=
  ["pricing_rule_evaluations_total", "pricing_rule_actions_total",
    "pricing_apply_duration_seconds", "pricing_items_scanned_total",
    "errors_total"]

def durationBounds : List String :=
  ["0.005", "0.01", "0.025", "0.05", "0.075", "0.1", "0.25", "0.5", "0.75",
    "1.0", "2.5", "5.0", "7.5", "10.0", "+Inf"]

/-- The value of a label, if the labels are exactly this one. -/
def onlyLabel? (name : String) : List (String × String) → Option String
  | [(key, value)] => if key = name then some value else none
  | _ => none

/-- The values of two labels, if the labels are exactly these. -/
def onlyLabels? (first second : String) :
    List (String × String) → Option (String × String)
  | [(k, v), (l, w)] =>
      if k = first ∧ l = second then some (v, w)
      else if k = second ∧ l = first then some (w, v)
      else none
  | _ => none

/-- The sample with this name and exactly these labels. -/
def sample? (meter : Meter) (name : String) (labels : List (String × String)) :
    Option Nat :=
  match name with
  | "pricing_rule_evaluations_total" => do
      countOf? (← onlyLabel? "outcome" labels) meter.evaluations
  | "pricing_rule_actions_total" => do
      countOf? (← onlyLabel? "action" labels) meter.actions
  | "errors_total" => do
      countOf? (← onlyLabels? "error_type" "service" labels) meter.errors
  | "pricing_items_scanned_total" => if labels.isEmpty then some meter.scans else none
  | "pricing_apply_duration_seconds_count" =>
      if labels.isEmpty then some meter.passes else none
  | "pricing_apply_duration_seconds_sum" =>
      if labels.isEmpty then some 0 else none
  | "pricing_apply_duration_seconds_bucket" => do
      let bound ← onlyLabel? "le" labels
      if durationBounds.contains bound then some meter.passes else none
  | _ => none

end Meter

end RetailPricing
