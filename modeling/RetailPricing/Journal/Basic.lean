import RetailPricing.Fault

/-!
# The journal

Pricing reports what it does as it goes: notices for the log, and counts for
the meter. A computation that breaks off keeps what it has reported. Notices
that belong to a checkout are bound to its identity.
-/

namespace RetailPricing

/-- Something worth a line in the log. -/
inductive Notice
  | codeConditionEvaluated (rule : Datum) (condition : String) (matched : Nat)
  | quantityNotMet (rule : Datum) (condition : String) (quantity : Nat)
  | noCompleteGroup (rule : Datum) (groupSize quantity : Nat)
  | groupsEvaluated (rule : Datum) (groupSize groupCount eligible : Nat)
  | ruleApplied (rule : Datum) (items : Nat) (actions : List String)
  | ruleFailed (failure : RuleFailure)
  | unknownKindSkipped (index : Option Nat) (rule : Option String) (kind : Text)
  | rulesLoaded (count : Nat)
  | itemScanned (code : Text) (cartSize : Nat)
  | serviceStarted (environment currency : String) (metered : Bool)
      (rules noops : Nat) (conditionKinds actionKinds : List String)

inductive RuleOutcome
  | fired
  | skipped
  | failed
deriving DecidableEq

/-- Something that the meter counts. -/
inductive Count
  | ruleEvaluated (outcome : RuleOutcome)
  | actionsApplied (kind : ActionKind) (items : Nat)
  | evaluationFailed
  | passTimed
  | itemScanned
deriving DecidableEq

/-- An entry of the journal. A notice may be bound to a checkout. -/
inductive Event
  | notice (checkout : Option String) (n : Notice)
  | count (c : Count)

abbrev Journal := List Event

namespace Journal

def counts (journal : Journal) : List Count :=
  journal.filterMap fun
    | .count c => some c
    | .notice _ _ => none

/-- Binds notices that are not bound yet. -/
def boundTo (checkout : String) (journal : Journal) : Journal :=
  journal.map fun
    | .notice none n => .notice (some checkout) n
    | event => event

theorem counts_append (first second : Journal) :
    counts (first ++ second) = counts first ++ counts second :=
  List.filterMap_append

/-- Whom notices are bound to makes no difference to what is counted. -/
theorem counts_boundTo (checkout : String) (journal : Journal) :
    counts (boundTo checkout journal) = counts journal := by
  induction journal with
  | nil => rfl
  | cons event rest ih =>
      cases event with
      | count c => exact congrArg (c :: ·) ih
      | notice bound n =>
          cases bound with
          | none => exact ih
          | some identity => exact ih

end Journal

/-- A computation with a journal. It ends with a result or breaks off. -/
@[ext]
structure Reported (ε α : Type) where
  journal : Journal
  outcome : Except ε α

namespace Reported

variable {ε α β : Type}

def done (result : α) : Reported ε α :=
  ⟨[], .ok result⟩

def lift (outcome : Except ε α) : Reported ε α :=
  ⟨[], outcome⟩

def note (n : Notice) : Reported ε Unit :=
  ⟨[.notice none n], .ok ()⟩

/-- Goes on with the result, if there is one; the journals follow each other. -/
def andThen (first : Reported ε α) (next : α → Reported ε β) : Reported ε β :=
  match first.outcome with
  | .ok result =>
      let second := next result
      ⟨first.journal ++ second.journal, second.outcome⟩
  | .error fault => ⟨first.journal, .error fault⟩

instance : Monad (Reported ε) where
  pure := done
  bind := andThen

theorem bind_of_ok {first : Reported ε α} {next : α → Reported ε β} {result : α}
    (succeeded : first.outcome = .ok result) :
    first >>= next =
      ⟨first.journal ++ (next result).journal, (next result).outcome⟩ := by
  change andThen first next = _
  simp only [andThen, succeeded]

theorem bind_of_error {first : Reported ε α} {next : α → Reported ε β} {fault : ε}
    (failed : first.outcome = .error fault) :
    first >>= next = ⟨first.journal, .error fault⟩ := by
  change andThen first next = _
  simp only [andThen, failed]

theorem journal_done_bind (result : α) (next : α → Reported ε β) :
    (done result >>= next : Reported ε β) = next result :=
  bind_of_ok rfl

/-- The same journal with another kind of fault. -/
def mapFault {δ : Type} (f : ε → δ) (computation : Reported ε α) : Reported δ α :=
  ⟨computation.journal, computation.outcome.mapError f⟩

end Reported

end RetailPricing
