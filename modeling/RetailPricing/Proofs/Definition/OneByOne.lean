import RetailPricing.Definition.Loading
import RetailPricing.Proofs.Engine.Selection
import RetailPricing.Proofs.Rule.Factory

/-!
# Definitions are loaded one by one

What a definition comes to does not depend on the definitions around it.  So a
list of definitions is loaded when each of them is, to the rules that they make
when they are loaded alone.  Otherwise the first one that cannot be loaded is to
blame: its fault says what it says when the definition is loaded alone, apart
from the index of the definition (`ConfigurationFault.SaysAs`).
-/

namespace RetailPricing

theorem Datum.lookup_append (key : String) (first second : List (String × Datum)) :
    lookup key (first ++ second) = (lookup key first).or (lookup key second) := by
  rw [lookup, List.find?_append, lookup, lookup]
  cases first.find? fun entry => entry.1 == key <;> rfl

namespace ConfigurationFault

/-- The same fault in a definition with another index. -/
def movedTo (index : Nat) : ConfigurationFault → ConfigurationFault
  | invalidDefinition _ violations => invalidDefinition index violations
  | inDefinition _ fault => inDefinition index fault
  | other => other

/-- The fault belongs to a definition, and says to which one. -/
inductive PlacedAt (index : Nat) : ConfigurationFault → Prop
  | invalid (violations : List Violation) : PlacedAt index (invalidDefinition index violations)
  | inside {fault : ConfigurationFault} (unplaced : fault.Unplaced) :
      PlacedAt index (inDefinition index fault)

/-- Both faults say the same, and have the same cause, except that they may name
different definitions. -/
structure SaysAs (fault other : ConfigurationFault) : Prop where
  message : fault.message = other.message
  details : ∀ key, key ≠ "index" →
    Datum.lookup key fault.details = Datum.lookup key other.details
  cause : fault.cause? = other.cause?

namespace PlacedAt

variable {index : Nat} {fault : ConfigurationFault}

theorem lookup_index (placed : fault.PlacedAt index) :
    Datum.lookup "index" fault.details = some (.int index) := by
  cases placed with
  | invalid violations => rfl
  | inside unplaced =>
      rw [details, Datum.lookup_append, Datum.lookup_eq_none unplaced]
      rfl

theorem movedTo (placed : fault.PlacedAt index) (other : Nat) :
    (fault.movedTo other).PlacedAt other := by
  cases placed with
  | invalid violations => exact .invalid violations
  | inside unplaced => exact .inside unplaced

theorem movedTo_saysAs (placed : fault.PlacedAt index) (other : Nat) :
    (fault.movedTo other).SaysAs fault := by
  have elsewhere {key : String} (different : key ≠ "index") (place : Nat) :
      Datum.lookup key [("index", .int place)] = none :=
    Datum.lookup_eq_none (by simpa using different.symm)
  cases placed with
  | invalid violations =>
      refine ⟨rfl, fun key different => ?_, rfl⟩
      change Datum.lookup key ([("index", .int other)] ++ _) =
        Datum.lookup key ([("index", .int index)] ++ _)
      rw [Datum.lookup_append, Datum.lookup_append, elsewhere different, elsewhere different]
  | inside unplaced =>
      refine ⟨rfl, fun key different => ?_, rfl⟩
      rw [ConfigurationFault.movedTo, details, details, Datum.lookup_append,
        Datum.lookup_append, elsewhere different, elsewhere different]

end PlacedAt

end ConfigurationFault

theorem Datum.ofNumericOperand_ne_null (n : NumericOperand) : ofNumericOperand n ≠ .null := by
  cases n <;> exact nofun

theorem Datum.ofOperand_ne_null (operand : Operand) : ofOperand operand ≠ .null := by
  cases operand with
  | numeric n => exact ofNumericOperand_ne_null n
  | text characters => exact nofun

theorem ConditionDefinition.build_eq_ofKnown (d : ConditionDefinition) :
    d.build = Condition.ofKnown d.kind d.operator (.ofOperand d.value) :=
  Condition.create_eq_ofKnown (ConditionKind.ofAnyCase?_word d.kind)
    (readLabel_text (Operator.ofAnyCase?_word d.operator)) (Datum.ofOperand_ne_null d.value)

theorem ActionDefinition.build_eq_ofKnown (d : ActionDefinition) :
    d.build = Action.ofKnown d.kind (.ofNumericOperand d.value) :=
  Action.create_eq_ofKnown (ActionKind.ofAnyCase?_word d.kind)
    (Datum.ofNumericOperand_ne_null d.value)

/-- Building a rule stops at the fault of one of its parts. -/
theorem RuleDefinition.unplaced_of_build {d : RuleDefinition} {fault : ConfigurationFault}
    (refused : d.build = .error fault) : fault.Unplaced := by
  rcases Outcome.bind_eq_error_iff.1 refused with inConditions | ⟨_, _, later⟩
  · obtain ⟨condition, _, unbuilt⟩ := Outcome.exists_mem_of_mapM_eq_error inConditions
    rw [ConditionDefinition.build_eq_ofKnown] at unbuilt
    exact Condition.unplaced_of_ofKnown unbuilt
  · rcases Outcome.bind_eq_error_iff.1 later with inActions | ⟨_, _, ended⟩
    · obtain ⟨action, _, unbuilt⟩ := Outcome.exists_mem_of_mapM_eq_error inActions
      rw [ActionDefinition.build_eq_ofKnown] at unbuilt
      exact Action.unplaced_of_ofKnown unbuilt
    · cases ended

/-- The index of a definition is seen in its faults only. -/
theorem outcome_check (index : Nat) (given : Datum) :
    (RuleDefinition.check (some index) given).outcome =
      (RuleDefinition.check none given).outcome := by
  cases given <;> rfl

/-- What a definition comes to at some place: a rule, or the violations that were
found, or the fault of a part. -/
theorem outcome_loadRule (index : Nat) (given : Datum) :
    (loadRule index given).outcome =
      match (RuleDefinition.check none given).outcome with
      | .ok d => d.build.mapError (.inDefinition index)
      | .error violations => .error (.invalidDefinition index violations) := by
  rw [← outcome_check index, loadRule]
  cases RuleDefinition.check (some index) given with
  | mk journal outcome => cases outcome <;> rfl

theorem placedAt_of_loadRule {index : Nat} {given : Datum} {fault : ConfigurationFault}
    (refused : (loadRule index given).outcome = .error fault) : fault.PlacedAt index := by
  rw [outcome_loadRule] at refused
  split at refused
  · obtain ⟨inner, unbuilt, rfl⟩ := Outcome.mapError_eq_error_iff.1 refused
    exact .inside (RuleDefinition.unplaced_of_build unbuilt)
  · cases refused
    exact .invalid _

/-- The index of a definition changes nothing but the place in its faults. -/
theorem outcome_loadRule_eq_mapError (index : Nat) (given : Datum) :
    (loadRule index given).outcome =
      (loadRule 0 given).outcome.mapError (ConfigurationFault.movedTo index) := by
  rw [outcome_loadRule, outcome_loadRule]
  cases (RuleDefinition.check none given).outcome with
  | error violations => rfl
  | ok d =>
      dsimp only
      cases d.build <;> rfl

theorem outcome_loadFrom_eq_ok_iff {index : Nat} {definitions : List Datum}
    {rules : List PricingRule} :
    (loadFrom index definitions).outcome = .ok rules ↔
      List.Forall₂ (fun definition rule => (loadRule 0 definition).outcome = .ok rule)
        definitions rules := by
  induction definitions generalizing index rules with
  | nil =>
      constructor
      · rintro ⟨⟩
        exact .nil
      · rintro ⟨⟩
        rfl
  | cons definition rest ih =>
      rw [loadFrom, Reported.outcome_bind_eq_ok_iff]
      simp only [Reported.outcome_bind_eq_ok_iff, outcome_loadRule_eq_mapError index definition,
        Outcome.mapError_eq_ok_iff, ih]
      constructor
      · rintro ⟨rule, alone, others, loaded, ⟨⟩⟩
        exact .cons alone loaded
      · rintro (_ | ⟨alone, loaded⟩)
        exact ⟨_, alone, _, loaded, rfl⟩

/-- The first definition that is refused alone is the one to blame. -/
theorem exists_first_refused {index : Nat} {definitions : List Datum}
    {fault : ConfigurationFault}
    (refused : (loadFrom index definitions).outcome = .error fault) :
    ∃ place definition own, definitions[place]? = some definition ∧
      (∀ earlier ∈ definitions.take place, ∃ rule,
        (loadRule 0 earlier).outcome = .ok rule) ∧
      (loadRule 0 definition).outcome = .error own ∧ fault = own.movedTo (index + place) := by
  induction definitions generalizing index with
  | nil => cases refused
  | cons definition rest ih =>
      rw [loadFrom, Reported.outcome_bind_eq_error_iff,
        outcome_loadRule_eq_mapError index definition] at refused
      rcases refused with here | ⟨rule, alone, later⟩
      · obtain ⟨own, alone, rfl⟩ := Outcome.mapError_eq_error_iff.1 here
        exact ⟨0, definition, own, rfl, by simp, alone, rfl⟩
      · rcases Reported.outcome_bind_eq_error_iff.1 later with behind | ⟨_, _, ended⟩
        · obtain ⟨place, other, own, found, before, otherAlone, rfl⟩ := ih behind
          refine ⟨place + 1, other, own, found, ?_, otherAlone, ?_⟩
          · rw [List.take_succ_cons, List.forall_mem_cons]
            exact ⟨⟨rule, Outcome.mapError_eq_ok_iff.1 alone⟩, before⟩
          · rw [Nat.add_right_comm, Nat.add_assoc]
        · cases ended

theorem refused_iff {index : Nat} {definitions : List Datum} :
    (∃ fault, (loadFrom index definitions).outcome = .error fault) ↔
      ∃ definition ∈ definitions, ∃ own, (loadRule 0 definition).outcome = .error own := by
  constructor
  · rintro ⟨fault, refused⟩
    obtain ⟨_, definition, own, found, _, alone, _⟩ := exists_first_refused refused
    exact ⟨definition, List.mem_of_getElem? found, own, alone⟩
  · rintro ⟨definition, member, own, alone⟩
    cases ended : (loadFrom index definitions).outcome with
    | error fault => exact ⟨fault, rfl⟩
    | ok rules =>
        obtain ⟨rule, loaded⟩ :=
          Outcome.exists_related (outcome_loadFrom_eq_ok_iff.1 ended) member
        rw [alone] at loaded
        cases loaded

theorem outcome_loadRules_list (definitions : List Datum) :
    (loadRules (.list definitions)).outcome =
      (loadFrom 0 definitions).outcome.mapError .configuration := by
  change ((loadFrom 0 definitions).mapFault Fault.configuration >>= _).outcome = _
  cases loadFrom 0 definitions with
  | mk journal outcome => cases outcome <;> rfl

/-- A definition that is loaded alone makes a single rule. -/
theorem outcome_loadRules_singleton (definition : Datum) :
    (loadRules (.list [definition])).outcome =
      ((loadRule 0 definition).outcome.map ([·])).mapError .configuration := by
  rw [outcome_loadRules_list, loadFrom]
  cases loadRule 0 definition with
  | mk journal outcome => cases outcome <;> rfl

/-- A list of definitions is loaded exactly when each of them is loaded alone, and
then to the rules that they make alone, in order.  Otherwise the configuration is
refused: the fault names the first definition that is refused alone and says what
it says of that one.  Nothing else can come out. -/
theorem loads_definition_by_definition (definitions : List Datum) :
    let alone (definition : Datum) := (loadRules (.list [definition])).outcome
    let together := (loadRules (.list definitions)).outcome
    (∀ definition, (∃ rule, alone definition = .ok [rule]) ∨
      ∃ own, alone definition = .error (.configuration own)) ∧
    (∀ rules, together = .ok rules ↔
      List.Forall₂ (fun definition rule => alone definition = .ok [rule]) definitions rules) ∧
    ((∃ fault, together = .error fault) ↔
      ∃ definition ∈ definitions, ∃ fault, alone definition = .error fault) ∧
    ∀ fault, together = .error fault →
      ∃ reason index definition own, fault = .configuration reason ∧
        definitions[index]? = some definition ∧
        (∀ earlier ∈ definitions.take index, ∃ rule, alone earlier = .ok [rule]) ∧
        alone definition = .error (.configuration own) ∧
        Datum.lookup "index" reason.details = some (.int index) ∧ reason.SaysAs own := by
  intro alone together
  have aloneOk (definition : Datum) (rule : PricingRule) :
      alone definition = .ok [rule] ↔ (loadRule 0 definition).outcome = .ok rule := by
    simp [alone, outcome_loadRules_singleton, Outcome.mapError_eq_ok_iff, Outcome.map_eq_ok_iff]
  have aloneError (definition : Datum) (fault : Fault) :
      alone definition = .error fault ↔
        ∃ own, (loadRule 0 definition).outcome = .error own ∧ .configuration own = fault := by
    simp only [alone, outcome_loadRules_singleton, Outcome.mapError_eq_error_iff,
      Outcome.map_eq_error_iff]
  refine ⟨fun definition => ?_, fun rules => ?_, ?_, fun fault refused => ?_⟩
  · cases ended : (loadRule 0 definition).outcome with
    | ok rule => exact .inl ⟨rule, (aloneOk definition rule).2 ended⟩
    | error own => exact .inr ⟨own, (aloneError definition _).2 ⟨own, ended, rfl⟩⟩
  · simp only [together, outcome_loadRules_list, Outcome.mapError_eq_ok_iff,
      outcome_loadFrom_eq_ok_iff, aloneOk]
  · simp only [together, outcome_loadRules_list, Outcome.mapError_eq_error_iff, aloneError]
    constructor
    · rintro ⟨_, reason, stopped, _⟩
      obtain ⟨definition, member, own, refused⟩ := refused_iff.1 ⟨reason, stopped⟩
      exact ⟨definition, member, _, own, refused, rfl⟩
    · rintro ⟨definition, member, _, own, refused, _⟩
      obtain ⟨reason, stopped⟩ := refused_iff.2 ⟨definition, member, own, refused⟩
      exact ⟨_, reason, stopped, rfl⟩
  · simp only [together, outcome_loadRules_list, Outcome.mapError_eq_error_iff] at refused
    obtain ⟨reason, stopped, rfl⟩ := refused
    obtain ⟨index, definition, own, found, before, refusedAlone, rfl⟩ :=
      exists_first_refused stopped
    have placed := placedAt_of_loadRule refusedAlone
    rw [Nat.zero_add]
    exact ⟨_, index, definition, own, rfl, found,
      fun earlier member => (before earlier member).imp fun rule => (aloneOk earlier rule).2,
      (aloneError definition _).2 ⟨own, refusedAlone, rfl⟩,
      (placed.movedTo index).lookup_index, placed.movedTo_saysAs index⟩

end RetailPricing
