import RetailPricing.Label
import RetailPricing.Proofs.Outcome
import RetailPricing.Rule.Factory

/-!
# Factories with known labels

Once the kind and the operator of a condition are read, all that can still go
wrong is its value (`Condition.ofKnown`), and likewise for an action
(`Action.ofKnown`).  A member of a vocabulary is read alike whether the member
itself is handed in or its word, so it makes no difference in which of the two
forms a kind or an operator comes.

The faults of the factories do not say to which definition they belong
(`ConfigurationFault.Unplaced`).
-/

namespace RetailPricing

/-- The fault has no index of a definition among its details. -/
def ConfigurationFault.Unplaced (fault : ConfigurationFault) : Prop :=
  ∀ entry ∈ fault.details, entry.1 ≠ "index"

section Values

open ConfigurationFault (Unplaced details)

variable {given : Datum} {fault : ConfigurationFault}

theorem Datum.unplaced_of_finiteAmount {d : Decimal}
    (refused : given.finiteAmount d = .error fault) : fault.Unplaced := by
  unfold finiteAmount at refused
  split at refused
  · cases refused
  · cases refused
    simp [Unplaced, details]

theorem Datum.unplaced_of_toAmount (refused : given.toAmount = .error fault) :
    fault.Unplaced := by
  unfold toAmount at refused
  split at refused
  · cases refused
    simp [Unplaced, details]
  · cases refused
  · exact unplaced_of_finiteAmount refused
  · split at refused
    · exact unplaced_of_finiteAmount refused
    · cases refused
      simp [Unplaced, details]

theorem Value.unplaced_of_ofDatum (refused : Value.ofDatum given = .error fault) :
    fault.Unplaced := by
  cases given with
  | value v => cases refused
  | text t => cases refused
  | int n => cases refused
  | decimal d => cases refused
  | float x => exact Datum.unplaced_of_toAmount (Outcome.map_eq_error_iff.1 refused)
  | _ =>
      cases refused
      simp [Unplaced, details]

end Values

/-- A text that definitions read as a member is the word of that member, apart
from blanks and letter case. -/
theorem Vocabulary.ofList_normalised {α : Type} [Vocabulary α] {text : String} {member : α}
    (known : ofNormalised? text = some member) :
    String.ofList (normalised text) = word member := by
  have same := List.find?_some known
  rw [← beq_iff_eq.1 same, String.ofList_toList]

theorem readLabel_text {α : Type} [Vocabulary α] {what : String} {t : Text} {member : α}
    (known : Vocabulary.ofAnyCase? t.content = some member) :
    readLabel α what (.text t) = .ok member := by
  rw [readLabel, known]

namespace Condition

/-- The factory from where the kind and the operator are known. -/
def ofKnown (kind : ConditionKind) (operator : Operator) (value : Datum) :
    Except ConfigurationFault Condition := do
  let value ← Value.ofDatum value
  match kind with
  | .xQuantity => checkGroup operator value
  | _ => pure ()
  return ⟨kind, operator, value⟩

/-- The operator that the factory reads; without one it is equality. -/
def readOperator : Datum → Except ConfigurationFault Operator
  | .null => .ok .eq
  | given => readLabel Operator "condition_operator" given

/-- What is given is read in the order of the fields. -/
theorem create_of_given {kind operator value : Datum} (kindGiven : kind ≠ .null)
    (valueGiven : value ≠ .null) :
    create kind operator value =
      readLabel ConditionKind "condition_kind" kind >>= fun knownKind =>
        readOperator operator >>= fun knownOperator =>
          ofKnown knownKind knownOperator value := by
  rw [create]
  · cases value with
    | null => exact absurd rfl valueGiven
    | _ => cases operator <;> rfl
  · exact kindGiven

/-- With a known kind and a known operator only the value is left to check. -/
theorem create_eq_ofKnown {kindText : Text} {operatorGiven value : Datum}
    {kind : ConditionKind} {operator : Operator}
    (kindKnown : Vocabulary.ofAnyCase? kindText.content = some kind)
    (operatorRead : readOperator operatorGiven = .ok operator) (given : value ≠ .null) :
    create (.text kindText) operatorGiven value = ofKnown kind operator value := by
  have kindGiven : Datum.text kindText ≠ .null := nofun
  rw [create_of_given kindGiven given, readLabel_text kindKnown, operatorRead]
  rfl

/-- What is created has a kind and an operator that are known. -/
theorem exists_ofKnown_of_create {kind operator value : Datum} {condition : Condition}
    (created : create kind operator value = .ok condition) :
    ∃ knownKind knownOperator, ofKnown knownKind knownOperator value = .ok condition := by
  have kindGiven : kind ≠ .null := by
    rintro rfl
    cases created
  have valueGiven : value ≠ .null := by
    rintro rfl
    rw [create] at created
    · cases created
    · exact kindGiven
  rw [create_of_given kindGiven valueGiven] at created
  obtain ⟨knownKind, _, later⟩ := Outcome.bind_eq_ok_iff.1 created
  obtain ⟨knownOperator, _, made⟩ := Outcome.bind_eq_ok_iff.1 later
  exact ⟨knownKind, knownOperator, made⟩

/-- A condition holds the value that was handed in for it. -/
theorem ofDatum_of_create {kind operator value : Datum} {condition : Condition}
    (created : create kind operator value = .ok condition) :
    Value.ofDatum value = .ok condition.value := by
  obtain ⟨knownKind, knownOperator, made⟩ := exists_ofKnown_of_create created
  obtain ⟨known, read, checked⟩ := Outcome.bind_eq_ok_iff.1 made
  cases knownKind with
  | itemCode | quantityTotal =>
      obtain rfl := Except.ok.inj checked
      exact read
  | xQuantity =>
      obtain ⟨_, _, ended⟩ := Outcome.bind_eq_ok_iff.1 checked
      obtain rfl := Except.ok.inj ended
      exact read

/-- The factory makes the condition of some data. -/
def IsBuilt (condition : Condition) : Prop :=
  ∃ kind operator value, create kind operator value = .ok condition

/-- A condition is built when a value is accepted for some kind and operator. -/
theorem isBuilt_iff {condition : Condition} :
    condition.IsBuilt ↔
      ∃ kind operator value, ofKnown kind operator value = .ok condition := by
  constructor
  · rintro ⟨kind, operator, value, created⟩
    obtain ⟨knownKind, knownOperator, made⟩ := exists_ofKnown_of_create created
    exact ⟨knownKind, knownOperator, value, made⟩
  · rintro ⟨kind, operator, value, made⟩
    have given : value ≠ .null := by
      rintro rfl
      cases made
    have kindKnown :
        Vocabulary.ofAnyCase? (Text.label (.conditionKind kind)).content = some kind :=
      ConditionKind.ofAnyCase?_word kind
    have operatorRead : readOperator (.text (.label (.operator operator))) = .ok operator :=
      readLabel_text (Operator.ofAnyCase?_word operator)
    exact ⟨_, _, value, (create_eq_ofKnown kindKnown operatorRead given).trans made⟩

/-- A group condition that the factory builds compares with a positive whole number. -/
theorem IsBuilt.exists_size {condition : Condition} (built : condition.IsBuilt)
    (grouped : condition.kind = .xQuantity) :
    condition.operator = .eq ∧ ∃ size : Int, condition.value = .integer size ∧ 0 < size := by
  obtain ⟨kind, operator, value, made⟩ := isBuilt_iff.1 built
  obtain ⟨known, _, checked⟩ := Outcome.bind_eq_ok_iff.1 made
  cases kind with
  | itemCode | quantityTotal =>
      obtain rfl := Except.ok.inj checked
      cases grouped
  | xQuantity =>
      obtain ⟨_, fits, ended⟩ := Outcome.bind_eq_ok_iff.1 checked
      obtain rfl := Except.ok.inj ended
      unfold checkGroup at fits
      split at fits
      next size _ =>
          split at fits
          next => cases fits
          next positive =>
              split at fits
              next equality => exact ⟨equality, size, rfl, Int.not_le.1 positive⟩
              next => cases fits
      next => cases fits

theorem unplaced_of_checkGroup {operator : Operator} {value : Value}
    {fault : ConfigurationFault} (refused : checkGroup operator value = .error fault) :
    fault.Unplaced := by
  unfold checkGroup at refused
  split at refused
  · split at refused
    · cases refused
      simp [ConfigurationFault.Unplaced, ConfigurationFault.details]
    · split at refused
      · cases refused
      · cases refused
        simp [ConfigurationFault.Unplaced, ConfigurationFault.details]
  · cases refused
    simp [ConfigurationFault.Unplaced, ConfigurationFault.details]

theorem unplaced_of_ofKnown {kind : ConditionKind} {operator : Operator} {value : Datum}
    {fault : ConfigurationFault} (refused : ofKnown kind operator value = .error fault) :
    fault.Unplaced := by
  rcases Outcome.bind_eq_error_iff.1 refused with noValue | ⟨known, _, noGroup⟩
  · exact Value.unplaced_of_ofDatum noValue
  · cases kind with
    | xQuantity =>
        rcases Outcome.bind_eq_error_iff.1 noGroup with unfit | ⟨_, _, ended⟩
        · exact unplaced_of_checkGroup unfit
        · cases ended
    | itemCode => cases noGroup
    | quantityTotal => cases noGroup

end Condition

namespace Action

/-- The factory from where the kind is known. -/
def ofKnown (kind : ActionKind) (value : Datum) : Except ConfigurationFault Action := do
  let some _ := (operand value).number?
    | throw (.actionNotNumeric kind value)
  let amount ← (operand value).toAmount
  if amount.isNegative then throw (.actionNegative kind amount)
  return ⟨kind, amount⟩

/-- What is given is read in the order of the fields. -/
theorem create_of_given {kind value : Datum} (kindGiven : kind ≠ .null)
    (valueGiven : value ≠ .null) :
    create kind value =
      readLabel ActionKind "action_kind" kind >>= fun known => ofKnown known value := by
  unfold create ofKnown
  cases kind with
  | null => exact absurd rfl kindGiven
  | _ =>
      cases value with
      | null => exact absurd rfl valueGiven
      | _ => rfl

/-- With a known kind only the value is left to check. -/
theorem create_eq_ofKnown {kindText : Text} {value : Datum} {kind : ActionKind}
    (kindKnown : Vocabulary.ofAnyCase? kindText.content = some kind)
    (given : value ≠ .null) : create (.text kindText) value = ofKnown kind value := by
  have kindGiven : Datum.text kindText ≠ .null := nofun
  rw [create_of_given kindGiven given, readLabel_text kindKnown]
  rfl

/-- What is created has a kind that is known. -/
theorem exists_ofKnown_of_create {kind value : Datum} {action : Action}
    (created : create kind value = .ok action) :
    ∃ known, ofKnown known value = .ok action := by
  have kindGiven : kind ≠ .null := by
    rintro rfl
    cases created
  have valueGiven : value ≠ .null := by
    rintro rfl
    rw [create] at created
    · cases created
    · exact kindGiven
  rw [create_of_given kindGiven valueGiven] at created
  obtain ⟨known, _, made⟩ := Outcome.bind_eq_ok_iff.1 created
  exact ⟨known, made⟩

theorem unplaced_of_ofKnown {kind : ActionKind} {value : Datum} {fault : ConfigurationFault}
    (refused : ofKnown kind value = .error fault) : fault.Unplaced := by
  unfold ofKnown at refused
  split at refused
  · rcases Outcome.bind_eq_error_iff.1 refused with noAmount | ⟨amount, _, negative⟩
    · exact Datum.unplaced_of_toAmount noAmount
    · dsimp only at negative
      split at negative
      · cases negative
        simp [ConfigurationFault.Unplaced, ConfigurationFault.details]
      · cases negative
  · cases refused
    simp [ConfigurationFault.Unplaced, ConfigurationFault.details]

end Action

namespace Rule

/-- Parts that are handed in as themselves are read as themselves. -/
theorem readMembers_map {α : Type} {read? : Datum → Option α} {make : α → Datum}
    {expected : Datum → ConfigurationFault} (known : ∀ part, read? (make part) = some part)
    (parts : List α) : readMembers read? expected (parts.map make) = .ok parts := by
  rw [readMembers_eq_ok_iff, List.map_map]
  exact List.map_congr_left fun part _ => known part

/-- Reading stops at the first member that is not of the wanted kind. -/
theorem exists_of_readMembers_foreign {α : Type} {read? : Datum → Option α}
    (expected : Datum → ConfigurationFault) {members : List Datum}
    (foreign : ∃ member ∈ members, read? member = none) :
    ∃ found ∈ members, read? found = none ∧
      readMembers read? expected members = .error (expected found) := by
  induction members with
  | nil =>
      obtain ⟨_, member, _⟩ := foreign
      cases member
  | cons member rest ih =>
      rw [readMembers]
      cases known : read? member with
      | none => exact ⟨member, List.mem_cons_self, known, rfl⟩
      | some part =>
          have later : ∃ other ∈ rest, read? other = none := by
            obtain ⟨other, isMember, unknown⟩ := foreign
            rcases List.mem_cons.1 isMember with rfl | behind
            · rw [known] at unknown
              cases unknown
            · exact ⟨other, behind, unknown⟩
          obtain ⟨found, isMember, unknown, refused⟩ := ih later
          refine ⟨found, List.mem_cons_of_mem member isMember, unknown, ?_⟩
          dsimp only
          rw [refused]
          rfl

/-- Any conditions and actions make a rule. -/
theorem create_of_parts (conditions : List Condition) (actions : List Action) (name : Datum) :
    create (.list (conditions.map .condition)) (.list (actions.map .action)) name =
      .ok ⟨conditions, actions, name⟩ := by
  have gathered (members : List Datum) : collect (.list members) = .ok members := by
    cases members <;> rfl
  rw [create, gathered, gathered]
  dsimp only [bind, Except.bind]
  rw [readMembers_map, readMembers_map]
  · rfl
  · exact fun _ => rfl
  · exact fun _ => rfl

end Rule

end RetailPricing
