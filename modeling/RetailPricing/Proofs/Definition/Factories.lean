import RetailPricing.Proofs.Definition.OneByOne

/-!
# Definitions and factories build the same rules

A rule can be written as a definition, or its parts can be handed to the
factories one after the other.  Where a definition is in order as far as the
checks of its fields go (`Fields.WritesRule`), both ways come to the same: to
the same rule, with every operand in the form in which it was written, or to the
same fault, which the loader places in the definition.

The factories get kinds and operators in the form in which definitions compare
them, and operands as they are.
-/

namespace RetailPricing

namespace Datum

/-- A word in the form in which definitions compare it: in lower case and without
blanks around it. -/
def normalised : Datum → Datum
  | text t => ofString (String.ofList (Vocabulary.normalised t.content))
  | other => other

/-- The characters of a name. A label that is used as a name reads as its word. -/
def characters : Datum → Datum
  | text t => ofString t.content
  | other => other

/-- The fields of a mapping. -/
def fields : Datum → Fields
  | mapping entries => entries
  | _ => []

/-- A text that is a word of the vocabulary, apart from blanks and letter case. -/
def WritesWord (α : Type) [Vocabulary α] (given : Datum) : Prop :=
  ∃ (t : Text) (member : α),
    given = text t ∧ Vocabulary.ofNormalised? t.content = some member

theorem normalised_of_known {α : Type} [Vocabulary α] {t : Text} {member : α}
    (known : Vocabulary.ofNormalised? t.content = some member) :
    (text t).normalised = ofString (Vocabulary.word member) := by
  rw [normalised, Vocabulary.ofList_normalised known]

/-- A number of an action: a whole number, a float or a finite decimal. -/
inductive IsNumeric : Datum → Prop
  | int (n : Int) : IsNumeric (int n)
  | float (x : BinaryFloat) : IsNumeric (float x)
  | decimal (x : Amount) : IsNumeric (decimal (.finite x))

/-- An operand of a condition: a number or plain characters. -/
inductive IsOperand : Datum → Prop
  | numeric {given : Datum} (isNumeric : given.IsNumeric) : IsOperand given
  | text (characters : String) : IsOperand (ofString characters)

theorem IsNumeric.exists_numericOperand {given : Datum} (isNumeric : given.IsNumeric) :
    ∃ n, numericOperand? given = some n ∧ ofNumericOperand n = given := by
  cases isNumeric with
  | int n => exact ⟨.integer n, rfl, rfl⟩
  | float x => exact ⟨.float x, rfl, rfl⟩
  | decimal x => exact ⟨.decimal x, rfl, rfl⟩

/-- An operand is held in the form in which it is written. -/
theorem IsOperand.exists_operand {given : Datum} (isOperand : given.IsOperand) :
    ∃ operand, checkOperand given = .ok operand ∧ ofOperand operand = given := by
  cases isOperand with
  | numeric isNumeric =>
      obtain ⟨n, known, same⟩ := isNumeric.exists_numericOperand
      refine ⟨.numeric n, ?_, same⟩
      cases isNumeric <;> simp only [checkOperand, known]
  | text characters => exact ⟨.text characters, rfl, rfl⟩

end Datum

namespace Fields

/-- What stands in a field; nothing stands in a field that is not there. -/
def given (fields : Fields) (name : String) : Datum :=
  (Datum.lookup name fields).getD .null

/-- The mappings in a field that holds a list of them. -/
def listed (fields : Fields) (name : String) : List Fields :=
  match Datum.lookup name fields with
  | some (.list members) => members.map Datum.fields
  | _ => []

/-- A condition whose kind is a word, whose operator is one if there is any, and
whose value is an operand. -/
structure WritesCondition (fields : Fields) : Prop where
  kind : (fields.given "kind").WritesWord ConditionKind
  operator : ∀ given, Datum.lookup "operator" fields = some given → given.WritesWord Operator
  value : (fields.given "value").IsOperand

/-- An action whose kind is a word and whose value is a number. -/
structure WritesAction (fields : Fields) : Prop where
  kind : (fields.given "kind").WritesWord ActionKind
  value : (fields.given "value").IsNumeric

/-- What the factory makes of a condition. -/
def conditionByFactory (fields : Fields) : Except ConfigurationFault Condition :=
  Condition.create (fields.given "kind").normalised (fields.given "operator").normalised
    (fields.given "value")

/-- What the factory makes of an action. -/
def actionByFactory (fields : Fields) : Except ConfigurationFault Action :=
  Action.create (fields.given "kind").normalised (fields.given "value")

section Parts

variable {fields : Fields} {name : String} {found : Datum}

theorem lookup_of_given (stands : fields.given name = found) (something : found ≠ .null) :
    Datum.lookup name fields = some found := by
  rw [given] at stands
  cases looked : Datum.lookup name fields with
  | none =>
      rw [looked] at stands
      exact absurd stands.symm something
  | some other =>
      rw [looked] at stands
      exact congrArg some stands

theorem check_of_lookup {α : Type} {absent : Checked α} {checkValue : Datum → Checked α}
    {result : α} (stands : Datum.lookup name fields = some found)
    (passes : checkValue found = .ok result) :
    fields.check name absent checkValue = .ok result := by
  rw [check, stands]
  dsimp only
  rw [passes]
  rfl

theorem checkWord_of_known {α : Type} [Vocabulary α] {t : Text} {member : α}
    (known : Vocabulary.ofNormalised? t.content = some member) :
    checkWord α (.text t) = .ok member := by
  rw [checkWord, known]

/-- The check of a condition and the factory come to the same. -/
theorem WritesCondition.exists_checked (written : fields.WritesCondition) :
    ∃ d, ConditionDefinition.check (.mapping fields) = .ok d ∧
      d.build = fields.conditionByFactory := by
  obtain ⟨kindText, kind, kindGiven, kindKnown⟩ := written.kind
  obtain ⟨value, valuePasses, sameValue⟩ := written.value.exists_operand
  have valueStands : fields.given "value" ≠ .null := by
    rw [← sameValue]
    exact Datum.ofOperand_ne_null value
  have kindPasses : fields.checkRequired "kind" (checkWord ConditionKind) = .ok kind :=
    check_of_lookup (lookup_of_given kindGiven nofun) (checkWord_of_known kindKnown)
  have valuePasses : fields.checkRequired "value" checkOperand = .ok value :=
    check_of_lookup (lookup_of_given rfl valueStands) valuePasses
  obtain ⟨operator, operatorPasses, operatorRead⟩ :
      ∃ operator, fields.check "operator" (.ok .eq) (checkWord Operator) = .ok operator ∧
        Condition.readOperator (fields.given "operator").normalised = .ok operator := by
    cases looked : Datum.lookup "operator" fields with
    | none => exact ⟨.eq, by rw [check, looked], by rw [given, looked]; rfl⟩
    | some found =>
        obtain ⟨operatorText, operator, rfl, known⟩ := written.operator found looked
        refine ⟨operator, check_of_lookup looked (checkWord_of_known known), ?_⟩
        rw [given, looked, Option.getD_some, Datum.normalised_of_known known]
        exact readLabel_text (Operator.ofAnyCase?_word operator)
  refine ⟨⟨kind, operator, value⟩, ?_, ?_⟩
  · rw [ConditionDefinition.check, ConditionDefinition.ofFields]
    dsimp only
    rw [kindPasses, operatorPasses, valuePasses]
    rfl
  · rw [ConditionDefinition.build_eq_ofKnown, conditionByFactory, kindGiven,
      Datum.normalised_of_known kindKnown, sameValue]
    have wordKnown : Vocabulary.ofAnyCase? (Text.plain (Vocabulary.word kind)).content =
        some kind := ConditionKind.ofAnyCase?_word kind
    exact (Condition.create_eq_ofKnown wordKnown operatorRead valueStands).symm

theorem WritesAction.exists_checked (written : fields.WritesAction) :
    ∃ d, ActionDefinition.check (.mapping fields) = .ok d ∧
      d.build = fields.actionByFactory := by
  obtain ⟨kindText, kind, kindGiven, kindKnown⟩ := written.kind
  obtain ⟨value, known, sameValue⟩ := written.value.exists_numericOperand
  have valueStands : fields.given "value" ≠ .null := by
    rw [← sameValue]
    exact Datum.ofNumericOperand_ne_null value
  have kindPasses : fields.checkRequired "kind" (checkWord ActionKind) = .ok kind :=
    check_of_lookup (lookup_of_given kindGiven nofun) (checkWord_of_known kindKnown)
  have valuePasses : fields.checkRequired "value" checkNumericOperand = .ok value :=
    check_of_lookup (lookup_of_given rfl valueStands) (by rw [checkNumericOperand, known])
  refine ⟨⟨kind, value⟩, ?_, ?_⟩
  · rw [ActionDefinition.check, ActionDefinition.ofFields]
    dsimp only
    rw [kindPasses, valuePasses]
    rfl
  · rw [ActionDefinition.build_eq_ofKnown, actionByFactory, kindGiven,
      Datum.normalised_of_known kindKnown, sameValue]
    have wordKnown : Vocabulary.ofAnyCase? (Text.plain (Vocabulary.word kind)).content =
        some kind := ActionKind.ofAnyCase?_word kind
    exact (Action.create_eq_ofKnown wordKnown valueStands).symm

end Parts

/-- A rule whose name is a text, if it has one, and whose conditions and actions are
lists of such as above, if there are any. -/
structure WritesRule (fields : Fields) : Prop where
  name : ∀ given, Datum.lookup "name" fields = some given →
    given = .null ∨ ∃ t, given = .text t
  conditions : ∀ given, Datum.lookup "conditions" fields = some given →
    ∃ members : List Fields, given = .list (members.map .mapping) ∧
      ∀ member ∈ members, member.WritesCondition
  actions : ∀ given, Datum.lookup "actions" fields = some given →
    ∃ members : List Fields, given = .list (members.map .mapping) ∧
      ∀ member ∈ members, member.WritesAction

/-- The rule that the factories build from its parts: its conditions first, then
its actions, both in the order in which they are written, and then the rule. -/
def ruleByFactories (fields : Fields) : Except Fault PricingRule := do
  let conditions ← ((fields.listed "conditions").mapM conditionByFactory).mapError .configuration
  let actions ← ((fields.listed "actions").mapM actionByFactory).mapError .configuration
  Rule.create (.list (conditions.map .condition)) (.list (actions.map .action))
    (fields.given "name").characters

end Fields

namespace Checked

variable {α β : Type}

theorem both_eq_ok_iff {first : Checked α} {second : Checked β} {a : α} {b : β} :
    both first second = .ok (a, b) ↔ first = .ok a ∧ second = .ok b := by
  cases first <;> cases second <;> simp [both]

/-- A list passes when each of its members does. -/
theorem eachFrom_eq_ok_iff {check : Datum → Checked α} {position : Nat} {members : List Datum}
    {results : List α} :
    eachFrom check position members = .ok results ↔
      List.Forall₂ (fun member result => check member = .ok result) members results := by
  induction members generalizing position results with
  | nil =>
      constructor
      · rintro ⟨⟩
        exact .nil
      · rintro ⟨⟩
        rfl
  | cons member rest ih =>
      simp only [eachFrom, Outcome.map_eq_ok_iff, Prod.exists, both_eq_ok_iff, under,
        Outcome.mapError_eq_ok_iff, ih]
      constructor
      · rintro ⟨result, others, ⟨here, behind⟩, rfl⟩
        exact .cons here behind
      · rintro (_ | ⟨here, behind⟩)
        exact ⟨_, _, ⟨here, behind⟩, rfl⟩

end Checked

namespace Fields

/-- A list of mappings passes when each of them does, and is built as they are. -/
theorem exists_checkedMembers {D P : Type} {check : Datum → Checked D}
    {build : D → Except ConfigurationFault P} {factory : Fields → Except ConfigurationFault P}
    {members : List Fields}
    (all : ∀ member ∈ members, ∃ d, check (.mapping member) = .ok d ∧
      build d = factory member) :
    ∃ ds, RuleDefinition.checkMembers check (.list (members.map .mapping)) = .ok ds ∧
      ds.mapM build = members.mapM factory := by
  obtain ⟨ds, related⟩ := Outcome.exists_row all
  refine ⟨ds, ?_, Outcome.mapM_eq_of_forall₂ (related.imp fun _ _ both => both.2).flip⟩
  change Checked.eachFrom check 0 (members.map .mapping) = _
  rw [Checked.eachFrom_eq_ok_iff, List.forall₂_map_left_iff]
  exact related.imp fun _ _ both => both.1

theorem dropUnknownKinds_of_written {members : List Fields}
    (written : ∀ member ∈ members, member.WritesCondition) :
    (RuleDefinition.dropUnknownKinds (.list (members.map .mapping))).1 =
      .list (members.map .mapping) := by
  have known : ∀ member ∈ members.map Datum.mapping,
      (RuleDefinition.unknownKind? member).isNone = true := by
    intro member present
    obtain ⟨fields, fieldsMember, rfl⟩ := List.mem_map.1 present
    obtain ⟨t, kind, stands, kindKnown⟩ := (written fields fieldsMember).kind
    rw [RuleDefinition.unknownKind?, lookup_of_given stands nofun]
    dsimp only
    rw [kindKnown]
    rfl
  rw [RuleDefinition.dropUnknownKinds, List.filter_eq_self.2 known]

section Rules

variable {fields : Fields}

theorem listed_of_lookup {name : String} {members : List Fields}
    (stands : Datum.lookup name fields = some (.list (members.map .mapping))) :
    fields.listed name = members := by
  rw [listed, stands]
  exact (List.map_map ..).trans (List.map_id members)

theorem listed_of_absent {name : String} (absent : Datum.lookup name fields = none) :
    fields.listed name = [] := by
  rw [listed, absent]

theorem WritesRule.exists_checkedConditions (written : fields.WritesRule) :
    ∃ ds, (fields.check "conditions" (.ok []) fun given =>
        RuleDefinition.checkMembers ConditionDefinition.check
          (RuleDefinition.dropUnknownKinds given).1) = .ok ds ∧
      ds.mapM ConditionDefinition.build =
        (fields.listed "conditions").mapM conditionByFactory := by
  cases looked : Datum.lookup "conditions" fields with
  | none =>
      refine ⟨[], by rw [check, looked], ?_⟩
      rw [listed_of_absent looked]
      rfl
  | some found =>
      obtain ⟨members, rfl, all⟩ := written.conditions found looked
      obtain ⟨ds, pass, same⟩ :=
        exists_checkedMembers fun member present => (all member present).exists_checked
      rw [listed_of_lookup looked]
      refine ⟨ds, check_of_lookup looked ?_, same⟩
      rw [dropUnknownKinds_of_written all]
      exact pass

theorem WritesRule.exists_checkedActions (written : fields.WritesRule) :
    ∃ ds, fields.check "actions" (.ok [])
        (RuleDefinition.checkMembers ActionDefinition.check) = .ok ds ∧
      ds.mapM ActionDefinition.build = (fields.listed "actions").mapM actionByFactory := by
  cases looked : Datum.lookup "actions" fields with
  | none =>
      refine ⟨[], by rw [check, looked], ?_⟩
      rw [listed_of_absent looked]
      rfl
  | some found =>
      obtain ⟨members, rfl, all⟩ := written.actions found looked
      obtain ⟨ds, pass, same⟩ :=
        exists_checkedMembers fun member present => (all member present).exists_checked
      rw [listed_of_lookup looked]
      exact ⟨ds, check_of_lookup looked pass, same⟩

theorem WritesRule.exists_checkedName (written : fields.WritesRule) :
    ∃ name : Option String, fields.check "name" (.ok none) Checked.optionalText = .ok name ∧
      (match name with
        | some name => .ofString name
        | none => .null) = (fields.given "name").characters := by
  cases looked : Datum.lookup "name" fields with
  | none => exact ⟨none, by rw [check, looked], by rw [given, looked]; rfl⟩
  | some found =>
      have stands : fields.given "name" = found := by rw [given, looked]; rfl
      rw [stands]
      rcases written.name found looked with rfl | ⟨t, rfl⟩
      · exact ⟨none, check_of_lookup looked rfl, rfl⟩
      · exact ⟨some t.content, check_of_lookup looked rfl, rfl⟩

/-- A definition that is in order comes to what the factories come to. -/
theorem WritesRule.exists_built (written : fields.WritesRule) :
    ∃ built : Except ConfigurationFault PricingRule,
      fields.ruleByFactories = built.mapError .configuration ∧
        ∀ index, (loadRule index (.mapping fields)).outcome =
          built.mapError (.inDefinition index) := by
  obtain ⟨name, namePasses, sameName⟩ := written.exists_checkedName
  obtain ⟨conditions, conditionsPass, sameConditions⟩ := written.exists_checkedConditions
  obtain ⟨actions, actionsPass, sameActions⟩ := written.exists_checkedActions
  have checked : (RuleDefinition.check none (.mapping fields)).outcome =
      .ok ⟨name, conditions, actions⟩ := by
    rw [RuleDefinition.check, RuleDefinition.ofFields]
    dsimp only
    rw [namePasses, conditionsPass, actionsPass]
    rfl
  refine ⟨(⟨name, conditions, actions⟩ : RuleDefinition).build, ?_, fun index => ?_⟩
  · rw [ruleByFactories, RuleDefinition.build, sameConditions, sameActions, ← sameName]
    cases (fields.listed "conditions").mapM conditionByFactory with
    | error fault => rfl
    | ok conditions =>
        cases (fields.listed "actions").mapM actionByFactory with
        | error fault => rfl
        | ok actions => exact Rule.create_of_parts conditions actions _
  · rw [outcome_loadRule, checked]

end Rules

end Fields

section Definitions

variable {fields : Fields} {index : Nat}

theorem Fields.WritesRule.loadRule_eq_ok_iff (written : fields.WritesRule) {rule : PricingRule} :
    (loadRule index (.mapping fields)).outcome = .ok rule ↔
      fields.ruleByFactories = .ok rule := by
  obtain ⟨built, byFactories, byLoader⟩ := written.exists_built
  rw [byFactories, byLoader, Outcome.mapError_eq_ok_iff, Outcome.mapError_eq_ok_iff]

/-- The loader refuses with the fault of the factories, placed in the definition. -/
theorem Fields.WritesRule.loadRule_eq_error_iff (written : fields.WritesRule)
    {fault : ConfigurationFault} :
    (loadRule index (.mapping fields)).outcome = .error fault ↔
      ∃ reason, fields.ruleByFactories = .error (.configuration reason) ∧
        .inDefinition index reason = fault := by
  obtain ⟨built, byFactories, byLoader⟩ := written.exists_built
  rw [byFactories, byLoader, Outcome.mapError_eq_error_iff]
  simp only [Outcome.mapError_eq_error_iff, Fault.configuration.injEq, exists_eq_right]

theorem Fields.WritesRule.exists_reason (written : fields.WritesRule) {fault : Fault}
    (refused : fields.ruleByFactories = .error fault) :
    ∃ reason, fault = .configuration reason := by
  obtain ⟨built, byFactories, _⟩ := written.exists_built
  obtain ⟨reason, _, same⟩ := Outcome.mapError_eq_error_iff.1 (byFactories ▸ refused)
  exact ⟨reason, same.symm⟩

end Definitions

/-- Loading definitions that are in order comes to the same as handing their parts
to the factories, one definition after the other: to the same rules when the
factories make a rule of each definition, and otherwise to the first fault that a
factory reports, with the index of its definition behind the other details. -/
theorem definitions_build_what_factories_build (definitions : List Fields)
    (written : ∀ fields ∈ definitions, fields.WritesRule) :
    let loaded := (loadRules (.list (definitions.map .mapping))).outcome
    (∀ rules, loaded = .ok rules ↔
      List.Forall₂ (fun fields rule => fields.ruleByFactories = .ok rule) definitions rules) ∧
    ((∃ fault, loaded = .error fault) ↔
      ∃ fields ∈ definitions, ∃ fault, fields.ruleByFactories = .error fault) ∧
    ∀ fault, loaded = .error fault →
      ∃ index fields reason placed, definitions[index]? = some fields ∧
        (∀ earlier ∈ definitions.take index, ∃ rule, earlier.ruleByFactories = .ok rule) ∧
        fields.ruleByFactories = .error (.configuration reason) ∧
        fault = .configuration placed ∧ placed.message = reason.message ∧
        placed.details = reason.details ++ [("index", .int index)] ∧
        placed.cause? = reason.cause? := by
  intro loaded
  refine ⟨fun rules => ?_, ?_, fun fault refused => ?_⟩
  · simp only [loaded, outcome_loadRules_list, Outcome.mapError_eq_ok_iff,
      outcome_loadFrom_eq_ok_iff, List.forall₂_map_left_iff]
    exact Outcome.forall₂_congr_of_mem fun fields member _ =>
      (written fields member).loadRule_eq_ok_iff
  · simp only [loaded, outcome_loadRules_list, Outcome.mapError_eq_error_iff]
    constructor
    · rintro ⟨_, reason, stopped, _⟩
      obtain ⟨_, present, own, alone⟩ := refused_iff.1 ⟨reason, stopped⟩
      obtain ⟨fields, member, rfl⟩ := List.mem_map.1 present
      obtain ⟨reason, unbuilt, _⟩ := (written fields member).loadRule_eq_error_iff.1 alone
      exact ⟨fields, member, _, unbuilt⟩
    · rintro ⟨fields, member, fault, unbuilt⟩
      obtain ⟨reason, rfl⟩ := (written fields member).exists_reason unbuilt
      have alone : (loadRule 0 (.mapping fields)).outcome =
          .error (.inDefinition 0 reason) :=
        (written fields member).loadRule_eq_error_iff.2 ⟨reason, unbuilt, rfl⟩
      obtain ⟨reason, stopped⟩ := refused_iff.2 ⟨_, List.mem_map_of_mem member, _, alone⟩
      exact ⟨_, reason, stopped, rfl⟩
  · simp only [loaded, outcome_loadRules_list, Outcome.mapError_eq_error_iff] at refused
    obtain ⟨_, stopped, rfl⟩ := refused
    obtain ⟨index, _, own, found, before, alone, rfl⟩ := exists_first_refused stopped
    rw [List.getElem?_map, Option.map_eq_some_iff] at found
    obtain ⟨fields, found, rfl⟩ := found
    have member := List.mem_of_getElem? found
    obtain ⟨reason, unbuilt, rfl⟩ := (written fields member).loadRule_eq_error_iff.1 alone
    refine ⟨index, fields, reason, _, found, fun earlier present => ?_, unbuilt, rfl, ?_⟩
    · rw [← List.map_take] at before
      obtain ⟨rule, loaded⟩ := before _ (List.mem_map_of_mem present)
      exact ⟨rule, (written earlier (List.mem_of_mem_take present)).loadRule_eq_ok_iff.1 loaded⟩
    · rw [Nat.zero_add]
      exact ⟨rfl, rfl, rfl⟩

/-- A tenth off pens, with blanks and capitals in the kind and without an operator. -/
theorem cheaper_pens_either_way :
    let pens : Fields :=
      [("conditions", .list [.mapping [("kind", .ofString " Item_Code "),
          ("value", .ofString "PEN")]]),
        ("actions", .list [.mapping [("kind", .ofString "discount_percent"),
          ("value", .int 10)]])]
    let rule : PricingRule :=
      ⟨[⟨.itemCode, .eq, .text (.plain "PEN")⟩], [⟨.discountPercent, Amount.ofInt 10⟩], .null⟩
    (∀ fields ∈ [pens], fields.WritesRule) ∧
      (loadRules (.list [.mapping pens])).outcome = .ok [rule] := by
  intro pens rule
  have written : ∀ fields ∈ [pens], fields.WritesRule := by
    intro fields member
    obtain rfl := List.mem_singleton.1 member
    have condition : Fields.WritesCondition
        [("kind", .ofString " Item_Code "), ("value", .ofString "PEN")] :=
      ⟨⟨.plain " Item_Code ", .itemCode, rfl, by decide +kernel⟩, nofun, .text "PEN"⟩
    have action : Fields.WritesAction
        [("kind", .ofString "discount_percent"), ("value", .int 10)] :=
      ⟨⟨.plain "discount_percent", .discountPercent, rfl, by decide +kernel⟩, .int 10⟩
    refine ⟨nofun, ?_, ?_⟩
    · rintro _ ⟨⟩
      exact ⟨[_], rfl, List.forall_mem_singleton.2 condition⟩
    · rintro _ ⟨⟩
      exact ⟨[_], rfl, List.forall_mem_singleton.2 action⟩
  exact ⟨written, ((definitions_build_what_factories_build [pens] written).1 [rule]).2
    (.cons rfl .nil)⟩

end RetailPricing
