import RetailPricing.Proofs.Definition.Factories

/-!
# Conditions of unknown kinds

A condition whose kind is a text, but the word of no kind, is taken out of its list
before anything else is checked.  So a list of definitions is loaded as if these
conditions had never been written in it (`Datum.trimmed`): to the same rules or to
the same fault, whatever else was wrong with them, and with positions that do not
count them.

They are not passed over in silence.  Loading warns of each of them, definition by
definition and in the order in which they are written, up to the definition that is
refused, if there is one.
-/

namespace RetailPricing

namespace Vocabulary

variable {α : Type} [Vocabulary α]

/-- Definitions know a text when its normalised form is one of the words. -/
theorem isNone_ofNormalised? (text : String) :
    (ofNormalised? text : Option α).isNone =
      !(words α).contains (String.ofList (normalised text)) := by
  rw [Bool.eq_iff_iff, Option.isNone_iff_eq_none, ofNormalised?, ofWord?, List.find?_eq_none]
  simp [words, String.ext_iff]

end Vocabulary

namespace Datum

/-- The kind of a mapping, if it is a text. -/
def kindWritten? : Datum → Option Text
  | mapping fields =>
      match lookup "kind" fields with
      | some (text t) => some t
      | _ => none
  | _ => none

/-- A text that is the word of no kind, apart from blanks and letter case. -/
def isUnknownKind (t : Text) : Bool :=
  !(Vocabulary.words ConditionKind).contains
    (String.ofList (Vocabulary.normalised t.content))

/-- A mapping whose kind is a text and the word of no kind. -/
def isOfUnknownKind (entry : Datum) : Bool :=
  entry.kindWritten?.any isUnknownKind

/-- A list without its conditions of unknown kinds. -/
def withoutUnknownKinds : Datum → Datum
  | list members => list (members.filter fun member => !member.isOfUnknownKind)
  | other => other

/-- A field of a definition as if its conditions of unknown kinds had never been
written. -/
def trimField (name : String) (value : Datum) : Datum :=
  if name = "conditions" then value.withoutUnknownKinds else value

/-- A definition as if its conditions of unknown kinds had never been written. -/
def trimmed : Datum → Datum
  | mapping fields => mapping (fields.map fun field => (field.1, trimField field.1 field.2))
  | other => other

theorem unknownKind?_eq (entry : Datum) :
    RuleDefinition.unknownKind? entry = entry.kindWritten?.filter isUnknownKind := by
  have known (t : Text) :
      isUnknownKind t = (Vocabulary.ofNormalised? t.content : Option ConditionKind).isNone :=
    (Vocabulary.isNone_ofNormalised? t.content).symm
  cases entry with
  | mapping fields =>
      rw [RuleDefinition.unknownKind?, kindWritten?]
      cases lookup "kind" fields with
      | none => rfl
      | some given =>
          cases given with
          | text t =>
              dsimp only
              rw [Option.filter_some, known]
              cases (Vocabulary.ofNormalised? t.content : Option ConditionKind) <;> rfl
          | _ => rfl
  | _ => rfl

theorem isNone_unknownKind? (entry : Datum) :
    (RuleDefinition.unknownKind? entry).isNone = !entry.isOfUnknownKind := by
  rw [unknownKind?_eq, isOfUnknownKind]
  cases entry.kindWritten? with
  | none => rfl
  | some kind =>
      rw [Option.filter_some, Option.any_some]
      cases isUnknownKind kind <;> rfl

theorem dropUnknownKinds_fst (given : Datum) :
    (RuleDefinition.dropUnknownKinds given).1 = given.withoutUnknownKinds := by
  cases given with
  | list members => simp only [RuleDefinition.dropUnknownKinds, withoutUnknownKinds,
      isNone_unknownKind?]
  | _ => rfl

/-- Nothing is left to be taken out a second time. -/
theorem withoutUnknownKinds_idem (given : Datum) :
    given.withoutUnknownKinds.withoutUnknownKinds = given.withoutUnknownKinds := by
  cases given with
  | list members => simp only [withoutUnknownKinds, List.filter_filter, Bool.and_self]
  | _ => rfl

/-- Fields that are changed one by one are found where they were. -/
theorem lookup_mapFields (key : String) (change : String → Datum → Datum)
    (fields : List (String × Datum)) :
    lookup key (fields.map fun field => (field.1, change field.1 field.2)) =
      (lookup key fields).map (change key) := by
  induction fields with
  | nil => rfl
  | cons field rest ih =>
      by_cases same : field.1 = key
      · simp [lookup, same]
      · simpa [lookup, same] using ih

end Datum

/-! ## The same outcome -/

/-- A field that is read the same way before and after a change of the fields. -/
theorem Fields.check_mapFields {α : Type} (fields : Fields) {name : String}
    (absent : Checked α) {checkValue : Datum → Checked α} {change : String → Datum → Datum}
    (same : ∀ given, checkValue (change name given) = checkValue given) :
    Fields.check (fields.map fun field => (field.1, change field.1 field.2)) name absent
        checkValue =
      fields.check name absent checkValue := by
  rw [Fields.check, Fields.check, Datum.lookup_mapFields]
  cases Datum.lookup name fields with
  | none => rfl
  | some given => rw [Option.map_some]; dsimp only; rw [same]

theorem outcome_check_trimmed (given : Datum) :
    (RuleDefinition.check none given.trimmed).outcome =
      (RuleDefinition.check none given).outcome := by
  cases given with
  | mapping fields =>
      have elsewhere {name : String} (different : name ≠ "conditions") (value : Datum) :
          Datum.trimField name value = value :=
        if_neg different
      rw [Datum.trimmed, RuleDefinition.check, RuleDefinition.check, RuleDefinition.ofFields,
        RuleDefinition.ofFields]
      dsimp only
      rw [Fields.check_mapFields fields _ fun value => by rw [elsewhere (by decide)],
        Fields.check_mapFields fields _ fun value => by
          rw [Datum.dropUnknownKinds_fst, Datum.dropUnknownKinds_fst, Datum.trimField,
            if_pos rfl, Datum.withoutUnknownKinds_idem],
        Fields.check_mapFields fields _ fun value => by rw [elsewhere (by decide)]]
  | _ => rfl

theorem outcome_loadRule_trimmed (index : Nat) (given : Datum) :
    (loadRule index given.trimmed).outcome = (loadRule index given).outcome := by
  rw [outcome_loadRule, outcome_loadRule, outcome_check_trimmed]

theorem outcome_loadFrom_trimmed (index : Nat) (definitions : List Datum) :
    (loadFrom index (definitions.map Datum.trimmed)).outcome =
      (loadFrom index definitions).outcome := by
  induction definitions generalizing index with
  | nil => rfl
  | cons definition rest ih =>
      rw [List.map_cons, loadFrom, loadFrom]
      simp only [Reported.outcome_bind, outcome_loadRule_trimmed, ih]

theorem outcome_loadRules_trimmed (definitions : List Datum) :
    (loadRules (.list (definitions.map Datum.trimmed))).outcome =
      (loadRules (.list definitions)).outcome := by
  rw [outcome_loadRules_list, outcome_loadRules_list, outcome_loadFrom_trimmed]

/-! ## The warnings -/

namespace Datum

/-- The kinds of the conditions that trimming takes out, in the order in which they
are written. -/
def trimmedKinds : Datum → List Text
  | mapping fields =>
      match lookup "conditions" fields with
      | some (list members) => (members.filter isOfUnknownKind).filterMap kindWritten?
      | _ => []
  | _ => []

/-- The name that is written in a definition, if it is a text. -/
def nameWritten? : Datum → Option String
  | mapping fields =>
      match lookup "name" fields with
      | some (text t) => some t.content
      | _ => none
  | _ => none

/-- One warning for each condition that trimming takes out of a definition. -/
def warnings (index : Nat) (definition : Datum) : Journal :=
  definition.trimmedKinds.map fun kind =>
    .notice none (.unknownKindSkipped (some index) definition.nameWritten? kind)

/-- The warnings about definitions of which the first one has the given index. -/
def warningsFrom (index : Nat) (definitions : List Datum) : Journal :=
  (definitions.zipIdx index).flatMap fun entry => entry.1.warnings entry.2

theorem warningsFrom_cons (index : Nat) (definition : Datum) (rest : List Datum) :
    warningsFrom index (definition :: rest) =
      definition.warnings index ++ warningsFrom (index + 1) rest := by
  rw [warningsFrom, List.zipIdx_cons, List.flatMap_cons, ← warningsFrom]

theorem filterMap_unknownKind? (members : List Datum) :
    members.filterMap RuleDefinition.unknownKind? =
      (members.filter isOfUnknownKind).filterMap kindWritten? := by
  induction members with
  | nil => rfl
  | cons member rest ih =>
      rw [List.filterMap_cons, List.filter_cons, ih, unknownKind?_eq, isOfUnknownKind]
      cases written : member.kindWritten? with
      | none => rfl
      | some kind =>
          rw [Option.filter_some, Option.any_some]
          cases isUnknownKind kind with
          | false => rfl
          | true => rw [if_pos rfl, if_pos rfl, List.filterMap_cons, written]

theorem dropUnknownKinds_snd (given : Datum) :
    (RuleDefinition.dropUnknownKinds given).2 =
      match given with
      | list members => (members.filter isOfUnknownKind).filterMap kindWritten?
      | _ => [] := by
  cases given with
  | list members => exact filterMap_unknownKind? members
  | _ => rfl

/-- A warning names the rule as far as its name is a text. -/
theorem nameWritten?_mapping (fields : List (String × Datum)) :
    ((Fields.check fields "name" (.ok none) Checked.optionalText).toOption.bind id) =
      (mapping fields).nameWritten? := by
  rw [Fields.check, nameWritten?]
  cases lookup "name" fields with
  | none => rfl
  | some given => cases given <;> rfl

end Datum

theorem journal_check (index : Nat) (given : Datum) :
    (RuleDefinition.check (some index) given).journal = given.warnings index := by
  cases given with
  | mapping fields =>
      change RuleDefinition.skippedNotices (some index) _ _ = _
      rw [RuleDefinition.skippedNotices, Datum.nameWritten?_mapping, Datum.warnings,
        Datum.trimmedKinds]
      cases Datum.lookup "conditions" fields with
      | none => rfl
      | some conditions =>
          dsimp only
          rw [Datum.dropUnknownKinds_snd]
          cases conditions <;> rfl
  | _ => rfl

/-- Loading a definition warns of what is trimmed, whatever becomes of it. -/
theorem journal_loadRule (index : Nat) (given : Datum) :
    (loadRule index given).journal = given.warnings index := by
  rw [← journal_check, loadRule]
  cases RuleDefinition.check (some index) given with
  | mk journal outcome =>
      cases outcome with
      | ok checked => exact List.append_nil journal
      | error violations => rfl

theorem journal_loadFrom_of_ok {index : Nat} {definitions : List Datum}
    {rules : List PricingRule} (loaded : (loadFrom index definitions).outcome = .ok rules) :
    (loadFrom index definitions).journal = Datum.warningsFrom index definitions := by
  induction definitions generalizing index rules with
  | nil => rfl
  | cons definition rest ih =>
      rw [loadFrom] at loaded ⊢
      obtain ⟨rule, here, later⟩ := Reported.outcome_bind_eq_ok_iff.1 loaded
      obtain ⟨others, behind, _⟩ := Reported.outcome_bind_eq_ok_iff.1 later
      rw [Reported.bind_of_ok here, Reported.bind_of_ok behind, ih behind, journal_loadRule,
        Datum.warningsFrom_cons]
      exact congrArg _ (List.append_nil _)

/-- Loading that is refused has warned of everything up to the definition that is to
blame, which is among them. -/
theorem exists_place_of_refused {index : Nat} {definitions : List Datum}
    {fault : ConfigurationFault}
    (refused : (loadFrom index definitions).outcome = .error fault) :
    ∃ place, place < definitions.length ∧ fault.PlacedAt (index + place) ∧
      (loadFrom index definitions).journal =
        Datum.warningsFrom index (definitions.take (place + 1)) := by
  induction definitions generalizing index with
  | nil => cases refused
  | cons definition rest ih =>
      rw [loadFrom] at refused ⊢
      rcases Reported.outcome_bind_eq_error_iff.1 refused with here | ⟨rule, here, later⟩
      · refine ⟨0, Nat.succ_pos _, placedAt_of_loadRule here, ?_⟩
        rw [Reported.bind_of_error here, journal_loadRule, List.take_succ_cons, List.take_zero,
          Datum.warningsFrom_cons]
        exact (List.append_nil _).symm
      · rcases Reported.outcome_bind_eq_error_iff.1 later with behind | ⟨_, _, ended⟩
        · obtain ⟨place, inside, placed, warned⟩ := ih behind
          refine ⟨place + 1, Nat.succ_lt_succ inside, ?_, ?_⟩
          · rw [Nat.add_comm place, ← Nat.add_assoc]
            exact placed
          · rw [Reported.bind_of_ok here, Reported.bind_of_error behind, warned,
              journal_loadRule, List.take_succ_cons, Datum.warningsFrom_cons]
        · cases ended

/-- Loading says how many rules there are, if it comes to its end, and nothing else
besides its warnings. -/
theorem journal_loadRules_list (definitions : List Datum) :
    (loadRules (.list definitions)).journal =
      (loadFrom 0 definitions).journal ++
        match (loadFrom 0 definitions).outcome with
        | .ok rules => [.notice none (.rulesLoaded rules.length)]
        | .error _ => [] := by
  change ((loadFrom 0 definitions).mapFault Fault.configuration >>= _).journal = _
  cases loadFrom 0 definitions with
  | mk journal outcome =>
      cases outcome with
      | ok rules => rfl
      | error fault => exact (List.append_nil journal).symm

/-- A definition of which trimming leaves no condition. -/
def Fields.IsEmptied (fields : Fields) : Prop :=
  ∃ members, Datum.lookup "conditions" fields = some (.list members) ∧
    ∀ member ∈ members, member.isOfUnknownKind = true

theorem Fields.IsEmptied.conditions_eq_nil {fields : Fields} {d : RuleDefinition}
    (emptied : fields.IsEmptied)
    (checked : (RuleDefinition.check none (.mapping fields)).outcome = .ok d) :
    d.conditions = [] := by
  obtain ⟨members, stands, unknown⟩ := emptied
  have nothingLeft : (Datum.list members).withoutUnknownKinds = .list [] := by
    have all : members.filter (fun member => !member.isOfUnknownKind) = [] :=
      List.filter_eq_nil_iff.2 fun member isMember => by simp [unknown member isMember]
    rw [Datum.withoutUnknownKinds, all]
  have empty : (fields.check "conditions" (.ok []) fun given =>
      RuleDefinition.checkMembers ConditionDefinition.check
        (RuleDefinition.dropUnknownKinds given).1) = .ok [] :=
    Fields.check_of_lookup stands (by rw [Datum.dropUnknownKinds_fst, nothingLeft]; rfl)
  obtain ⟨⟨name, conditions, actions⟩, parts, rfl⟩ := Outcome.map_eq_ok_iff.1 checked
  obtain ⟨_, others⟩ := Checked.both_eq_ok_iff.1 parts
  obtain ⟨found, _⟩ := Checked.both_eq_ok_iff.1 others
  rw [empty] at found
  exact (Except.ok.inj found).symm

theorem Fields.IsEmptied.conditions_of_loadRule {fields : Fields} {index : Nat}
    {rule : PricingRule} (emptied : fields.IsEmptied)
    (loaded : (loadRule index (.mapping fields)).outcome = .ok rule) :
    rule.conditions = [] := by
  rw [outcome_loadRule] at loaded
  split at loaded
  next d checked =>
      have built := Outcome.mapError_eq_ok_iff.1 loaded
      obtain ⟨conditions, made, later⟩ := Outcome.bind_eq_ok_iff.1 built
      obtain ⟨actions, _, ended⟩ := Outcome.bind_eq_ok_iff.1 later
      rw [emptied.conditions_eq_nil checked] at made
      cases made
      cases ended
      rfl
  next violations _ => cases loaded

theorem Rule.selectPositions_of_no_conditions {rule : PricingRule}
    (none : rule.conditions = []) (cart : Cart) : rule.selectPositions cart = .done [] :=
  selectPositions_of_noop (by rw [isNoop, none]; rfl) cart

/-- Conditions of unknown kinds are as if they had never been written: a list of
definitions is loaded to the same rules, or to the same fault, as the list without
them.  Loading warns of each of them exactly once and in order, with the index and
the name of its definition and with its kind as it is written, up to the definition
that is refused, if there is one.  A rule that is left without conditions in this way
selects nothing in any cart. -/
theorem unknown_kinds_are_as_if_never_written (definitions : List Datum) :
    let loading := loadRules (.list definitions)
    loading.outcome = (loadRules (.list (definitions.map Datum.trimmed))).outcome ∧
    (∀ rules, loading.outcome = .ok rules →
      loading.journal =
        Datum.warningsFrom 0 definitions ++ [.notice none (.rulesLoaded rules.length)]) ∧
    (∀ fault, loading.outcome = .error fault →
      ∃ reason, ∃ index < definitions.length, fault = .configuration reason ∧
        Datum.lookup "index" reason.details = some (.int index) ∧
        loading.journal = Datum.warningsFrom 0 (definitions.take (index + 1))) ∧
    ∀ rules, loading.outcome = .ok rules →
      ∀ (index : Nat) (fields : Fields) (rule : PricingRule),
        definitions[index]? = some (.mapping fields) → rules[index]? = some rule →
        fields.IsEmptied →
        rule.conditions = [] ∧ ∀ cart, rule.selectPositions cart = .done [] := by
  intro loading
  have runs : loading.outcome = (loadFrom 0 definitions).outcome.mapError .configuration :=
    outcome_loadRules_list definitions
  refine ⟨(outcome_loadRules_trimmed definitions).symm, fun rules loaded => ?_,
    fun fault refused => ?_, fun rules loaded index fields rule written found emptied => ?_⟩
  · have ended := Outcome.mapError_eq_ok_iff.1 (runs.symm.trans loaded)
    rw [journal_loadRules_list, ended, journal_loadFrom_of_ok ended]
  · obtain ⟨reason, stopped, rfl⟩ := Outcome.mapError_eq_error_iff.1 (runs.symm.trans refused)
    obtain ⟨place, inside, placed, warned⟩ := exists_place_of_refused stopped
    rw [Nat.zero_add] at placed
    refine ⟨reason, place, inside, rfl, placed.lookup_index, ?_⟩
    rw [journal_loadRules_list, stopped, warned]
    exact List.append_nil _
  · have ended := Outcome.mapError_eq_ok_iff.1 (runs.symm.trans loaded)
    obtain ⟨inside, isWritten⟩ := List.getElem?_eq_some_iff.1 written
    obtain ⟨insideRules, isFound⟩ := List.getElem?_eq_some_iff.1 found
    have alone := (outcome_loadFrom_eq_ok_iff.1 ended).get inside insideRules
    rw [List.get_eq_getElem, List.get_eq_getElem, isWritten, isFound] at alone
    have empty := emptied.conditions_of_loadRule alone
    exact ⟨empty, Rule.selectPositions_of_no_conditions empty⟩

end RetailPricing
