import RetailPricing.Proofs.Engine.ScanOrder
import RetailPricing.Proofs.Rule.Factory

/-!
# When a rule cannot be evaluated

Codes are texts and have no order, and numbers of entries are whole numbers.  A
condition that asks for anything else is ill typed, but a rule with such a condition
fails only on carts for which the condition is asked.  Conditions of a kind are asked
in the order of their declaration, of what those in front of them have left, so the
first ill-typed one is asked about a fact when the fact meets all in front of it
(`comesToIllTyped`).  `fails_exactly_when` puts the kinds together.

Group conditions cannot fail.  They divide by the sizes that the journal names
(`Journal.groupSizes`), and the factory lets no size pass that is not positive.
-/

namespace RetailPricing

namespace Condition

/-- The condition has no answer for the facts of its kind. -/
def isIllTyped (condition : Condition) : Bool :=
  match condition.kind, condition.value with
  | .itemCode, .text _ => condition.operator.isOrdering
  | .itemCode, _ => true
  | .quantityTotal, .integer _ => false
  | .quantityTotal, _ => true
  | .xQuantity, _ => false

/-- There is an ill-typed condition, and the fact meets all conditions in front of
the first one. -/
def comesToIllTyped (conditions : List Condition) (fact : Value) : Bool :=
  conditions.any isIllTyped &&
    (conditions.takeWhile fun condition => !condition.isIllTyped).all fun condition =>
      condition.meets fact

theorem comesToIllTyped_cons (condition : Condition) (rest : List Condition) (fact : Value) :
    comesToIllTyped (condition :: rest) fact =
      (condition.isIllTyped || condition.meets fact && comesToIllTyped rest fact) := by
  cases illTyped : condition.isIllTyped with
  | true => simp [comesToIllTyped, illTyped]
  | false => simp [comesToIllTyped, illTyped, Bool.and_left_comm]

/-- Nothing comes to an ill-typed condition where there is none. -/
theorem comesToIllTyped_of_wellTyped {conditions : List Condition}
    (wellTyped : ∀ condition ∈ conditions, condition.isIllTyped = false) (fact : Value) :
    comesToIllTyped conditions fact = false := by
  have none : conditions.any isIllTyped = false :=
    List.any_eq_false.2 fun condition member => Bool.eq_false_iff.1 (wellTyped condition member)
  rw [comesToIllTyped, none, Bool.false_and]

/-- What a condition of this kind is asked about: a code, or a number of entries. -/
def AsksAbout : ConditionKind → Value → Prop
  | .itemCode, .text _ => True
  | .quantityTotal, .integer _ => True
  | _, _ => False

section Answers

variable {condition : Condition} {fact : Value}

theorem exists_evaluate_eq_ok_iff (asked : AsksAbout condition.kind fact) :
    (∃ answer, condition.evaluate fact = .ok answer) ↔ condition.isIllTyped = false := by
  obtain ⟨kind, operator, value⟩ := condition
  cases kind with
  | itemCode =>
      cases fact with
      | text t =>
          cases value <;> cases operator <;>
            simp [evaluate, Value.compare, isIllTyped, Operator.isOrdering]
      | integer n | decimal d => cases asked
  | quantityTotal =>
      cases fact with
      | integer n => cases value <;> simp [evaluate, Value.compare, isIllTyped]
      | text t | decimal d => cases asked
  | xQuantity => cases asked

theorem evaluate_of_wellTyped (asked : AsksAbout condition.kind fact)
    (wellTyped : condition.isIllTyped = false) :
    condition.evaluate fact = .ok (condition.meets fact) := by
  obtain ⟨answer, evaluated⟩ := (exists_evaluate_eq_ok_iff asked).2 wellTyped
  cases answer <;> simp [meets, evaluated]

theorem exists_evaluate_eq_error (asked : AsksAbout condition.kind fact)
    (illTyped : condition.isIllTyped = true) :
    ∃ interruption, condition.evaluate fact = .error interruption := by
  cases evaluated : condition.evaluate fact with
  | error interruption => exact ⟨interruption, rfl⟩
  | ok answer =>
      have wellTyped := (exists_evaluate_eq_ok_iff asked).1 ⟨answer, evaluated⟩
      rw [illTyped] at wellTyped
      cases wellTyped

theorem isIllTyped_eq_false_of_meets (asked : AsksAbout condition.kind fact)
    (meets : condition.meets fact = true) : condition.isIllTyped = false :=
  (exists_evaluate_eq_ok_iff asked).1 ⟨true, of_decide_eq_true meets⟩

end Answers

end Condition

namespace Rule

section Stages

variable {Entry : Type} (codeOf : Entry → Text) (label : Datum) {conditions : List Condition}
  (entries : List Entry)

/-- Filtering by codes is stopped by an entry that meets all conditions in front of
an ill-typed one. -/
theorem exists_narrowByCode_eq_error_iff
    (codes : ∀ condition ∈ conditions, condition.kind = .itemCode) :
    (∃ interruption,
        (narrowByCode codeOf label conditions entries).outcome = .error interruption) ↔
      ∃ entry ∈ entries, Condition.comesToIllTyped conditions (.text (codeOf entry)) = true := by
  induction conditions generalizing entries with
  | nil => simp [narrowByCode, Condition.comesToIllTyped, Reported.done]
  | cons condition rest ih =>
      obtain ⟨code, restCodes⟩ := List.forall_mem_cons.1 codes
      have asked (t : Text) : Condition.AsksAbout condition.kind (.text t) := by
        rw [code]
        trivial
      -- What is left by the first condition goes through the others.
      have step {kept : List Entry} (filtered : meetingCode codeOf condition entries = .ok kept) :
          (narrowByCode codeOf label (condition :: rest) entries).outcome =
            (narrowByCode codeOf label rest kept).outcome := by
        rw [narrowByCode, filtered, Reported.lift_ok_bind, Reported.bind_of_ok rfl]
      simp only [Condition.comesToIllTyped_cons, Bool.or_eq_true, Bool.and_eq_true]
      cases illTyped : condition.isIllTyped with
      | false =>
          have answers (t : Text) : ∃ meets, condition.evaluate (.text t) = .ok meets :=
            ⟨_, Condition.evaluate_of_wellTyped (asked t) illTyped⟩
          have answered : ∃ kept, meetingCode codeOf condition entries = .ok kept :=
            exists_meetingCode_eq_ok answers entries
          obtain ⟨kept, filtered⟩ := answered
          rw [step filtered, ih kept restCodes, meetingCode_eq_ok filtered]
          simp [and_assoc]
      | true =>
          cases entries with
          | nil =>
              have empty : meetingCode codeOf condition [] = .ok [] := rfl
              rw [step empty, ih [] restCodes]
              simp
          | cons entry others =>
              obtain ⟨interruption, stopped⟩ :=
                Condition.exists_evaluate_eq_error (asked (codeOf entry)) illTyped
              have stops : (narrowByCode codeOf label (condition :: rest)
                  (entry :: others)).outcome = .error interruption := by
                rw [narrowByCode, meetingCode, stopped]
                rfl
              exact ⟨fun _ => ⟨entry, List.mem_cons_self, .inl rfl⟩, fun _ => ⟨_, stops⟩⟩

theorem gateByQuantity_nil (label : Datum) (conditions : List Condition) :
    gateByQuantity label conditions ([] : List Entry) = .done [] := by
  cases conditions <;> rfl

/-- The gates are stopped when the number of entries meets all conditions in front of
an ill-typed one. -/
theorem exists_gateByQuantity_eq_error_iff
    (totals : ∀ condition ∈ conditions, condition.kind = .quantityTotal) :
    (∃ interruption, (gateByQuantity label conditions entries).outcome = .error interruption) ↔
      0 < entries.length ∧
        Condition.comesToIllTyped conditions (.integer entries.length) = true := by
  induction conditions with
  | nil => simp [gateByQuantity, Condition.comesToIllTyped, Reported.done]
  | cons condition rest ih =>
      obtain ⟨total, restTotals⟩ := List.forall_mem_cons.1 totals
      have asked : Condition.AsksAbout condition.kind (.integer entries.length) := by
        rw [total]
        trivial
      by_cases empty : entries = []
      · simp [empty, gateByQuantity_nil, Reported.done]
      · have some : entries.isEmpty = false := List.isEmpty_eq_false_iff.2 empty
        rw [gateByQuantity, some, if_neg Bool.false_ne_true, Condition.comesToIllTyped_cons]
        cases illTyped : condition.isIllTyped with
        | true =>
            obtain ⟨interruption, stopped⟩ := Condition.exists_evaluate_eq_error asked illTyped
            rw [stopped, Reported.lift_error_bind]
            simp [List.length_pos_of_ne_nil empty, Reported.lift]
        | false =>
            rw [Condition.evaluate_of_wellTyped asked illTyped, Reported.lift_ok_bind]
            cases condition.meets (.integer entries.length) with
            | true => simpa using ih restTotals
            | false => simp [gateByQuantity_nil, Reported.bind_of_ok, Reported.note, Reported.done]

end Stages

theorem kind_of_mem_conditionsOf {rule : PricingRule} {kind : ConditionKind}
    {condition : Condition} (member : condition ∈ rule.conditionsOf kind) :
    condition.kind = kind :=
  of_decide_eq_true (List.mem_filter.1 member).2

theorem isIllTyped_eq_false_of_admits {rule : PricingRule} {code : Text}
    (admitted : rule.admits code = true) {condition : Condition}
    (member : condition ∈ rule.conditionsOf .itemCode) : condition.isIllTyped = false := by
  have asked : Condition.AsksAbout condition.kind (.text code) := by
    rw [kind_of_mem_conditionsOf member]
    trivial
  exact Condition.isIllTyped_eq_false_of_meets asked (List.all_eq_true.1 admitted _ member)

/-- What stops a selection are the codes of the entries, or the number of those whose
codes are admitted. -/
theorem exists_select_eq_error_iff {Entry : Type} (codeOf : Entry → Text) {rule : PricingRule}
    (acts : rule.isNoop = false) (entries : List Entry) :
    let admitted := entries.filter fun entry => rule.admits (codeOf entry)
    (∃ interruption, (rule.select codeOf entries).outcome = .error interruption) ↔
      (∃ entry ∈ entries,
        Condition.comesToIllTyped (rule.conditionsOf .itemCode) (.text (codeOf entry)) = true) ∨
      (∀ condition ∈ rule.conditionsOf .itemCode, condition.isIllTyped = false) ∧
        0 < admitted.length ∧
        Condition.comesToIllTyped (rule.conditionsOf .quantityTotal) (.integer admitted.length) =
          true := by
  intro admitted
  rw [select, acts, if_neg Bool.false_ne_true]
  have codes : ∀ condition ∈ rule.conditionsOf .itemCode, condition.kind = .itemCode :=
    fun condition => kind_of_mem_conditionsOf
  have totals : ∀ condition ∈ rule.conditionsOf .quantityTotal, condition.kind = .quantityTotal :=
    fun condition => kind_of_mem_conditionsOf
  have stoppedByCode := exists_narrowByCode_eq_error_iff codeOf rule.label entries codes
  cases narrowed : (narrowByCode codeOf rule.label (rule.conditionsOf .itemCode)
      entries).outcome with
  | error interruption =>
      rw [Reported.bind_of_error narrowed]
      exact ⟨fun _ => .inl (stoppedByCode.1 ⟨interruption, narrowed⟩), fun _ => ⟨_, rfl⟩⟩
  | ok kept =>
      have asked : ¬ ∃ entry ∈ entries,
          Condition.comesToIllTyped (rule.conditionsOf .itemCode) (.text (codeOf entry)) =
            true := by
        rw [← stoppedByCode, narrowed]
        rintro ⟨_, ⟨⟩⟩
      have wellTyped (some : 0 < admitted.length) :
          ∀ condition ∈ rule.conditionsOf .itemCode, condition.isIllTyped = false := by
        obtain ⟨entry, member⟩ := List.exists_mem_of_length_pos some
        exact fun condition => isIllTyped_eq_false_of_admits (List.mem_filter.1 member).2
      have left : kept = admitted := narrowByCode_eq_ok narrowed
      rw [or_iff_right asked, and_iff_right_of_imp fun passed => wellTyped passed.1,
        Reported.bind_of_ok narrowed, left,
        ← exists_gateByQuantity_eq_error_iff rule.label admitted totals]
      refine exists_congr fun interruption => ?_
      dsimp only
      rw [Reported.outcome_bind_eq_error_iff]
      refine or_iff_left ?_
      rintro ⟨gated, _, grouped⟩
      rw [outcome_narrowByGroups] at grouped
      cases grouped

end Rule

namespace Journal

/-- The group sizes by which numbers of entries were divided, in order. -/
def groupSizes (journal : Journal) : List Nat :=
  journal.filterMap fun
    | .notice _ (.noCompleteGroup _ size _) => some size
    | .notice _ (.groupsEvaluated _ size _ _) => some size
    | _ => none

theorem groupSizes_append (first second : Journal) :
    groupSizes (first ++ second) = groupSizes first ++ groupSizes second :=
  List.filterMap_append

end Journal

namespace Rule

section Sizes

variable {Entry : Type} (codeOf : Entry → Text) (label : Datum) (conditions : List Condition)
  (entries : List Entry)

/-- Before something that divides by some sizes nothing else is divided by. -/
theorem groupSizes_bind_inFront {α β : Type} {first : Reported Interruption α}
    {next : α → Reported Interruption β} {sizes : List Nat}
    (undivided : first.journal.groupSizes = [])
    (divided : ∀ middle, (next middle).journal.groupSizes <+: sizes) :
    (first >>= next).journal.groupSizes <+: sizes := by
  cases ended : first.outcome with
  | error interruption =>
      rw [Reported.bind_of_error ended, undivided]
      exact List.nil_prefix
  | ok middle =>
      rw [Reported.bind_of_ok ended, Journal.groupSizes_append, undivided, List.nil_append]
      exact divided middle

theorem groupSizes_narrowByCode :
    (narrowByCode codeOf label conditions entries).journal.groupSizes = [] := by
  induction conditions generalizing entries with
  | nil => rfl
  | cons condition rest ih =>
      rw [narrowByCode]
      refine List.prefix_nil.1 (groupSizes_bind_inFront rfl fun kept => ?_)
      exact groupSizes_bind_inFront rfl fun _ => (ih kept).symm ▸ List.prefix_rfl

theorem groupSizes_gateByQuantity :
    (gateByQuantity label conditions entries).journal.groupSizes = [] := by
  induction conditions generalizing entries with
  | nil => rfl
  | cons condition rest ih =>
      rw [gateByQuantity]
      split
      · rfl
      · refine List.prefix_nil.1 (groupSizes_bind_inFront rfl fun met => ?_)
        split
        · exact (ih entries).symm ▸ List.prefix_rfl
        · exact groupSizes_bind_inFront rfl fun _ => (ih []).symm ▸ List.prefix_rfl

theorem groupSizes_takeGroups (size : Nat) :
    (takeGroups label size entries).journal.groupSizes = [size] := by
  rw [takeGroups]
  by_cases none : entries.length / size = 0
  · rw [if_pos none]
    rfl
  · rw [if_neg none]
    rfl

/-- Each group condition divides by its size, as long as there are entries. -/
theorem groupSizes_narrowByGroups :
    (narrowByGroups label conditions entries).journal.groupSizes <+:
      conditions.map Condition.groupSize := by
  induction conditions generalizing entries with
  | nil => exact List.prefix_rfl
  | cons condition rest ih =>
      rw [narrowByGroups]
      split
      · exact List.nil_prefix
      · rw [Reported.bind_of_ok (outcome_takeGroups label condition.groupSize entries),
          Journal.groupSizes_append, groupSizes_takeGroups, List.map_cons]
        exact (List.prefix_cons_inj _).2 (ih _)

end Sizes

theorem groupSizes_select {Entry : Type} (codeOf : Entry → Text) (rule : PricingRule)
    (entries : List Entry) :
    (rule.select codeOf entries).journal.groupSizes <+:
      (rule.conditionsOf .xQuantity).map Condition.groupSize := by
  rw [select]
  split
  · exact List.nil_prefix
  · refine groupSizes_bind_inFront (groupSizes_narrowByCode codeOf _ _ _) fun byCode => ?_
    exact groupSizes_bind_inFront (groupSizes_gateByQuantity _ _ _) fun gated =>
      groupSizes_narrowByGroups _ _ _

theorem groupSizes_selectPositions (rule : PricingRule) (cart : Cart) :
    (rule.selectPositions cart).journal.groupSizes <+:
      (rule.conditionsOf .xQuantity).map Condition.groupSize := by
  have divided := groupSizes_select (fun entry => entry.1.code) rule cart.zipIdx
  rw [selectPositions]
  cases ended : (rule.select (fun entry : CartItem × Nat => entry.1.code)
      cart.zipIdx).outcome with
  | error interruption =>
      rw [Reported.bind_of_error ended]
      exact divided
  | ok selected =>
      rw [Reported.bind_of_ok ended, Journal.groupSizes_append]
      exact (List.append_nil _).symm ▸ divided

theorem groupSize_pos_of_built {rule : PricingRule}
    (built : ∀ condition ∈ rule.conditions, condition.IsBuilt) (cart : Cart) :
    ∀ size ∈ (rule.selectPositions cart).journal.groupSizes, 0 < size := by
  intro size member
  obtain ⟨condition, grouped, rfl⟩ :=
    List.mem_map.1 ((rule.groupSizes_selectPositions cart).subset member)
  obtain ⟨_, n, whole, positive⟩ :=
    (built condition (List.mem_of_mem_filter grouped)).exists_size
      (kind_of_mem_conditionsOf grouped)
  rw [Condition.groupSize, whole]
  exact Int.pos_iff_toNat_pos.1 positive

/-- Selecting is stopped exactly when an ill-typed condition is asked: a code condition
by an entry that meets all code conditions in front of it, or, if the code conditions
are all well typed, a quantity condition by the number of admitted entries, of which
there are some, meeting all quantity conditions in front of it.  Nothing else stops a
selection, and a rule that the factories have built divides by positive sizes only. -/
theorem fails_exactly_when (rule : PricingRule) (cart : Cart) (acts : rule.isNoop = false) :
    let selection := rule.selectPositions cart
    let admitted := (cart.filter fun item => rule.admits item.code).length
    ((∃ fault, selection.outcome = .error (.comparison fault)) ↔
      (∃ item ∈ cart,
        Condition.comesToIllTyped (rule.conditionsOf .itemCode) (.text item.code) = true) ∨
      (∀ condition ∈ rule.conditionsOf .itemCode, condition.isIllTyped = false) ∧
        0 < admitted ∧
        Condition.comesToIllTyped (rule.conditionsOf .quantityTotal) (.integer admitted) = true) ∧
    (∀ s, selection.outcome ≠ .error (.signal s)) ∧
    ((∀ condition ∈ rule.conditions, condition.IsBuilt) →
      ∀ size ∈ selection.journal.groupSizes, 0 < size) := by
  intro selection admitted
  have compared {interruption : Interruption} (stopped : selection.outcome = .error interruption) :
      ∃ fault, interruption = .comparison fault :=
    (rule.picks_selectPositions cart).stopped stopped
  refine ⟨?_, fun s signalled => ?_, fun built => groupSize_pos_of_built built cart⟩
  · have stopped := exists_select_eq_error_iff id acts (cart.map Item.code)
    simp only [← selectPositions_eq_error_iff, List.filter_map, List.length_map, List.mem_map,
      exists_exists_and_eq_and, Function.comp_def, id] at stopped
    rw [← stopped]
    constructor
    · rintro ⟨fault, ended⟩
      exact ⟨_, ended⟩
    · rintro ⟨interruption, ended⟩
      obtain ⟨fault, rfl⟩ := compared ended
      exact ⟨fault, ended⟩
  · obtain ⟨fault, ⟨⟩⟩ := compared signalled

end Rule

/-- A tenth off every second mug, with a condition that asks for an order of codes. -/
def unorderedMugOffer : PricingRule :=
  ⟨[⟨.xQuantity, .eq, .integer 2⟩, ⟨.itemCode, .eq, .text (.plain "MUG")⟩,
      ⟨.itemCode, .gt, .text (.plain "A")⟩],
    [⟨.discountPercent, .ofInt 10⟩], .null⟩

theorem unordered_mug_offer_fails_on_mugs :
    let mugs := ["CAP", "MUG"].map product
    let others := ["CAP", "PEN"].map product
    unorderedMugOffer.isNoop = false ∧
      (∀ condition ∈ unorderedMugOffer.conditions, condition.IsBuilt) ∧
      (∃ fault, (unorderedMugOffer.selectPositions mugs).outcome = .error (.comparison fault)) ∧
      ¬ ∃ fault, (unorderedMugOffer.selectPositions others).outcome =
        .error (.comparison fault) := by
  intro mugs others
  have acts : unorderedMugOffer.isNoop = false := rfl
  refine ⟨acts, ?_, ?_, ?_⟩
  · have size : Condition.ofKnown .xQuantity .eq (.int 2) =
        .ok ⟨.xQuantity, .eq, .integer 2⟩ := rfl
    have code (operator : Operator) (code : String) :
        Condition.ofKnown .itemCode operator (.ofString code) =
          .ok ⟨.itemCode, operator, .text (.plain code)⟩ := rfl
    simp [unorderedMugOffer, Condition.isBuilt_iff.2 ⟨_, _, _, size⟩,
      Condition.isBuilt_iff.2 ⟨_, _, _, code _ _⟩]
  · rw [(Rule.fails_exactly_when unorderedMugOffer mugs acts).1]
    exact .inl ⟨product "MUG", List.mem_cons_of_mem _ List.mem_cons_self, rfl⟩
  · rw [(Rule.fails_exactly_when unorderedMugOffer others acts).1]
    decide

end RetailPricing
