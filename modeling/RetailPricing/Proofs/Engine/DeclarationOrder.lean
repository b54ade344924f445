import Mathlib.Algebra.BigOperators.Ring.List
import Mathlib.Logic.Equiv.Fin.Basic
import RetailPricing.Proofs.Engine.IllTyped

/-!
# The order in which conditions are declared

Rules whose conditions are declared in different orders are compared place by place
(`Rearrangement`).  A stage of selection sees the conditions of its kind only, in their
order, so conditions of different kinds may change places freely
(`declaration_order_is_free`).  Within a kind:

* code conditions and quantity conditions may change places as well, as far as
  selecting is stopped in no order;
* group conditions may not: each one counts what those in front of it have left, and
  two of three members of which one of two is left are not always as many as the other
  way round (`group_order_matters`).  What their order changes is only how long a
  beginning of the admitted entries is selected (`group_order_changes_the_length`).
-/

namespace RetailPricing

/-- Every place of the first row has a place in the second one where the same
stands. -/
structure Rearrangement {α : Type} (first second : List α) where
  place : Fin first.length ≃ Fin second.length
  same : ∀ i, second.get (place i) = first.get i

namespace Rearrangement

variable {α : Type} {first second : List α} (moved : Rearrangement first second)

/-- Members with the property stand in the same order in both rows. -/
def KeepsOrderOf (has : α → Bool) : Prop :=
  ∀ i j, i < j → has (first.get i) = true → has (first.get j) = true →
    moved.place i < moved.place j

theorem perm_places :
    ((List.finRange first.length).map moved.place).Perm (List.finRange second.length) := by
  refine (List.perm_ext_iff_of_nodup ?_ (List.nodup_finRange _)).2 fun j => ?_
  · exact (List.nodup_finRange _).map moved.place.injective
  · simp only [List.mem_map, List.mem_finRange, true_and, iff_true]
    exact moved.place.surjective j

theorem map_get_place (places : List (Fin first.length)) :
    (places.map moved.place).map second.get = places.map first.get := by
  rw [List.map_map]
  exact List.map_congr_left fun i _ => moved.same i

include moved in
theorem perm : first.Perm second := by
  have places := moved.perm_places.map second.get
  rwa [moved.map_get_place, List.map_get_finRange, List.map_get_finRange] at places

/-- Members whose order is kept are the same row in both. -/
theorem filter_eq {has : α → Bool} (keeps : moved.KeepsOrderOf has) :
    first.filter has = second.filter has := by
  let chosen := (List.finRange first.length).filter fun i => has (first.get i)
  let otherChosen := (List.finRange second.length).filter fun j => has (second.get j)
  have chosenPerm : (chosen.map moved.place).Perm otherChosen := by
    have filtered := moved.perm_places.filter fun j => has (second.get j)
    simpa only [List.filter_map, Function.comp_def, moved.same] using filtered
  -- Both rows of places are increasing, and there is only one such row of the same places.
  have increasing : (chosen.map moved.place).Pairwise (· < ·) := by
    rw [List.pairwise_map]
    refine ((List.pairwise_lt_finRange _).filter _).imp_of_mem fun member otherMember less => ?_
    exact keeps _ _ less (List.mem_filter.1 member).2 (List.mem_filter.1 otherMember).2
  have otherIncreasing : otherChosen.Pairwise (· < ·) :=
    (List.pairwise_lt_finRange _).filter _
  have samePlaces : chosen.map moved.place = otherChosen :=
    chosenPerm.eq_of_pairwise (fun i j _ _ less more => absurd less more.asymm) increasing
      otherIncreasing
  calc first.filter has
      = chosen.map first.get := by
        conv_lhs => rw [← List.map_get_finRange first, List.filter_map]
        rfl
    _ = otherChosen.map second.get := by rw [← moved.map_get_place, samePlaces]
    _ = second.filter has := by
        conv_rhs => rw [← List.map_get_finRange second, List.filter_map]
        rfl

end Rearrangement

/-! ## Conditions of different kinds -/

namespace Rule

section Stages

variable {Entry : Type} (codeOf : Entry → Text) (label other : Datum)

/-- What a rule is called makes no difference to what its conditions leave. -/
theorem outcome_narrowByCode_congr (conditions : List Condition) (entries : List Entry) :
    (narrowByCode codeOf label conditions entries).outcome =
      (narrowByCode codeOf other conditions entries).outcome := by
  induction conditions generalizing entries with
  | nil => rfl
  | cons condition rest ih =>
      simp only [narrowByCode, Reported.outcome_bind, ih]
      rfl

theorem outcome_gateByQuantity_congr (conditions : List Condition) (entries : List Entry) :
    (gateByQuantity label conditions entries).outcome =
      (gateByQuantity other conditions entries).outcome := by
  induction conditions generalizing entries with
  | nil => rfl
  | cons condition rest ih =>
      rw [gateByQuantity, gateByQuantity]
      by_cases empty : entries.isEmpty
      · rw [if_pos empty, if_pos empty]
      · rw [if_neg empty, if_neg empty, Reported.outcome_bind, Reported.outcome_bind]
        refine congrArg _ (funext fun met => ?_)
        cases met with
        | true => exact ih entries
        | false =>
            simp only [if_neg Bool.false_ne_true, Reported.outcome_bind, ih]
            rfl

end Stages

variable {rule other : PricingRule}

theorem isNoop_congr (conditions : rule.conditions.Perm other.conditions)
    (actions : rule.actions = other.actions) : rule.isNoop = other.isNoop := by
  rw [isNoop, isNoop, actions, Bool.eq_iff_iff]
  simp only [Bool.or_eq_true, List.isEmpty_iff_length_eq_zero, conditions.length_eq]

/-- A selection hangs on the rows of conditions of each kind. -/
theorem outcome_select_congr {Entry : Type} (codeOf : Entry → Text) (entries : List Entry)
    (noop : rule.isNoop = other.isNoop)
    (same : ∀ kind, rule.conditionsOf kind = other.conditionsOf kind) :
    (rule.select codeOf entries).outcome = (other.select codeOf entries).outcome := by
  rw [select, select, noop]
  split
  · rfl
  · simp only [Reported.outcome_bind, same, outcome_narrowByGroups,
      outcome_narrowByCode_congr codeOf rule.label other.label,
      outcome_gateByQuantity_congr rule.label other.label]

theorem outcome_selectPositions_congr (cart : Cart) (noop : rule.isNoop = other.isNoop)
    (same : ∀ kind, rule.conditionsOf kind = other.conditionsOf kind) :
    (rule.selectPositions cart).outcome = (other.selectPositions cart).outcome := by
  rw [selectPositions, selectPositions, Reported.outcome_bind, Reported.outcome_bind,
    outcome_select_congr _ _ noop same]

theorem conditionsOf_perm (perm : rule.conditions.Perm other.conditions) (kind : ConditionKind) :
    (rule.conditionsOf kind).Perm (other.conditionsOf kind) :=
  perm.filter _

/-- The order of the code conditions makes no difference to the codes they admit. -/
theorem admits_perm (perm : rule.conditions.Perm other.conditions) :
    rule.admits = other.admits :=
  funext fun _ => (conditionsOf_perm perm .itemCode).all_eq

theorem matching_perm (perm : rule.conditions.Perm other.conditions) :
    rule.matching = other.matching := by
  funext cart
  rw [matching, matching, admits_perm perm]

theorem refuses_perm (perm : rule.conditions.Perm other.conditions) :
    rule.refuses = other.refuses :=
  funext fun _ => (conditionsOf_perm perm .quantityTotal).any_eq

/-- Conditions may be declared in any order.  Where conditions of one kind keep their
order, the rule selects the same or is stopped by the same fault.  Where only group
conditions keep theirs, it selects the same whenever it selects at all. -/
theorem declaration_order_is_free (rule other : PricingRule)
    (actions : rule.actions = other.actions)
    (moved : Rearrangement rule.conditions other.conditions) (cart : Cart) :
    ((∀ kind, moved.KeepsOrderOf fun condition => condition.kind = kind) →
      (rule.selectPositions cart).outcome = (other.selectPositions cart).outcome) ∧
    ((moved.KeepsOrderOf fun condition => condition.kind = .xQuantity) →
      ∀ positions otherPositions, (rule.selectPositions cart).outcome = .ok positions →
        (other.selectPositions cart).outcome = .ok otherPositions →
          positions = otherPositions) := by
  have noop : rule.isNoop = other.isNoop := isNoop_congr moved.perm actions
  refine ⟨fun keeps => ?_, fun keeps positions otherPositions selected otherSelected => ?_⟩
  · exact outcome_selectPositions_congr cart noop fun kind => moved.filter_eq (keeps kind)
  · cases acts : rule.isNoop with
    | true =>
        rw [selectPositions_of_noop acts] at selected
        rw [selectPositions_of_noop (noop ▸ acts)] at otherSelected
        exact (Except.ok.inj selected).symm.trans (Except.ok.inj otherSelected)
    | false =>
        have groups : rule.conditionsOf .xQuantity = other.conditionsOf .xQuantity :=
          moved.filter_eq keeps
        rw [selectPositions_eq_ok acts selected, selectPositions_eq_ok (noop ▸ acts) otherSelected,
          matching_perm moved.perm, quota, quota, refuses_perm moved.perm, groups]

end Rule

/-- A tenth off every second pen. -/
def penOffer : PricingRule :=
  ⟨[⟨.itemCode, .neq, .text (.plain "MUG")⟩, ⟨.xQuantity, .eq, .integer 2⟩,
      ⟨.itemCode, .eq, .text (.plain "PEN")⟩],
    [⟨.discountPercent, .ofInt 10⟩], .null⟩

/-- The same with the condition on groups in the end. -/
def penOfferByStage : PricingRule :=
  { penOffer with
    conditions := [⟨.itemCode, .neq, .text (.plain "MUG")⟩, ⟨.itemCode, .eq, .text (.plain "PEN")⟩,
      ⟨.xQuantity, .eq, .integer 2⟩] }

/-- The same told from its end. -/
def penOfferBackwards : PricingRule :=
  { penOffer with conditions := penOffer.conditions.reverse }

theorem pen_offer_is_the_same_in_any_order :
    let cart := ["CAP", "PEN", "MUG", "PEN", "PEN"].map product
    (penOffer.selectPositions cart).outcome = (penOfferByStage.selectPositions cart).outcome ∧
      (penOffer.selectPositions cart).outcome = .ok [1] ∧
      (penOfferBackwards.selectPositions cart).outcome = .ok [1] := by
  intro cart
  let byStage : Rearrangement penOffer.conditions penOfferByStage.conditions :=
    ⟨(Equiv.swap 1 2 : Equiv.Perm (Fin 3)), by decide⟩
  let backwards : Rearrangement penOffer.conditions penOfferBackwards.conditions :=
    ⟨Fin.revPerm, by decide⟩
  have kindsInOrder (kind : ConditionKind) :
      byStage.KeepsOrderOf fun condition => condition.kind = kind := by
    cases kind <;> unfold Rearrangement.KeepsOrderOf <;> decide
  have groupsInOrder : backwards.KeepsOrderOf fun condition => condition.kind = .xQuantity := by
    unfold Rearrangement.KeepsOrderOf
    decide
  have staged := (Rule.declaration_order_is_free penOffer penOfferByStage rfl byStage cart).1
    kindsInOrder
  have selected : (penOffer.selectPositions cart).outcome = .ok [1] := rfl
  have answers : ∃ positions, (penOfferBackwards.selectPositions cart).outcome = .ok positions :=
    ⟨_, rfl⟩
  obtain ⟨positions, told⟩ := answers
  have agree := (Rule.declaration_order_is_free penOffer penOfferBackwards rfl backwards cart).2
    groupsInOrder [1] positions selected told
  exact ⟨staged, selected, agree ▸ told⟩

/-! ## Group conditions -/

theorem eligibleMembers_mono (size : Nat) {fewer count : Nat} (atMost : fewer ≤ count) :
    eligibleMembers size fewer ≤ eligibleMembers size count :=
  Nat.mul_le_mul_right _ (Nat.div_le_div_right atMost)

/-- All members but one of groups that cannot be split are at most as many as of groups
that can. -/
theorem eligibleMembers_mul_le (size count : Nat) :
    eligibleMembers size count * size ≤ count * (size - 1) :=
  calc count / size * (size - 1) * size
      = count / size * size * (size - 1) := Nat.mul_right_comm _ _ _
    _ ≤ count * (size - 1) := Nat.mul_le_mul_right _ (Nat.div_mul_le_self count size)

/-- They are short of it by no more than the share of one group. -/
theorem le_eligibleMembers_mul (size count : Nat) :
    count * (size - 1) ≤ (eligibleMembers size count + (size - 1)) * size := by
  cases size with
  | zero => exact (Nat.mul_zero count).le
  | succ share =>
      have remainder : count ≤ count / (share + 1) * (share + 1) + share := by
        have below : count % (share + 1) < share + 1 := Nat.mod_lt _ share.succ_pos
        have split := Nat.div_add_mod' count (share + 1)
        omega
      calc count * share
          ≤ (count / (share + 1) * (share + 1) + share) * share :=
            Nat.mul_le_mul_right _ remainder
        _ ≤ (count / (share + 1) * share + share) * (share + 1) := by nlinarith

namespace Condition

/-- The sizes of group conditions. -/
def sizes (conditions : List Condition) : List Nat :=
  conditions.map groupSize

/-- How many members of a group of each size are not left over. -/
def shares (conditions : List Condition) : List Nat :=
  conditions.map fun condition => condition.groupSize - 1

theorem prod_sizes_cons (condition : Condition) (rest : List Condition) :
    (sizes (condition :: rest)).prod = condition.groupSize * (sizes rest).prod :=
  List.prod_cons

theorem prod_shares_cons (condition : Condition) (rest : List Condition) :
    (shares (condition :: rest)).prod = (condition.groupSize - 1) * (shares rest).prod :=
  List.prod_cons

theorem prod_shares_le (conditions : List Condition) :
    (shares conditions).prod ≤ (sizes conditions).prod := by
  induction conditions with
  | nil => exact Nat.le_refl _
  | cons condition rest ih =>
      rw [prod_sizes_cons, prod_shares_cons]
      exact Nat.mul_le_mul (Nat.sub_le _ _) ih

end Condition

section Counting

open Condition

/-- No condition leaves more than it would leave alone. -/
theorem membersLeft_le_eligibleMembers {conditions : List Condition} {condition : Condition}
    (member : condition ∈ conditions) (count : Nat) :
    membersLeft conditions count ≤ eligibleMembers condition.groupSize count := by
  induction conditions generalizing count with
  | nil => cases member
  | cons first rest ih =>
      cases member with
      | head => exact membersLeft_le rest _
      | tail _ later =>
          exact (ih later _).trans (eligibleMembers_mono _ (eligibleMembers_le _ count))

/-- No more is left than if groups could be split. -/
theorem membersLeft_mul_prod_le (conditions : List Condition) (count : Nat) :
    membersLeft conditions count * (sizes conditions).prod ≤
      count * (shares conditions).prod := by
  induction conditions generalizing count with
  | nil => exact Nat.le_refl _
  | cons condition rest ih =>
      let left := eligibleMembers condition.groupSize count
      rw [prod_sizes_cons, prod_shares_cons]
      calc membersLeft rest left * (condition.groupSize * (sizes rest).prod)
          = condition.groupSize * (membersLeft rest left * (sizes rest).prod) :=
            Nat.mul_left_comm _ _ _
        _ ≤ condition.groupSize * (left * (shares rest).prod) := Nat.mul_le_mul_left _ (ih left)
        _ = left * condition.groupSize * (shares rest).prod := by ring
        _ ≤ count * (condition.groupSize - 1) * (shares rest).prod :=
            Nat.mul_le_mul_right _ (eligibleMembers_mul_le condition.groupSize count)
        _ = count * ((condition.groupSize - 1) * (shares rest).prod) := Nat.mul_assoc _ _ _

/-- What is left is short of it by no more than the share of one group of each size. -/
theorem le_membersLeft_mul_prod (conditions : List Condition) (count : Nat) :
    count * (shares conditions).prod ≤
      (membersLeft conditions count + (shares conditions).sum) * (sizes conditions).prod := by
  induction conditions generalizing count with
  | nil => exact Nat.le_refl _
  | cons condition rest ih =>
      let size := condition.groupSize
      let left := eligibleMembers size count
      have spread : (shares (condition :: rest)).sum = (size - 1) + (shares rest).sum :=
        List.sum_cons
      rw [prod_sizes_cons, prod_shares_cons, spread]
      calc count * ((size - 1) * (shares rest).prod)
          = count * (size - 1) * (shares rest).prod := (Nat.mul_assoc _ _ _).symm
        _ ≤ (left + (size - 1)) * size * (shares rest).prod :=
            Nat.mul_le_mul_right _ (le_eligibleMembers_mul size count)
        _ = size * (left * (shares rest).prod + (size - 1) * (shares rest).prod) := by ring
        _ ≤ size * ((membersLeft rest left + (shares rest).sum) * (sizes rest).prod +
              (size - 1) * (sizes rest).prod) :=
            Nat.mul_le_mul_left _ (Nat.add_le_add (ih left)
              (Nat.mul_le_mul_left _ (prod_shares_le rest)))
        _ = (membersLeft rest left + ((size - 1) + (shares rest).sum)) *
              (size * (sizes rest).prod) := by ring

/-- Without incomplete groups the order makes no difference. -/
theorem membersLeft_mul_prod (conditions : List Condition) (count : Nat) :
    membersLeft conditions (count * (sizes conditions).prod) =
      count * (shares conditions).prod := by
  induction conditions generalizing count with
  | nil => rfl
  | cons condition rest ih =>
      rw [prod_sizes_cons, prod_shares_cons]
      have left : eligibleMembers condition.groupSize
          (count * (condition.groupSize * (sizes rest).prod)) =
            count * (condition.groupSize - 1) * (sizes rest).prod := by
        rw [eligibleMembers, Nat.mul_left_comm]
        rcases Nat.eq_zero_or_pos condition.groupSize with none | some
        · simp [none]
        · rw [Nat.mul_div_cancel_left _ some, Nat.mul_right_comm]
      exact (congrArg (membersLeft rest) left).trans ((ih _).trans (Nat.mul_assoc _ _ _))

variable {conditions others : List Condition}

theorem membersLeft_le_of_perm (perm : conditions.Perm others) (count : Nat) :
    membersLeft conditions count ≤ membersLeft others count + (shares others).sum := by
  rcases Nat.eq_zero_or_pos (sizes conditions).prod with none | some
  · obtain ⟨condition, member, isZero⟩ := List.mem_map.1 (List.prod_eq_zero_iff.1 none)
    have nothing := membersLeft_le_eligibleMembers member count
    rw [isZero, eligibleMembers, Nat.div_zero, Nat.zero_mul] at nothing
    exact nothing.trans (Nat.zero_le _)
  · have sameSizes : (sizes conditions).prod = (sizes others).prod := (perm.map _).prod_eq
    have sameShares : (shares conditions).prod = (shares others).prod := (perm.map _).prod_eq
    refine Nat.le_of_mul_le_mul_right ?_ some
    calc membersLeft conditions count * (sizes conditions).prod
        ≤ count * (shares conditions).prod := membersLeft_mul_prod_le conditions count
      _ ≤ (membersLeft others count + (shares others).sum) * (sizes conditions).prod := by
          rw [sameShares, sameSizes]
          exact le_membersLeft_mul_prod others count

theorem membersLeft_perm_of_dvd (perm : conditions.Perm others) {count : Nat}
    (complete : (sizes conditions).prod ∣ count) :
    membersLeft conditions count = membersLeft others count := by
  obtain ⟨times, rfl⟩ := complete
  have sameSizes : (sizes conditions).prod = (sizes others).prod := (perm.map _).prod_eq
  have sameShares : (shares conditions).prod = (shares others).prod := (perm.map _).prod_eq
  rw [Nat.mul_comm, membersLeft_mul_prod, sameSizes, membersLeft_mul_prod, sameShares]

end Counting

namespace Rule

variable {rule other : PricingRule}

/-- Group conditions have no part in what stops a selection. -/
theorem select_eq_error_iff_congr {Entry : Type} (codeOf : Entry → Text) (entries : List Entry)
    (noop : rule.isNoop = other.isNoop)
    (codes : rule.conditionsOf .itemCode = other.conditionsOf .itemCode)
    (totals : rule.conditionsOf .quantityTotal = other.conditionsOf .quantityTotal)
    {interruption : Interruption} :
    (rule.select codeOf entries).outcome = .error interruption ↔
      (other.select codeOf entries).outcome = .error interruption := by
  rw [select, select, noop]
  split
  · exact Iff.rfl
  · simp only [Reported.outcome_bind_eq_error_iff, codes, totals, outcome_narrowByGroups,
      outcome_narrowByCode_congr codeOf rule.label other.label,
      outcome_gateByQuantity_congr rule.label other.label, reduceCtorEq, and_false, exists_false]

/-- A selection is what the group conditions leave of the admitted entries, unless nothing
can be selected in any order of the conditions. -/
theorem selectPositions_eq_ite {cart : Cart} {positions : List Nat}
    (selected : (rule.selectPositions cart).outcome = .ok positions) :
    positions = if rule.isNoop || rule.refuses (rule.matching cart).length then []
      else (rule.matching cart).take
        (membersLeft (rule.conditionsOf .xQuantity) (rule.matching cart).length) := by
  cases acts : rule.isNoop with
  | true =>
      rw [selectPositions_of_noop acts] at selected
      exact (Except.ok.inj selected).symm
  | false =>
      rw [selectPositions_eq_ok acts selected, quota, Bool.false_or]
      split
      · exact List.take_zero
      · rfl

/-- In two orders of the conditions nothing is selected, or two beginnings of one row. -/
theorem selections_of_perm {cart : Cart} {positions otherPositions : List Nat}
    (perm : rule.conditions.Perm other.conditions) (actions : rule.actions = other.actions)
    (selected : (rule.selectPositions cart).outcome = .ok positions)
    (otherSelected : (other.selectPositions cart).outcome = .ok otherPositions) :
    let left (conditions : List Condition) :=
      (rule.matching cart).take (membersLeft conditions (rule.matching cart).length)
    if rule.isNoop || rule.refuses (rule.matching cart).length then
      positions = [] ∧ otherPositions = []
    else
      positions = left (rule.conditionsOf .xQuantity) ∧
        otherPositions = left (other.conditionsOf .xQuantity) := by
  intro left
  rw [selectPositions_eq_ite selected, selectPositions_eq_ite otherSelected,
    ← isNoop_congr perm actions, ← matching_perm perm, ← refuses_perm perm]
  cases rule.isNoop || rule.refuses (rule.matching cart).length with
  | true => exact ⟨rfl, rfl⟩
  | false => exact ⟨rfl, rfl⟩

/-- Group conditions are not free to change places, but what their order changes is only
where the selection ends.  Selecting is stopped by the same faults in every order.  If
anything can be selected at all, the conditions are applied one after the other as they
are declared, and each counts what those before it have left.  What is selected in one
order lies within what each of the group conditions would leave alone.  It is a beginning
of what is selected in another order or the other way round, is longer or shorter by no
more than the share of one group of each size, and is the same if all groups come out
even. -/
theorem group_order_changes_the_length (rule other : PricingRule)
    (actions : rule.actions = other.actions)
    (moved : Rearrangement rule.conditions other.conditions)
    (keeps : ∀ kind ≠ .xQuantity, moved.KeepsOrderOf fun condition => condition.kind = kind)
    (cart : Cart) :
    let groups := rule.conditionsOf .xQuantity
    let matching := rule.matching cart
    let left (conditions : List Condition) :=
      matching.take (membersLeft conditions matching.length)
    (∀ interruption, (rule.selectPositions cart).outcome = .error interruption ↔
      (other.selectPositions cart).outcome = .error interruption) ∧
    ∀ positions otherPositions, (rule.selectPositions cart).outcome = .ok positions →
      (other.selectPositions cart).outcome = .ok otherPositions →
        (if rule.isNoop || rule.refuses matching.length then
          positions = [] ∧ otherPositions = []
        else positions = left groups ∧ otherPositions = left (other.conditionsOf .xQuantity)) ∧
        (∀ condition ∈ groups,
          positions <+: matching.take (eligibleMembers condition.groupSize matching.length)) ∧
        (positions <+: otherPositions ∨ otherPositions <+: positions) ∧
        positions.length ≤ otherPositions.length + (Condition.shares groups).sum ∧
        otherPositions.length ≤ positions.length + (Condition.shares groups).sum ∧
        ((Condition.sizes groups).prod ∣ matching.length → positions = otherPositions) := by
  intro groups matching left
  refine ⟨fun interruption => ?_, fun positions otherPositions selected otherSelected => ?_⟩
  · have codes := moved.filter_eq (keeps .itemCode (by decide))
    have totals := moved.filter_eq (keeps .quantityTotal (by decide))
    rw [selectPositions_eq_error_iff, selectPositions_eq_error_iff]
    exact select_eq_error_iff_congr id (cart.map Item.code) (isNoop_congr moved.perm actions)
      codes totals
  · let others := other.conditionsOf .xQuantity
    have perm : groups.Perm others := conditionsOf_perm moved.perm _
    have shares : (Condition.shares groups).sum = (Condition.shares others).sum :=
      (perm.map _).sum_eq
    have forms := selections_of_perm moved.perm actions selected otherSelected
    refine ⟨forms, ?_⟩
    split at forms
    · obtain ⟨rfl, rfl⟩ := forms
      simp
    · obtain ⟨rfl, rfl⟩ := forms
      rw [List.length_take_of_le (membersLeft_le _ _),
        List.length_take_of_le (membersLeft_le _ _)]
      refine ⟨fun condition member => ?_, ?_, ?_, ?_, fun complete => ?_⟩
      · exact List.take_prefix_take_left (membersLeft_le_eligibleMembers member _)
      · exact (Nat.le_total _ _).imp List.take_prefix_take_left List.take_prefix_take_left
      · exact shares ▸ membersLeft_le_of_perm perm matching.length
      · exact membersLeft_le_of_perm perm.symm matching.length
      · exact congrArg matching.take (membersLeft_perm_of_dvd perm complete)

end Rule

/-- A tenth off two kinds of groups, one after the other. -/
def groupsOffer (first second : Int) : PricingRule :=
  ⟨[⟨.xQuantity, .eq, .integer first⟩, ⟨.xQuantity, .eq, .integer second⟩],
    [⟨.discountPercent, .ofInt 10⟩], .null⟩

def mugs (count : Nat) : Cart :=
  List.replicate count (product "MUG")

/-- Of four mugs one of two is two, and two are no group of three.  Two of three is two,
and one of them one of two. -/
theorem group_order_matters :
    (∀ condition ∈ (groupsOffer 2 3).conditions, condition.IsBuilt) ∧
      (groupsOffer 2 3).conditions.Perm (groupsOffer 3 2).conditions ∧
      (groupsOffer 2 3).actions = (groupsOffer 3 2).actions ∧
      ((groupsOffer 2 3).selectPositions (mugs 4)).outcome = .ok [] ∧
      ((groupsOffer 3 2).selectPositions (mugs 4)).outcome = .ok [0] := by
  refine ⟨?_, List.Perm.swap _ _ _, rfl, rfl, rfl⟩
  have pairs : Condition.ofKnown .xQuantity .eq (.int 2) = .ok ⟨.xQuantity, .eq, .integer 2⟩ := rfl
  have threes : Condition.ofKnown .xQuantity .eq (.int 3) = .ok ⟨.xQuantity, .eq, .integer 3⟩ := rfl
  simp [groupsOffer, Condition.isBuilt_iff.2 ⟨_, _, _, pairs⟩,
    Condition.isBuilt_iff.2 ⟨_, _, _, threes⟩]

theorem group_order_makes_no_difference_to_six_mugs :
    ((groupsOffer 2 3).selectPositions (mugs 6)).outcome = .ok [0, 1] ∧
      ((groupsOffer 3 2).selectPositions (mugs 6)).outcome = .ok [0, 1] ∧
      ((groupsOffer 3 2).selectPositions (mugs 4)).outcome = .ok [0] ∧
      ([] <+: [0] ∨ [0] <+: ([] : List Nat)) := by
  let swapped : Rearrangement (groupsOffer 2 3).conditions (groupsOffer 3 2).conditions :=
    ⟨(Equiv.swap 0 1 : Equiv.Perm (Fin 2)), by decide⟩
  have keeps : ∀ kind ≠ .xQuantity,
      swapped.KeepsOrderOf fun condition => condition.kind = kind := by
    intro kind other
    cases kind with
    | xQuantity => exact absurd rfl other
    | itemCode | quantityTotal => unfold Rearrangement.KeepsOrderOf; decide
  have changes := Rule.group_order_changes_the_length (groupsOffer 2 3) (groupsOffer 3 2) rfl
    swapped keeps
  have complete : ((groupsOffer 2 3).selectPositions (mugs 6)).outcome = .ok [0, 1] := rfl
  have answers : ∃ positions,
      ((groupsOffer 3 2).selectPositions (mugs 6)).outcome = .ok positions := ⟨_, rfl⟩
  obtain ⟨positions, told⟩ := answers
  obtain ⟨-, -, -, -, -, same⟩ := (changes (mugs 6)).2 [0, 1] positions complete told
  have shorter : ((groupsOffer 2 3).selectPositions (mugs 4)).outcome = .ok [] := rfl
  have longer : ((groupsOffer 3 2).selectPositions (mugs 4)).outcome = .ok [0] := rfl
  obtain ⟨-, -, beginning, -⟩ := (changes (mugs 4)).2 [] [0] shorter longer
  exact ⟨complete, same (by decide) ▸ told, longer, beginning⟩

end RetailPricing
