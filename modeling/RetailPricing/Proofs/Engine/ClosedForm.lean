import RetailPricing.Proofs.Engine.SharedItems

/-!
# The selection of a rule in closed form

Selection goes through the conditions of a rule in three stages, each of which
stops as soon as no entry is left.  What comes out can be told without stages:
it is the beginning of the list of entries whose code meets every code
condition (`matching`).  How long that beginning is depends on the length of
the list only (`quota`): nothing if a quantity condition is false of it, else
what every group condition in turn leaves of it.
-/

namespace RetailPricing

namespace Condition

/-- The fact is found to meet the condition. -/
def meets (condition : Condition) (fact : Value) : Bool :=
  condition.evaluate fact = .ok true

/-- The fact is found not to meet the condition. -/
def rejects (condition : Condition) (fact : Value) : Bool :=
  condition.evaluate fact = .ok false

end Condition

/-- How many of `count` entries a group condition keeps: all members but one of
every complete group. -/
def eligibleMembers (size count : Nat) : Nat :=
  count / size * (size - 1)

theorem eligibleMembers_le (size count : Nat) : eligibleMembers size count ≤ count :=
  calc count / size * (size - 1)
      ≤ count / size * size := Nat.mul_le_mul_left _ (Nat.sub_le size 1)
    _ ≤ count := Nat.div_mul_le_self count size

/-- Some member is left over, if there are any. -/
theorem eligibleMembers_lt (size : Nat) {count : Nat} (some : 0 < count) :
    eligibleMembers size count < count := by
  by_cases groups : count / size = 0
  · rw [eligibleMembers, groups, Nat.zero_mul]
    exact some
  · have grouped : 0 < size := by
      refine Nat.pos_of_ne_zero fun isZero => groups ?_
      rw [isZero, Nat.div_zero]
    calc count / size * (size - 1)
        < count / size * size :=
          Nat.mul_lt_mul_of_pos_left (Nat.sub_lt grouped Nat.one_pos) (Nat.pos_of_ne_zero groups)
      _ ≤ count := Nat.div_mul_le_self count size

/-- How many of `count` entries are left by group conditions, one after the
other. -/
def membersLeft (conditions : List Condition) (count : Nat) : Nat :=
  conditions.foldl (fun count condition => eligibleMembers condition.groupSize count) count

theorem membersLeft_le (conditions : List Condition) (count : Nat) :
    membersLeft conditions count ≤ count := by
  induction conditions generalizing count with
  | nil => exact Nat.le_refl count
  | cons condition rest ih =>
      exact (ih _).trans (eligibleMembers_le condition.groupSize count)

theorem membersLeft_lt {conditions : List Condition} (given : conditions ≠ []) {count : Nat}
    (some : 0 < count) : membersLeft conditions count < count := by
  cases conditions with
  | nil => exact absurd rfl given
  | cons condition rest =>
      exact (membersLeft_le rest _).trans_lt (eligibleMembers_lt condition.groupSize some)

namespace Rule

/-- The code meets every code condition of the rule. -/
def admits (rule : PricingRule) (code : Text) : Bool :=
  (rule.conditionsOf .itemCode).all fun condition => condition.meets (.text code)

/-- Some quantity condition of the rule is false of this number of entries. -/
def refuses (rule : PricingRule) (count : Nat) : Bool :=
  (rule.conditionsOf .quantityTotal).any fun condition => condition.rejects (.integer count)

/-- How many entries the rule selects out of those whose codes it admits. -/
def quota (rule : PricingRule) (admitted : Nat) : Nat :=
  if rule.refuses admitted then 0
  else membersLeft (rule.conditionsOf .xQuantity) admitted

/-- The positions of the entries whose codes the rule admits. -/
def matching (rule : PricingRule) (cart : Cart) : List Nat :=
  (cart.zipIdx.filter fun entry => rule.admits entry.1.code).map Prod.snd

section Stages

variable {Entry : Type} {codeOf : Entry → Text}

theorem meetingCode_eq_ok {condition : Condition} {entries kept : List Entry}
    (filtered : meetingCode codeOf condition entries = .ok kept) :
    kept = entries.filter fun entry => condition.meets (.text (codeOf entry)) := by
  induction entries generalizing kept with
  | nil => exact (Except.ok.inj filtered).symm
  | cons entry rest ih =>
      rw [meetingCode] at filtered
      obtain ⟨meets, evaluated, tail⟩ := Outcome.bind_eq_ok_iff.1 filtered
      obtain ⟨others, rested, result⟩ := Outcome.bind_eq_ok_iff.1 tail
      have here : condition.meets (.text (codeOf entry)) = meets := by
        rw [Condition.meets, evaluated]
        cases meets <;> rfl
      rw [List.filter_cons, here, ← ih rested]
      exact (Except.ok.inj result).symm

theorem narrowByCode_eq_ok {label : Datum} {conditions : List Condition}
    {entries kept : List Entry}
    (narrowed : (narrowByCode codeOf label conditions entries).outcome = .ok kept) :
    kept = entries.filter fun entry =>
      conditions.all fun condition => condition.meets (.text (codeOf entry)) := by
  induction conditions generalizing entries with
  | nil =>
      rw [← Except.ok.inj narrowed]
      exact (List.filter_eq_self.2 fun _ _ => rfl).symm
  | cons condition rest ih =>
      rw [narrowByCode] at narrowed
      obtain ⟨met, filtered, later⟩ := Reported.outcome_bind_eq_ok_iff.1 narrowed
      obtain ⟨_, _, rested⟩ := Reported.outcome_bind_eq_ok_iff.1 later
      rw [ih rested, meetingCode_eq_ok filtered, List.filter_filter]
      simp only [List.all_cons, Bool.and_comm]

theorem gateByQuantity_eq_ok {label : Datum} {conditions : List Condition}
    {entries gated : List Entry}
    (passed : (gateByQuantity label conditions entries).outcome = .ok gated) :
    gated =
      if conditions.any fun condition => condition.rejects (.integer entries.length) then []
      else entries := by
  induction conditions generalizing entries with
  | nil => exact (Except.ok.inj passed).symm
  | cons condition rest ih =>
      rw [gateByQuantity] at passed
      by_cases empty : entries.isEmpty
      · -- Nothing is left to be refused.
        rw [if_pos empty] at passed
        rw [← Except.ok.inj passed, List.isEmpty_iff.1 empty, ite_self]
      · rw [if_neg empty] at passed
        obtain ⟨met, evaluated, later⟩ := Reported.outcome_bind_eq_ok_iff.1 passed
        have evaluated : condition.evaluate (.integer entries.length) = .ok met := evaluated
        rw [List.any_cons, Condition.rejects, evaluated]
        cases met with
        | true =>
            rw [if_pos rfl] at later
            simpa using ih later
        | false =>
            rw [if_neg Bool.false_ne_true] at later
            obtain ⟨_, _, emptied⟩ := Reported.outcome_bind_eq_ok_iff.1 later
            simpa using ih emptied

theorem outcome_takeGroups (label : Datum) (size : Nat) (entries : List Entry) :
    (takeGroups label size entries).outcome =
      .ok (entries.take (eligibleMembers size entries.length)) := by
  rw [takeGroups]
  by_cases none : entries.length / size = 0
  · rw [if_pos none, eligibleMembers, none, Nat.zero_mul, List.take_zero]
    rfl
  · rw [if_neg none]
    rfl

theorem outcome_narrowByGroups (label : Datum) (conditions : List Condition)
    (entries : List Entry) :
    (narrowByGroups label conditions entries).outcome =
      .ok (entries.take (membersLeft conditions entries.length)) := by
  induction conditions generalizing entries with
  | nil => exact congrArg Except.ok (List.take_length (l := entries)).symm
  | cons condition rest ih =>
      rw [narrowByGroups]
      by_cases empty : entries.isEmpty
      · rw [if_pos empty, List.isEmpty_iff.1 empty, List.take_nil]
        rfl
      · rw [if_neg empty, Reported.bind_of_ok (outcome_takeGroups label _ entries)]
        have left : (entries.take (eligibleMembers condition.groupSize entries.length)).length =
            eligibleMembers condition.groupSize entries.length :=
          List.length_take_of_le (eligibleMembers_le _ _)
        have fewer := membersLeft_le rest
          (eligibleMembers condition.groupSize entries.length)
        dsimp only
        rw [ih, left, List.take_take, Nat.min_eq_left fewer]
        rfl

/-- What the three stages leave. -/
theorem select_eq_ok {rule : PricingRule} {entries picked : List Entry}
    (acts : rule.isNoop = false)
    (selected : (rule.select codeOf entries).outcome = .ok picked) :
    picked =
      (entries.filter fun entry => rule.admits (codeOf entry)).take
        (rule.quota (entries.filter fun entry => rule.admits (codeOf entry)).length) := by
  rw [select, acts, if_neg Bool.false_ne_true] at selected
  obtain ⟨byCode, narrowed, later⟩ := Reported.outcome_bind_eq_ok_iff.1 selected
  obtain ⟨gated, passed, grouped⟩ := Reported.outcome_bind_eq_ok_iff.1 later
  rw [outcome_narrowByGroups] at grouped
  obtain rfl := Except.ok.inj grouped
  have admitted : entries.filter (fun entry => rule.admits (codeOf entry)) = byCode :=
    (narrowByCode_eq_ok narrowed).symm
  rw [admitted, gateByQuantity_eq_ok passed, quota, refuses]
  split
  · rw [List.take_nil, List.take_zero]
  · rfl

end Stages

theorem map_fst_filter_zipIdx (rule : PricingRule) (cart : Cart) :
    (cart.zipIdx.filter fun entry => rule.admits entry.1.code).map Prod.fst =
      cart.filter fun item => rule.admits item.code := by
  conv_rhs => rw [← List.zipIdx_map_fst 0 cart]
  rw [List.filter_map]
  rfl

theorem length_matching (rule : PricingRule) (cart : Cart) :
    (rule.matching cart).length = (cart.filter fun item => rule.admits item.code).length := by
  rw [matching, List.length_map, ← map_fst_filter_zipIdx, List.length_map]

theorem matching_sublist (rule : PricingRule) (cart : Cart) :
    (rule.matching cart).Sublist (List.range cart.length) := by
  have positions : cart.zipIdx.map Prod.snd = List.range cart.length := by
    rw [List.zipIdx_map_snd, List.range_eq_range']
  rw [← positions]
  exact List.filter_sublist.map Prod.snd

theorem matching_nodup (rule : PricingRule) (cart : Cart) : (rule.matching cart).Nodup :=
  (rule.matching_sublist cart).nodup List.nodup_range

/-- The entries at the matching positions, as far as a beginning goes. -/
theorem entriesAt_take_matching (rule : PricingRule) (cart : Cart) (count : Nat) :
    entriesAt ((rule.matching cart).take count) cart =
      (cart.filter fun item => rule.admits item.code).take count := by
  have entries {found : List (CartItem × Nat)} (present : found.Sublist cart.zipIdx) :
      entriesAt (found.map Prod.snd) cart = found.map Prod.fst := by
    rw [entriesAt, List.filterMap_map, ← List.filterMap_eq_map]
    refine List.filterMap_congr fun entry member => ?_
    exact List.mem_zipIdx_iff_getElem?.1 (present.subset member)
  rw [matching, ← List.map_take,
    entries ((List.take_sublist count _).trans List.filter_sublist), List.map_take,
    map_fst_filter_zipIdx]

theorem selectPositions_eq_ok {rule : PricingRule} {cart : Cart} {positions : List Nat}
    (acts : rule.isNoop = false)
    (selected : (rule.selectPositions cart).outcome = .ok positions) :
    positions = (rule.matching cart).take (rule.quota (rule.matching cart).length) := by
  rw [selectPositions] at selected
  obtain ⟨picked, stages, renamed⟩ := Reported.outcome_bind_eq_ok_iff.1 selected
  rw [← Except.ok.inj renamed, select_eq_ok acts stages, matching, List.length_map,
    List.map_take]

/-- A rule with a group condition does not select all entries that it admits. -/
theorem length_lt_of_selectPositions {rule : PricingRule} {cart : Cart} {positions : List Nat}
    (selected : (rule.selectPositions cart).outcome = .ok positions)
    (grouped : rule.conditionsOf .xQuantity ≠ []) (matched : rule.matching cart ≠ []) :
    positions.length < (rule.matching cart).length := by
  have some : 0 < (rule.matching cart).length := List.length_pos_of_ne_nil matched
  cases acts : rule.isNoop with
  | true =>
      rw [selectPositions_of_noop acts] at selected
      obtain rfl := Except.ok.inj selected
      exact some
  | false =>
      rw [selectPositions_eq_ok acts selected, List.length_take, quota]
      split
      · rwa [Nat.zero_min]
      · exact (Nat.min_le_left _ _).trans_lt (membersLeft_lt grouped some)

/-- What a rule selects is the beginning of the list of entries whose codes it
admits, of a length that depends on the length of this list only.  It is always
a sublist of the cart that holds no position twice, and with a group condition
it never holds all admitted entries. -/
theorem selection_has_closed_form (rule : PricingRule) (cart : Cart) :
    (rule.isNoop = true → (rule.selectPositions cart).outcome = .ok []) ∧
      ∀ positions, (rule.selectPositions cart).outcome = .ok positions →
        (rule.isNoop = false →
          positions = (rule.matching cart).take (rule.quota (rule.matching cart).length) ∧
            entriesAt positions cart =
              (cart.filter fun item => rule.admits item.code).take
                (rule.quota (cart.filter fun item => rule.admits item.code).length)) ∧
          positions.Sublist (List.range cart.length) ∧ positions.Nodup ∧
            (rule.conditionsOf .xQuantity ≠ [] → rule.matching cart ≠ [] →
              ∃ position ∈ rule.matching cart, position ∉ positions) := by
  refine ⟨fun noop => congrArg Reported.outcome (selectPositions_of_noop noop cart), ?_⟩
  intro positions selected
  have sublist := (rule.picks_selectPositions cart).sublist selected
  refine ⟨fun acts => ?_, sublist, sublist.nodup List.nodup_range, fun grouped matched => ?_⟩
  · have closed := selectPositions_eq_ok acts selected
    refine ⟨closed, ?_⟩
    rw [closed, entriesAt_take_matching, length_matching]
  · by_contra all
    push Not at all
    have atLeast : (rule.matching cart).length ≤ positions.length :=
      ((rule.matching_nodup cart).subperm all).length_le
    exact absurd (length_lt_of_selectPositions selected grouped matched) (not_lt.2 atLeast)

end Rule

/-- A product for 5.00. -/
def product (code : String) : CartItem :=
  ⟨.plain code, .null, ⟨false, 500, -2⟩, Item.defaultCurrency, .zero⟩

/-- Of all that is no mug, and if there are four of it, two of three and of
these one of two for a tenth less. -/
def bundleOffer : PricingRule :=
  ⟨[⟨.xQuantity, .eq, .integer 3⟩, ⟨.itemCode, .neq, .text (.plain "MUG")⟩,
      ⟨.quantityTotal, .gte, .integer 4⟩, ⟨.xQuantity, .eq, .integer 2⟩],
    [⟨.discountPercent, .ofInt 10⟩], .null⟩

theorem bundle_selects_two_of_seven :
    let cart := ["CAP", "MUG", "PEN", "CAP", "MUG", "CAP", "CAP", "PEN", "PEN"].map product
    (bundleOffer.selectPositions cart).outcome = .ok [0, 2] ∧
      [0, 2] = (bundleOffer.matching cart).take
        (bundleOffer.quota (bundleOffer.matching cart).length) ∧
      ∃ position ∈ bundleOffer.matching cart, position ∉ [0, 2] := by
  intro cart
  have selected : (bundleOffer.selectPositions cart).outcome = .ok [0, 2] := rfl
  have form := (Rule.selection_has_closed_form bundleOffer cart).2 [0, 2] selected
  exact ⟨selected, (form.1 rfl).1, form.2.2.2 (by decide) (by decide)⟩

end RetailPricing
