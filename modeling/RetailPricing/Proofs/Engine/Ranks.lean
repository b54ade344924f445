import RetailPricing.Proofs.Engine.ClosedForm
import RetailPricing.Proofs.Engine.PerItem

/-!
# Places among equals

An entry of a list that has a property has a place among all that have it: the
number of those in front of it (`countAhead`).  It is the place of the entry in
the filtered list (`getElem?_filter_eq_some_iff`).

A rule selects entries by their places among those whose codes it admits
(`picksAt_iff`).  With a group condition, and where only one code is admitted, it
is the place among the entries of that code which decides; without one, the place
does not matter.
-/

namespace RetailPricing

section Counting

variable {Entry : Type}

/-- How many of the entries in front of a position have a property. -/
def countAhead (has : Entry → Bool) (entries : List Entry) (position : Nat) : Nat :=
  (entries.take position).countP has

theorem countAhead_map {Other : Type} (has : Other → Bool) (rename : Entry → Other)
    (entries : List Entry) (position : Nat) :
    countAhead has (entries.map rename) position = countAhead (has ∘ rename) entries position := by
  rw [countAhead, countAhead, ← List.map_take, List.countP_map]

theorem countAhead_congr {has other : Entry → Bool} {entries : List Entry}
    (same : ∀ entry ∈ entries, has entry = other entry) (position : Nat) :
    countAhead has entries position = countAhead other entries position := by
  refine List.countP_congr fun entry member => ?_
  rw [same entry (List.mem_of_mem_take member)]

/-- The entry at a place of a filtered list has this many others of its kind in
front of it. -/
theorem getElem?_filter_eq_some_iff {has : Entry → Bool} {entries : List Entry} {place : Nat}
    {entry : Entry} :
    (entries.filter has)[place]? = some entry ↔
      ∃ position, entries[position]? = some entry ∧ has entry = true ∧
        countAhead has entries position = place := by
  induction entries generalizing place with
  | nil => simp
  | cons head rest ih =>
      -- The entry stands in front, or one behind its position in the rest.
      have ahead (position : Nat) : countAhead has (head :: rest) (position + 1) =
          countAhead has rest position + if has head then 1 else 0 := by
        rw [countAhead, List.take_succ_cons, List.countP_cons, countAhead]
      have front : countAhead has (head :: rest) 0 = 0 := rfl
      rw [← Nat.or_exists_add_one]
      simp only [ahead, front, List.getElem?_cons_zero, List.getElem?_cons_succ,
        Option.some.injEq]
      cases known : has head with
      | false =>
          have notHead : ¬ (head = entry ∧ has entry = true ∧ 0 = place) := by
            rintro ⟨rfl, has, _⟩
            rw [known] at has
            cases has
          rw [List.filter_cons_of_neg (by simp [known]), ih, or_iff_right notHead]
          simp
      | true =>
          rw [List.filter_cons_of_pos known]
          cases place with
          | zero =>
              have itself : head = entry → has entry = true := by
                rintro rfl
                exact known
              simpa using itself
          | succ place => simp [ih]

theorem countAhead_lt {has : Entry → Bool} {entries : List Entry} {position : Nat}
    {entry : Entry} (found : entries[position]? = some entry) (hasIt : has entry = true) :
    countAhead has entries position < entries.countP has := by
  have placed := getElem?_filter_eq_some_iff.2 ⟨position, found, hasIt, rfl⟩
  rw [List.countP_eq_length_filter]
  exact (List.getElem?_eq_some_iff.1 placed).1

theorem exists_countAhead_eq {has : Entry → Bool} {entries : List Entry} {place : Nat}
    (within : place < entries.countP has) :
    ∃ position entry, entries[position]? = some entry ∧ has entry = true ∧
      countAhead has entries position = place := by
  rw [List.countP_eq_length_filter] at within
  obtain ⟨position, placed⟩ :=
    getElem?_filter_eq_some_iff.1 (List.getElem?_eq_getElem within)
  exact ⟨position, _, placed⟩

end Counting

namespace Rule

variable {rule : PricingRule} {cart : Cart} {position : Nat}

/-- A code is admitted for its characters. -/
theorem admits_congr {code other : Text} (same : code.agrees other = true) :
    rule.admits code = rule.admits other := by
  simp only [admits, Condition.meets,
    Condition.evaluate_text_congr _ (Text.agrees_iff.1 same)]

theorem countAhead_zipIdx (rule : PricingRule) (cart : Cart) :
    countAhead (fun entry : CartItem × Nat => rule.admits entry.1.code) cart.zipIdx =
      countAhead (fun item => rule.admits item.code) cart := by
  funext position
  conv_rhs => rw [← List.zipIdx_map_fst 0 cart]
  exact (countAhead_map (fun item : CartItem => rule.admits item.code) Prod.fst _ _).symm

/-- The matching positions are numbered by the matches ahead of them. -/
theorem getElem?_matching_eq_some_iff {place : Nat} :
    (rule.matching cart)[place]? = some position ↔
      ∃ item, cart[position]? = some item ∧ rule.admits item.code = true ∧
        countAhead (fun item => rule.admits item.code) cart position = place := by
  rw [matching, List.getElem?_map, Option.map_eq_some_iff]
  constructor
  · rintro ⟨entry, placed, rfl⟩
    obtain ⟨index, found, admitted, ahead⟩ := getElem?_filter_eq_some_iff.1 placed
    rw [List.getElem?_zipIdx, Option.map_eq_some_iff] at found
    obtain ⟨item, found, rfl⟩ := found
    rw [Nat.zero_add]
    rw [countAhead_zipIdx] at ahead
    exact ⟨item, found, admitted, ahead⟩
  · rintro ⟨item, found, admitted, ahead⟩
    refine ⟨(item, position), getElem?_filter_eq_some_iff.2 ⟨position, ?_, admitted, ?_⟩, rfl⟩
    · rw [List.getElem?_zipIdx, found, Option.map_some, Nat.zero_add]
    · rw [countAhead_zipIdx, ahead]

/-- The matching positions up to a number are those with fewer matches ahead. -/
theorem mem_take_matching_iff {count : Nat} :
    position ∈ (rule.matching cart).take count ↔
      ∃ item, cart[position]? = some item ∧ rule.admits item.code = true ∧
        countAhead (fun item => rule.admits item.code) cart position < count := by
  simp only [List.mem_iff_getElem?, List.getElem?_take]
  constructor
  · rintro ⟨place, taken⟩
    split at taken
    next within =>
        obtain ⟨item, found, admitted, rfl⟩ := getElem?_matching_eq_some_iff.1 taken
        exact ⟨item, found, admitted, within⟩
    next => cases taken
  · rintro ⟨item, found, admitted, few⟩
    refine ⟨countAhead (fun item => rule.admits item.code) cart position, ?_⟩
    rw [if_pos few]
    exact getElem?_matching_eq_some_iff.2 ⟨item, found, admitted, rfl⟩

/-- A rule picks the entries that it admits, up to its quota. -/
theorem picksAt_iff :
    rule.picksAt cart position = true ↔
      rule.isNoop = false ∧
        (∃ positions, (rule.selectPositions cart).outcome = .ok positions) ∧
        ∃ item, cart[position]? = some item ∧ rule.admits item.code = true ∧
          countAhead (fun item => rule.admits item.code) cart position <
            rule.quota (cart.countP fun item => rule.admits item.code) := by
  have count : (rule.matching cart).length = cart.countP fun item => rule.admits item.code := by
    rw [length_matching, List.countP_eq_length_filter]
  rw [picksAt, ← count, ← mem_take_matching_iff]
  cases acts : rule.isNoop with
  | true => simp [selectPositions_of_noop acts, Reported.done]
  | false =>
      cases ended : (rule.selectPositions cart).outcome with
      | error interruption => simp
      | ok positions => simp [selectPositions_eq_ok acts ended]

/-- The rule has no group condition, or it admits one code at most. -/
def CountsOneCode (rule : PricingRule) : Prop :=
  rule.conditionsOf .xQuantity ≠ [] →
    ∃ condition ∈ rule.conditionsOf .itemCode, condition.operator = .eq

/-- Equality with a text is met by one text only. -/
theorem agrees_of_meets {condition : Condition} (equality : condition.operator = .eq)
    {code other : Text} (meets : condition.meets (.text code) = true)
    (otherMeets : condition.meets (.text other) = true) : other.agrees code = true := by
  obtain ⟨kind, operator, value⟩ := condition
  obtain rfl : operator = .eq := equality
  cases value with
  | text expected =>
      have same : code.agrees expected = true := Except.ok.inj (of_decide_eq_true meets)
      have otherSame : other.agrees expected = true :=
        Except.ok.inj (of_decide_eq_true otherMeets)
      rw [Text.agrees_iff] at same otherSame ⊢
      exact otherSame.trans same.symm
  | integer n | decimal d => cases meets

/-- A rule that counts entries of one code picks an admitted entry for its place
among the entries of its code. -/
theorem countAhead_lt_quota_iff (oneCode : rule.CountsOneCode) {item : CartItem}
    (found : cart[position]? = some item) (admitted : rule.admits item.code = true) :
    let count := cart.countP fun item => rule.admits item.code
    countAhead (fun item => rule.admits item.code) cart position < rule.quota count ↔
      rule.refuses count = false ∧
        (rule.conditionsOf .xQuantity ≠ [] →
          countAhead (fun entry => entry.code.agrees item.code) cart position <
            membersLeft (rule.conditionsOf .xQuantity) count) := by
  intro count
  rw [quota]
  cases rule.refuses count with
  | true => simp
  | false =>
      rw [if_neg Bool.false_ne_true]
      by_cases grouped : rule.conditionsOf .xQuantity = []
      · have within : countAhead (fun item => rule.admits item.code) cart position < count :=
          countAhead_lt found admitted
        simp [grouped, membersLeft, within]
      · obtain ⟨condition, member, equality⟩ := oneCode grouped
        -- Whatever else is admitted has the code of this entry.
        have sameCode (entry : CartItem) :
            rule.admits entry.code = entry.code.agrees item.code := by
          refine Bool.eq_iff_iff.2 ⟨fun entryAdmitted => ?_, fun same => ?_⟩
          · exact agrees_of_meets equality (List.all_eq_true.1 admitted condition member)
              (List.all_eq_true.1 entryAdmitted condition member)
          · rwa [admits_congr same]
        rw [countAhead_congr fun entry _ => sameCode entry]
        simp [grouped]

end Rule

end RetailPricing
