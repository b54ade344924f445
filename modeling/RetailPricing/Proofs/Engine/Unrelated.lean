import RetailPricing.Proofs.Engine.DeclarationOrder
import RetailPricing.Proofs.Engine.Isolation

/-!
# Items that no rule is about

An item whose code every rule turns away may stand anywhere in a cart.  The rules count
and pick the other entries as if it were not there, so they change the other entries
alike, fail alike and break off at the same entry (`unrelated_item_changes_nothing_else`).

The two passes are followed side by side.  The greater cart surrounds the smaller one
(`Surrounds`): an entry of the smaller cart has a place in it, and changing the entry at
its place keeps the one cart around the other.  Rules that select places of what they
select of the smaller cart then make reports that agree but for the cart around
(`PassReport.Repeats`).
-/

namespace RetailPricing

/-- Entries inside of the smaller cart have places in the one around it, where they are
found and can be changed. -/
structure Surrounds (around : Cart → Cart) (place : Nat → Nat) (inside : Nat → Prop) : Prop where
  found : ∀ cart position, inside position → (around cart)[place position]? = cart[position]?
  changed : ∀ cart position item, inside position →
    (around cart).set (place position) item = around (cart.set position item)

/-- The greater report agrees with the smaller one but for the cart around. -/
structure PassReport.Repeats (around : Cart → Cart) (greater smaller : PassReport) : Prop where
  cart : greater.cart = around smaller.cart
  counts : greater.journal.counts = smaller.journal.counts
  failures : greater.failures = smaller.failures
  broken : greater.broken = smaller.broken

/-- What is selected of the greater cart are the places of what is selected of the smaller
one. -/
structure Reported.SelectsPlaces (place : Nat → Nat) (inside : Nat → Prop)
    (greater smaller : Reported Interruption (List Nat)) : Prop where
  outcome : greater.outcome = smaller.outcome.map (List.map place)
  counts : greater.journal.counts = smaller.journal.counts
  inside : ∀ positions, smaller.outcome = .ok positions → ∀ position ∈ positions, inside position

namespace PassReport.Repeats

variable {around : Cart → Cart} {greater smaller : PassReport}

theorem outcome_eq (repeats : Repeats around greater smaller) :
    greater.outcome = smaller.outcome := by
  rw [outcome, outcome, repeats.broken, repeats.failures]

theorem followedBy (repeats : Repeats around greater smaller)
    {next smallerNext : Cart → PassReport}
    (later : Repeats around (next greater.cart) (smallerNext smaller.cart)) :
    Repeats around (greater.followedBy next) (smaller.followedBy smallerNext) := by
  cases ended : smaller.broken with
  | some mishap =>
      rw [followedBy_of_broken ended, followedBy_of_broken (repeats.broken.trans ended)]
      exact repeats
  | none =>
      rw [followedBy_of_complete ended, followedBy_of_complete (repeats.broken.trans ended)]
      refine ⟨later.cart, ?_, ?_, later.broken⟩
      · dsimp only
        rw [Journal.counts_append, Journal.counts_append, repeats.counts, later.counts]
      · dsimp only
        rw [repeats.failures, later.failures]

end PassReport.Repeats

section Runs

variable {around : Cart → Cart} {place : Nat → Nat} {inside : Nat → Prop}
  (surrounds : Surrounds around place inside)

include surrounds

theorem applyAt_around (action : Action) {positions : List Nat}
    (reached : ∀ position ∈ positions, inside position) (cart : Cart) :
    action.applyAt (positions.map place) (around cart) =
      Prod.map around id (action.applyAt positions cart) := by
  induction positions generalizing cart with
  | nil => rfl
  | cons position rest ih =>
      rw [List.forall_mem_cons] at reached
      rw [List.map_cons]
      dsimp only [Action.applyAt]
      rw [surrounds.found cart position reached.1]
      cases cart[position]? with
      | none => exact ih reached.2 cart
      | some item =>
          dsimp only
          cases action.apply item with
          | error mishap => rfl
          | ok changed =>
              dsimp only
              rw [surrounds.changed cart position changed reached.1]
              exact ih reached.2 _

theorem applyActions_around {positions : List Nat}
    (reached : ∀ position ∈ positions, inside position) (actions : List Action) (cart : Cart) :
    applyActions (positions.map place) actions (around cart) =
      (applyActions positions actions cart).mapCart around := by
  induction actions generalizing cart with
  | nil => rfl
  | cons action rest ih =>
      dsimp only [applyActions]
      rw [applyAt_around surrounds action reached, List.length_map]
      obtain ⟨changed, broken⟩ := action.applyAt positions cart
      cases broken with
      | some mishap => rfl
      | none =>
          dsimp only [Prod.map, id]
          rw [ih changed]
          rfl

/-- A rule that selects places changes the entries alike, and nothing around them. -/
theorem tryRule_around
    {select smallerSelect : PricingRule → Cart → Reported Interruption (List Nat)}
    {rule : PricingRule} {cart : Cart} (index : Nat)
    (selects : (select rule (around cart)).SelectsPlaces place inside (smallerSelect rule cart)) :
    (tryRule select index rule (around cart)).Repeats around
      (tryRule smallerSelect index rule cart) := by
  have sameCounts := selects.counts
  dsimp only [tryRule]
  rw [selects.outcome]
  cases ended : (smallerSelect rule cart).outcome with
  | error interruption =>
      cases interruption with
      | signal s => exact ⟨rfl, sameCounts, rfl, rfl⟩
      | comparison fault =>
          refine ⟨rfl, ?_, rfl, rfl⟩
          simp only [Except.map, Journal.counts_append, sameCounts]
  | ok positions =>
      have applied :=
        applyActions_around surrounds (selects.inside positions ended) rule.actions cart
      cases positions with
      | nil =>
          refine ⟨rfl, ?_, rfl, rfl⟩
          simp only [Except.map, List.map_nil, Journal.counts_append, sameCounts]
      | cons position rest =>
          rw [List.map_cons] at applied
          simp only [Except.map, List.map_cons, applied, Progress.mapCart]
          cases (applyActions (position :: rest) rule.actions cart).broken with
          | some mishap =>
              refine ⟨rfl, ?_, rfl, rfl⟩
              simp only [Journal.counts_append, sameCounts]
          | none =>
              refine ⟨rfl, ?_, rfl, rfl⟩
              simp only [Journal.counts_append, sameCounts]
              rfl

/-- Rules that select places in every cart of these products run alike. -/
theorem runRules_around
    {select smallerSelect : PricingRule → Cart → Reported Interruption (List Nat)}
    {rules : List PricingRule} {cart : Cart} (index : Nat)
    (selects : ∀ rule ∈ rules, ∀ other : Cart,
      other.map Item.resetDiscount = cart.map Item.resetDiscount →
        (select rule (around other)).SelectsPlaces place inside (smallerSelect rule other)) :
    (runRules select index rules (around cart)).Repeats around
      (runRules smallerSelect index rules cart) := by
  induction rules generalizing index cart with
  | nil => exact ⟨rfl, rfl, rfl, rfl⟩
  | cons rule rest ih =>
      rw [List.forall_mem_cons] at selects
      have first := tryRule_around surrounds index (selects.1 cart rfl)
      have sameProducts := map_resetDiscount_tryRule smallerSelect index rule cart
      rw [runRules, runRules]
      refine first.followedBy ?_
      rw [first.cart]
      exact ih (index + 1) fun other member otherCart same =>
        selects.2 other member otherCart (same.trans sameProducts)

end Runs

/-! ## Rules that turn an entry away -/

namespace Rule

/-- The rule does nothing, or some code condition of it is false of the code. -/
def TurnsAway (rule : PricingRule) (code : Text) : Prop :=
  rule.isNoop = false →
    ∃ condition ∈ rule.conditionsOf .itemCode, condition.meets (.text code) = false

instance (rule : PricingRule) (code : Text) : Decidable (rule.TurnsAway code) :=
  inferInstanceAs (Decidable (_ → ∃ condition ∈ rule.conditionsOf .itemCode, _))

theorem TurnsAway.admits_eq_false {rule : PricingRule} {code : Text}
    (turned : rule.TurnsAway code) (acts : rule.isNoop = false) : rule.admits code = false := by
  obtain ⟨condition, member, missed⟩ := turned acts
  exact List.all_eq_false.2 ⟨condition, member, Bool.eq_false_iff.1 missed⟩

section Stages

variable {rule : PricingRule}
  (codes : ∀ condition ∈ rule.conditionsOf .itemCode, condition.isIllTyped = false)
  {Entry : Type} (codeOf : Entry → Text)

include codes

/-- Well-typed code conditions leave the admitted entries. -/
theorem outcome_narrowByCode_of_wellTyped (label : Datum) (entries : List Entry) :
    (narrowByCode codeOf label (rule.conditionsOf .itemCode) entries).outcome =
      .ok (entries.filter fun entry => rule.admits (codeOf entry)) := by
  cases ended : (narrowByCode codeOf label (rule.conditionsOf .itemCode) entries).outcome with
  | ok kept => exact congrArg Except.ok (narrowByCode_eq_ok ended)
  | error interruption =>
      have ofCode : ∀ condition ∈ rule.conditionsOf .itemCode, condition.kind = .itemCode :=
        fun condition => kind_of_mem_conditionsOf
      obtain ⟨entry, _, comes⟩ :=
        (exists_narrowByCode_eq_error_iff codeOf label entries ofCode).1 ⟨interruption, ended⟩
      rw [Condition.comesToIllTyped_of_wellTyped codes] at comes
      cases comes

/-- Rows with the same admitted entries are selected from alike. -/
theorem outcome_select_of_filter_eq (acts : rule.isNoop = false) {entries others : List Entry}
    (sameAdmitted : entries.filter (fun entry => rule.admits (codeOf entry)) =
      others.filter fun entry => rule.admits (codeOf entry)) :
    (rule.select codeOf entries).outcome = (rule.select codeOf others).outcome := by
  rw [select, select, acts, if_neg Bool.false_ne_true, if_neg Bool.false_ne_true,
    Reported.outcome_bind, Reported.outcome_bind, outcome_narrowByCode_of_wellTyped codes,
    outcome_narrowByCode_of_wellTyped codes, sameAdmitted]

end Stages

end Rule

/-- Where an entry stands once another one has been inserted at a position. -/
def placeBeside (inserted position : Nat) : Nat :=
  if position < inserted then position else position + 1

theorem getElem?_insertIdx_placeBeside {Entry : Type} (row : List Entry) (inserted : Nat)
    (entry : Entry) (position : Nat) :
    (row.insertIdx inserted entry)[placeBeside inserted position]? = row[position]? := by
  rw [placeBeside]
  split
  next before => exact List.getElem?_insertIdx_of_lt before
  next behind =>
      rw [List.getElem?_insertIdx_of_gt (by omega), Nat.add_sub_cancel]

/-- An entry that is filtered out makes no difference to what is left. -/
theorem filter_insertIdx_of_false {Entry : Type} (keeps : Entry → Bool) {entry : Entry}
    (dropped : keeps entry = false) (row : List Entry) (inserted : Nat) :
    (row.insertIdx inserted entry).filter keeps = row.filter keeps := by
  induction row generalizing inserted with
  | nil =>
      cases inserted with
      | zero => simp [dropped]
      | succ inserted => simp
  | cons first rest ih =>
      cases inserted with
      | zero => simp [dropped]
      | succ inserted => simp [List.filter_cons, ih]

theorem zipIdx_insertIdx {Entry : Type} {row : List Entry} {inserted : Nat}
    (within : inserted ≤ row.length) (entry : Entry) :
    (row.insertIdx inserted entry).zipIdx =
      (row.zipIdx.map (Prod.map id (placeBeside inserted))).insertIdx inserted
        (entry, inserted) := by
  refine List.ext_getElem? fun position => ?_
  rw [List.getElem?_zipIdx, Nat.zero_add]
  rcases Nat.lt_trichotomy position inserted with before | rfl | behind
  · rw [List.getElem?_insertIdx_of_lt before, List.getElem?_insertIdx_of_lt before,
      List.getElem?_map, List.getElem?_zipIdx, Option.map_map]
    simp [Function.comp_def, placeBeside, before]
  · rw [List.getElem?_insertIdx_self, List.getElem?_insertIdx_self, List.length_map,
      List.length_zipIdx, if_pos within, if_pos within, Option.map_some]
  · obtain ⟨previous, rfl⟩ := Nat.exists_eq_add_of_lt behind
    rw [List.getElem?_insertIdx_of_gt behind, List.getElem?_insertIdx_of_gt behind,
      List.getElem?_map, List.getElem?_zipIdx, Option.map_map]
    simp [Function.comp_def, placeBeside]

namespace Rule

/-- What a rule selects of a cart are positions of entries that it admits. -/
theorem exists_admitted_of_selected {rule : PricingRule} {cart : Cart} {positions : List Nat}
    (selected : (rule.selectPositions cart).outcome = .ok positions) {position : Nat}
    (member : position ∈ positions) :
    rule.isNoop = false ∧
      ∃ item, cart[position]? = some item ∧ rule.admits item.code = true := by
  have picked : rule.picksAt cart position = true := by
    rw [picksAt, selected]
    exact decide_eq_true member
  obtain ⟨acts, _, item, found, admitted, _⟩ := picksAt_iff.1 picked
  exact ⟨acts, item, found, admitted⟩

theorem outcome_selectPositions (rule : PricingRule) (cart : Cart) :
    (rule.selectPositions cart).outcome =
      (rule.select (fun entry : CartItem × Nat => entry.1.code) cart.zipIdx).outcome.map
        (List.map Prod.snd) := by
  rw [selectPositions, Reported.outcome_bind]
  cases (rule.select (fun entry : CartItem × Nat => entry.1.code) cart.zipIdx).outcome with
  | ok selected => rfl
  | error interruption => rfl

/-- A rule selects the same entries of a cart with one inserted that it turns away. -/
theorem selectPositions_insertIdx {rule : PricingRule}
    (codes : ∀ condition ∈ rule.conditionsOf .itemCode, condition.isIllTyped = false)
    {item : CartItem} (turned : rule.TurnsAway item.code) {cart : Cart} {inserted : Nat}
    (within : inserted ≤ cart.length) :
    (rule.selectPositions (cart.insertIdx inserted item)).outcome =
      (rule.selectPositions cart).outcome.map (List.map (placeBeside inserted)) := by
  cases acts : rule.isNoop with
  | true =>
      rw [selectPositions_of_noop acts, selectPositions_of_noop acts]
      rfl
  | false =>
      let entryCode : CartItem × Nat → Text := fun entry => entry.1.code
      let moved : CartItem × Nat → CartItem × Nat := Prod.map id (placeBeside inserted)
      have dropped : rule.admits (entryCode (item, inserted)) = false :=
        turned.admits_eq_false acts
      have sameAdmitted : (cart.insertIdx inserted item).zipIdx.filter
            (fun entry => rule.admits (entryCode entry)) =
          (cart.zipIdx.map moved).filter fun entry => rule.admits (entryCode entry) := by
        rw [zipIdx_insertIdx within]
        exact filter_insertIdx_of_false (fun entry => rule.admits (entryCode entry)) dropped _ _
      have sameCodes : ∀ entry, (entryCode (moved entry)).content = (entryCode entry).content :=
        fun _ => rfl
      rw [outcome_selectPositions, outcome_selectPositions,
        outcome_select_of_filter_eq codes entryCode acts sameAdmitted,
        select_map sameCodes]
      cases ended : (rule.select entryCode cart.zipIdx).outcome with
      | error interruption => simp [Reported.mapResult, ended, Except.map]
      | ok selected => simp [Reported.mapResult, ended, Except.map, moved, Function.comp_def]

end Rule

/-! ## Carts with one more item -/

theorem entriesAt_insertIdx {entries : List Nat} {items : Cart} {place : Nat} {item : CartItem}
    (present : ∀ position ∈ entries, position < items.length)
    (found : items[place]? = some item) (inserted : Nat) :
    entriesAt (entries.insertIdx inserted place) items =
      (entriesAt entries items).insertIdx inserted item := by
  induction entries generalizing inserted with
  | nil =>
      cases inserted with
      | zero => simp [entriesAt, found]
      | succ inserted => simp [entriesAt]
  | cons position rest ih =>
      rw [List.forall_mem_cons] at present
      cases inserted with
      | zero => simp [entriesAt, found]
      | succ inserted =>
          have rested := ih present.2 inserted
          rw [entriesAt, entriesAt] at rested
          simp [entriesAt, List.getElem?_eq_getElem present.1, rested]

theorem placeBeside_succ (inserted position : Nat) :
    placeBeside (inserted + 1) (position + 1) = placeBeside inserted position + 1 := by
  rw [placeBeside, placeBeside]
  split <;> split <;> omega

theorem set_insertIdx_placeBeside {Entry : Type} (row : List Entry) (inserted position : Nat)
    (entry changed : Entry) :
    (row.insertIdx inserted entry).set (placeBeside inserted position) changed =
      (row.set position changed).insertIdx inserted entry := by
  induction row generalizing inserted position with
  | nil =>
      cases inserted with
      | zero => simp [placeBeside]
      | succ inserted => simp
  | cons first rest ih =>
      cases inserted with
      | zero => simp [placeBeside]
      | succ inserted =>
          cases position with
          | zero => simp [placeBeside]
          | succ position => simp [placeBeside_succ, ih]

theorem surrounds_insertIdx (inserted : Nat) (item : CartItem) :
    Surrounds (fun others => others.insertIdx inserted item) (placeBeside inserted)
      fun _ => True where
  found cart position _ := getElem?_insertIdx_placeBeside cart inserted item position
  changed cart position changed _ := set_insertIdx_placeBeside cart inserted position item changed

/-- A cart surrounds itself with one item changed, as far as the other items go. -/
theorem surrounds_set (place : Nat) (item : CartItem) :
    Surrounds (fun others => others.set place item) id fun position => position ≠ place where
  found _ _ different := List.getElem?_set_ne different.symm
  changed _ _ _ different := List.set_comm _ _ different.symm

theorem Rule.selectsPlaces_selectAmong {rule : PricingRule} {item : CartItem}
    (codes : ∀ condition ∈ rule.conditionsOf .itemCode, condition.isIllTyped = false)
    (turned : rule.TurnsAway item.code) {entries : List Nat} {items : Cart} {place inserted : Nat}
    (present : ∀ position ∈ entries, position < items.length)
    (found : items[place]? = some item) (within : inserted ≤ entries.length) :
    (rule.selectAmong (entries.insertIdx inserted place)
        (items.set place item.resetDiscount)).SelectsPlaces
      id (fun position => position ≠ place) (rule.selectAmong entries items) := by
  have sameProducts : (items.set place item.resetDiscount).map Item.resetDiscount =
      items.map Item.resetDiscount :=
    ((Continues.refl items).set found found Item.Adjusted.unchanged.reset).map_resetDiscount_eq
      List.length_set
  have sameSelection := rule.selectPositions_eq_of_map_resetDiscount_eq
    (entriesAt_sameProducts (entries.insertIdx inserted place) sameProducts)
  have withinEntries : inserted ≤ (entriesAt entries items).length :=
    within.trans_eq (length_entriesAt present).symm
  have selected := selectPositions_insertIdx codes turned withinEntries
  rw [entriesAt_insertIdx present found] at sameSelection
  refine ⟨?_, ?_, ?_⟩
  · dsimp only [selectAmong, Reported.mapResult]
    rw [sameSelection, selected]
    cases (rule.selectPositions (entriesAt entries items)).outcome with
    | error interruption => rfl
    | ok positions =>
        simp [Except.map, List.filterMap_map, getElem?_insertIdx_placeBeside]
  · exact (rule.picks_selectPositions _).uncounted.trans
      (rule.picks_selectPositions (entriesAt entries items)).uncounted.symm
  · intro picked ended position member same
    subst same
    obtain ⟨positions, selectedHere, rfl⟩ := Outcome.map_eq_ok_iff.1 ended
    obtain ⟨index, indexMember, entryAt⟩ := List.mem_filterMap.1 member
    obtain ⟨acts, entry, entryFound, admitted⟩ :=
      exists_admitted_of_selected selectedHere indexMember
    rw [getElem?_entriesAt present, entryAt, Option.bind_some, found] at entryFound
    obtain rfl := Option.some.inj entryFound
    rw [turned.admits_eq_false acts] at admitted
    cases admitted

/-- The items with those reset to which the cart with the entry refers. -/
theorem mapIdx_insertIdx {entries : List Nat} {items : Cart} {item : CartItem}
    {place inserted : Nat} (found : items[place]? = some item)
    (within : inserted ≤ entries.length) :
    (items.mapIdx fun position entry =>
        if position ∈ entries.insertIdx inserted place then entry.resetDiscount else entry) =
      (items.mapIdx fun position entry =>
        if position ∈ entries then entry.resetDiscount else entry).set place
          item.resetDiscount := by
  refine List.ext_getElem? fun position => ?_
  by_cases here : position = place
  · subst here
    obtain ⟨present, rfl⟩ := List.getElem?_eq_some_iff.1 found
    simp [List.mem_insertIdx within, present]
  · rw [List.getElem?_set_ne (Ne.symm here)]
    simp [List.mem_insertIdx within, here]

section Passes

variable {rules : List PricingRule} {item : CartItem}
  (codes : ∀ rule ∈ rules, ∀ condition ∈ rule.conditionsOf .itemCode,
    condition.isIllTyped = false)
  (turned : ∀ rule ∈ rules, rule.TurnsAway item.code)

include codes turned

theorem repeats_pass {cart : Cart} {inserted : Nat} (within : inserted ≤ cart.length) :
    (pass rules (cart.insertIdx inserted item)).Repeats
      (fun others => others.insertIdx inserted item.resetDiscount) (pass rules cart) := by
  have selects : ∀ rule ∈ rules, ∀ other : Cart,
      other.map Item.resetDiscount = (cart.map Item.resetDiscount).map Item.resetDiscount →
        (rule.selectPositions (other.insertIdx inserted item.resetDiscount)).SelectsPlaces
          (placeBeside inserted) (fun _ => True) (rule.selectPositions other) := by
    intro rule member other sameProducts
    have sameLength : other.length = cart.length := by
      simpa using congrArg List.length sameProducts
    have resetTurned : rule.TurnsAway item.resetDiscount.code := turned rule member
    refine ⟨?_, ?_, fun _ _ _ _ => trivial⟩
    · exact Rule.selectPositions_insertIdx (codes rule member) resetTurned
        (within.trans_eq sameLength.symm)
    · exact (rule.picks_selectPositions _).uncounted.trans
        (rule.picks_selectPositions other).uncounted.symm
  have repeats := runRules_around (surrounds_insertIdx inserted item.resetDiscount) 0 selects
  rw [pass, List.map_insertIdx]
  refine ⟨repeats.cart, ?_, repeats.failures, repeats.broken⟩
  rw [pass, Journal.counts_append, Journal.counts_append, repeats.counts]

/-- The same for a cart that refers to items of a list, to which it may refer before. -/
theorem repeats_passOver {entries : List Nat} {items : Cart} {place inserted : Nat}
    (present : ∀ position ∈ entries, position < items.length)
    (found : items[place]? = some item) (within : inserted ≤ entries.length) :
    (passOver (entries.insertIdx inserted place) rules items).Repeats
      (fun others => others.set place item.resetDiscount) (passOver entries rules items) := by
  have selects : ∀ rule ∈ rules, ∀ other : Cart,
      other.map Item.resetDiscount =
          (items.mapIdx fun position entry =>
            if position ∈ entries then entry.resetDiscount else entry).map Item.resetDiscount →
        (rule.selectAmong (entries.insertIdx inserted place)
            (other.set place item.resetDiscount)).SelectsPlaces
          id (fun position => position ≠ place) (rule.selectAmong entries other) := by
    intro rule member other sameProducts
    rw [map_resetDiscount_mapIdx] at sameProducts
    have sameLength : other.length = items.length := by
      simpa using congrArg List.length sameProducts
    have atPlace := congrArg (·[place]?) sameProducts
    simp only [List.getElem?_map, found, Option.map_some, Option.map_eq_some_iff] at atPlace
    obtain ⟨current, currentFound, sameProduct⟩ := atPlace
    have currentTurned : rule.TurnsAway current.code := by
      rw [show current.code = current.resetDiscount.code from rfl, sameProduct]
      exact turned rule member
    rw [← sameProduct]
    exact Rule.selectsPlaces_selectAmong (codes rule member) currentTurned
      (fun position inCart => (present position inCart).trans_eq sameLength.symm) currentFound
      within
  have repeats := runRules_around (surrounds_set place item.resetDiscount) 0 selects
  rw [passOver, mapIdx_insertIdx found within]
  refine ⟨repeats.cart, ?_, repeats.failures, repeats.broken⟩
  rw [passOver, Journal.counts_append, Journal.counts_append, repeats.counts]

end Passes

/-- Take rules with well-typed code conditions and an item that every rule turns away.
Wherever the item is inserted into a cart, the pass ends as without it: it returns, tells of
the same failed rules, or breaks off with the same signal after counting the same.  The
other entries are left as without it, and the item without discount.  This holds of carts
of distinct entries and of carts that refer to items of a list, to one item several times
or to the inserted one before. -/
theorem unrelated_item_changes_nothing_else (rules : List PricingRule) (item : CartItem)
    (codes : ∀ rule ∈ rules, ∀ condition ∈ rule.conditionsOf .itemCode,
      condition.isIllTyped = false)
    (turned : ∀ rule ∈ rules, rule.TurnsAway item.code) :
    (∀ (cart : Cart) (inserted : Nat), inserted ≤ cart.length →
      let without := pass rules cart
      let report := pass rules (cart.insertIdx inserted item)
      report.outcome = without.outcome ∧
        report.Repeats (fun others => others.insertIdx inserted item.resetDiscount) without ∧
        report.cart[inserted]?.map Item.discount = some .zero) ∧
      ∀ (items : Cart) (entries : List Nat) (place inserted : Nat),
        (∀ position ∈ entries, position < items.length) → items[place]? = some item →
        inserted ≤ entries.length →
        let without := passOver entries rules items
        let report := passOver (entries.insertIdx inserted place) rules items
        report.outcome = without.outcome ∧
          report.Repeats (fun others => others.set place item.resetDiscount) without ∧
          report.cart[place]?.map Item.discount = some .zero := by
  constructor
  · intro cart inserted within without report
    have repeats := repeats_pass codes turned within
    refine ⟨repeats.outcome_eq, repeats, ?_⟩
    rw [repeats.cart, List.getElem?_insertIdx_self, length_pass, if_pos within]
    rfl
  · intro items entries place inserted present found within without report
    have repeats := repeats_passOver codes turned present found within
    have inItems : place < without.cart.length := by
      rw [length_passOver]
      exact (List.getElem?_eq_some_iff.1 found).1
    refine ⟨repeats.outcome_eq, repeats, ?_⟩
    rw [repeats.cart, List.getElem?_set_self inItems]
    rfl

/-- An offer for all but mugs that compares the number of entries with a text. -/
def wordyBundleOffer : PricingRule :=
  ⟨[⟨.itemCode, .neq, .text (.plain "MUG")⟩, ⟨.quantityTotal, .eq, .text (.plain "two")⟩],
    [⟨.fixedPrice, .ofInt 2⟩], .null⟩

theorem mug_changes_nothing_else :
    let rules := [bundleOffer, wordyBundleOffer, ⟨[], [], .null⟩, capBundle]
    let cart := ["CAP", "PEN", "CAP", "CAP", "PEN"].map product
    let mug := product "MUG"
    (∀ rule ∈ rules, ∀ condition ∈ rule.conditionsOf .itemCode, condition.isIllTyped = false) ∧
      (∀ rule ∈ rules, rule.TurnsAway mug.code) ∧
      (pass rules (cart.insertIdx 2 mug)).outcome = (pass rules cart).outcome ∧
      (pass rules (cart.insertIdx 2 mug)).cart = (pass rules cart).cart.insertIdx 2 mug ∧
      (passOver [0, 5, 2, 0, 3] rules (cart ++ [mug])).cart =
        (passOver [0, 2, 0, 3] rules (cart ++ [mug])).cart.set 5 mug := by
  intro rules cart mug
  have codes : ∀ rule ∈ rules, ∀ condition ∈ rule.conditionsOf .itemCode,
      condition.isIllTyped = false := by decide
  have turned : ∀ rule ∈ rules, rule.TurnsAway mug.code := by decide
  obtain ⟨inserted, shared⟩ := unrelated_item_changes_nothing_else rules mug codes turned
  obtain ⟨sameOutcome, repeats, _⟩ := inserted cart 2 (by decide)
  obtain ⟨_, sharedRepeats, _⟩ :=
    shared (cart ++ [mug]) [0, 2, 0, 3] 5 1 (by decide) rfl (by decide)
  exact ⟨codes, turned, sameOutcome, repeats.cart, sharedRepeats.cart⟩

end RetailPricing
