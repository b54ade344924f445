import RetailPricing.Proofs.Engine.Ranks

/-!
# The order of scans

Putting the entries of a cart in another order changes which of them a group
condition reaches.  It does not change what the entries of one code get, one after
the other, as long as they have one price and each rule counts entries of one code:

* a rule that cannot be evaluated for a cart cannot be evaluated for any order of
  it, with the same fault, because what stops it is told by the condition and by
  whether anything is left to ask it about;
* a rule picks an entry for its code and its place among the entries of that code
  (`picksAt_of_sameStanding`), and these exist in every order of the cart.
-/

namespace RetailPricing

/-- A condition has an answer for every text, or one fault for all of them. -/
theorem Condition.evaluate_text_uniform (condition : Condition) :
    (∀ t, ∃ meets, condition.evaluate (.text t) = .ok meets) ∨
      ∃ fault, ∀ t, condition.evaluate (.text t) = .error fault := by
  obtain ⟨kind, operator, value⟩ := condition
  cases value with
  | text expected =>
      cases operator with
      | eq | neq => exact .inl fun t => ⟨_, rfl⟩
      | gt | lt | gte | lte => exact .inr ⟨_, fun t => rfl⟩
  | integer n =>
      exact .inr ⟨.comparison (.differentTypes operator .text .integer), fun t => rfl⟩
  | decimal d =>
      exact .inr ⟨.comparison (.differentTypes operator .text .decimal), fun t => rfl⟩

namespace Rule

section Stages

variable {Entry : Type} {codeOf : Entry → Text} {entries others : List Entry}
  {interruption : Interruption}

theorem exists_meetingCode_eq_ok {condition : Condition}
    (answers : ∀ t, ∃ meets, condition.evaluate (.text t) = .ok meets) (entries : List Entry) :
    ∃ kept, meetingCode codeOf condition entries = .ok kept := by
  induction entries with
  | nil => exact ⟨[], rfl⟩
  | cons entry rest ih =>
      obtain ⟨meets, evaluated⟩ := answers (codeOf entry)
      obtain ⟨kept, filtered⟩ := ih
      rw [meetingCode, evaluated, filtered]
      exact ⟨_, rfl⟩

theorem meetingCode_error_perm {condition : Condition} (perm : entries.Perm others)
    (stopped : meetingCode codeOf condition entries = .error interruption) :
    meetingCode codeOf condition others = .error interruption := by
  rcases condition.evaluate_text_uniform with answers | ⟨fault, stops⟩
  · have answered : ∃ kept, meetingCode codeOf condition entries = .ok kept :=
      exists_meetingCode_eq_ok answers entries
    obtain ⟨kept, filtered⟩ := answered
    rw [filtered] at stopped
    cases stopped
  · -- The first entry stops it, whichever that is.
    have stopsAtFirst (first : Entry) (rest : List Entry) :
        meetingCode codeOf condition (first :: rest) = .error fault := by
      rw [meetingCode, stops]
      rfl
    cases entries with
    | nil => cases stopped
    | cons entry rest =>
        cases others with
        | nil => cases perm.eq_nil
        | cons other more => rwa [stopsAtFirst] at stopped ⊢

theorem meetingCode_ok_perm {condition : Condition} (perm : entries.Perm others)
    {kept : List Entry} (filtered : meetingCode codeOf condition entries = .ok kept) :
    ∃ otherKept, meetingCode codeOf condition others = .ok otherKept ∧ kept.Perm otherKept := by
  cases asked : meetingCode codeOf condition others with
  | error fault =>
      rw [meetingCode_error_perm perm.symm asked] at filtered
      cases filtered
  | ok otherKept =>
      refine ⟨otherKept, rfl, ?_⟩
      rw [meetingCode_eq_ok filtered, meetingCode_eq_ok asked]
      exact perm.filter _

theorem narrowByCode_error_perm {label : Datum} {conditions : List Condition}
    (perm : entries.Perm others)
    (stopped : (narrowByCode codeOf label conditions entries).outcome = .error interruption) :
    (narrowByCode codeOf label conditions others).outcome = .error interruption := by
  induction conditions generalizing entries others with
  | nil => cases stopped
  | cons condition rest ih =>
      rw [narrowByCode, Reported.outcome_bind_eq_error_iff] at stopped ⊢
      rcases stopped with here | ⟨kept, filtered, later⟩
      · exact .inl (meetingCode_error_perm perm here)
      · obtain ⟨otherKept, otherFiltered, keptPerm⟩ := meetingCode_ok_perm perm filtered
        rcases Reported.outcome_bind_eq_error_iff.1 later with noted | ⟨_, _, rested⟩
        · cases noted
        · exact .inr ⟨otherKept, otherFiltered, Reported.outcome_bind_eq_error_iff.2
            (.inr ⟨(), rfl, ih keptPerm rested⟩)⟩

theorem narrowByCode_ok_perm {label : Datum} {conditions : List Condition}
    (perm : entries.Perm others) {kept : List Entry}
    (narrowed : (narrowByCode codeOf label conditions entries).outcome = .ok kept) :
    ∃ otherKept, (narrowByCode codeOf label conditions others).outcome = .ok otherKept ∧
      kept.Perm otherKept := by
  cases ended : (narrowByCode codeOf label conditions others).outcome with
  | error fault =>
      rw [narrowByCode_error_perm perm.symm ended] at narrowed
      cases narrowed
  | ok otherKept =>
      refine ⟨otherKept, rfl, ?_⟩
      rw [narrowByCode_eq_ok narrowed, narrowByCode_eq_ok ended]
      exact perm.filter _

theorem gateByQuantity_error_of_length {label : Datum} {conditions : List Condition}
    (sameLength : entries.length = others.length)
    (stopped : (gateByQuantity label conditions entries).outcome = .error interruption) :
    (gateByQuantity label conditions others).outcome = .error interruption := by
  -- The entries themselves are not looked at: any list of this length is stopped alike.
  have unnamed (list : List Entry) :
      (gateByQuantity label conditions list).outcome = .error interruption ↔
        (gateByQuantity label conditions (List.replicate list.length ())).outcome =
          .error interruption := by
    rw [← List.map_const', gateByQuantity_map, Reported.outcome_mapResult_eq_error_iff]
  rw [unnamed, ← sameLength]
  exact (unnamed entries).1 stopped

theorem select_error_perm {rule : PricingRule} (perm : entries.Perm others)
    (stopped : (rule.select codeOf entries).outcome = .error interruption) :
    (rule.select codeOf others).outcome = .error interruption := by
  rw [select] at stopped ⊢
  split at stopped
  · cases stopped
  next acts =>
      rw [if_neg acts, Reported.outcome_bind_eq_error_iff]
      rcases Reported.outcome_bind_eq_error_iff.1 stopped with byCode | ⟨kept, narrowed, later⟩
      · exact .inl (narrowByCode_error_perm perm byCode)
      · obtain ⟨otherKept, otherNarrowed, keptPerm⟩ := narrowByCode_ok_perm perm narrowed
        rcases Reported.outcome_bind_eq_error_iff.1 later with gate | ⟨gated, _, groups⟩
        · exact .inr ⟨otherKept, otherNarrowed, Reported.outcome_bind_eq_error_iff.2
            (.inl (gateByQuantity_error_of_length keptPerm.length_eq gate))⟩
        · -- Groups are taken of whatever is left.
          rw [outcome_narrowByGroups] at groups
          cases groups

end Stages

variable {rule : PricingRule} {cart other : Cart}

/-- A selection is stopped by what stops it for the codes of the cart. -/
theorem selectPositions_eq_error_iff {interruption : Interruption} :
    (rule.selectPositions cart).outcome = .error interruption ↔
      (rule.select id (cart.map Item.code)).outcome = .error interruption := by
  let entryCode : CartItem × Nat → Text := fun entry => entry.1.code
  have codes : cart.map Item.code = cart.zipIdx.map entryCode := by
    conv_lhs => rw [← List.zipIdx_map_fst 0 cart, List.map_map]
    rfl
  have sameCodes : ∀ entry, (id (entryCode entry)).content = (entryCode entry).content :=
    fun _ => rfl
  rw [codes, select_map sameCodes, Reported.outcome_mapResult_eq_error_iff, selectPositions,
    Reported.outcome_bind_eq_error_iff]
  exact or_iff_left (by rintro ⟨_, _, ⟨⟩⟩)

theorem selectPositions_error_perm {interruption : Interruption} (perm : cart.Perm other)
    (stopped : (rule.selectPositions cart).outcome = .error interruption) :
    (rule.selectPositions other).outcome = .error interruption := by
  rw [selectPositions_eq_error_iff] at stopped ⊢
  exact select_error_perm (perm.map Item.code) stopped

theorem selectPositions_ok_perm {positions : List Nat} (perm : cart.Perm other)
    (selected : (rule.selectPositions cart).outcome = .ok positions) :
    ∃ otherPositions, (rule.selectPositions other).outcome = .ok otherPositions := by
  cases ended : (rule.selectPositions other).outcome with
  | error interruption =>
      rw [selectPositions_error_perm perm.symm ended] at selected
      cases selected
  | ok otherPositions => exact ⟨otherPositions, rfl⟩

theorem failure?_perm (rule : PricingRule) (perm : cart.Perm other) (index : Nat) :
    rule.failure? cart index = rule.failure? other index := by
  rw [failure?, failure?]
  cases ended : (rule.selectPositions cart).outcome with
  | error interruption => rw [selectPositions_error_perm perm ended]
  | ok positions =>
      obtain ⟨otherPositions, otherEnded⟩ := selectPositions_ok_perm perm ended
      rw [otherEnded]

end Rule

theorem failuresAmong_perm {cart other : Cart} (perm : cart.Perm other) (index : Nat)
    (rules : List PricingRule) :
    failuresAmong cart index rules = failuresAmong other index rules := by
  induction rules generalizing index with
  | nil => rfl
  | cons rule rest ih => rw [failuresAmong, failuresAmong, rule.failure?_perm perm, ih]

/-! ## Entries that stand alike -/

/-- How many entries of a code are in front of a position. -/
def sameCodeAhead (code : Text) : Cart → Nat → Nat :=
  countAhead fun item => item.code.agrees code

theorem sameCodeAhead_congr {code other : Text} (same : code.agrees other = true) :
    sameCodeAhead code = sameCodeAhead other := by
  have sameTest (item : CartItem) : item.code.agrees code = item.code.agrees other := by
    rw [Text.agrees, Text.agrees, Text.agrees_iff.1 same]
  unfold sameCodeAhead
  simp only [sameTest]

/-- Two entries of two carts have one code, and as many entries of this code in
front of them. -/
structure SameStanding (cart other : Cart) (position place : Nat) (item entry : CartItem) :
    Prop where
  found : cart[position]? = some item
  otherFound : other[place]? = some entry
  sameCode : item.code.agrees entry.code = true
  sameAhead : sameCodeAhead item.code cart position = sameCodeAhead entry.code other place

section Standing

variable {cart other : Cart} {position place : Nat} {item entry : CartItem}

theorem SameStanding.symm (same : SameStanding cart other position place item entry) :
    SameStanding other cart place position entry item :=
  ⟨same.otherFound, same.found, by rw [Text.agrees_comm]; exact same.sameCode,
    same.sameAhead.symm⟩

theorem exists_sameStanding (perm : cart.Perm other) (found : cart[position]? = some item) :
    ∃ place entry, SameStanding cart other position place item entry := by
  have ahead : sameCodeAhead item.code cart position <
      other.countP fun entry => entry.code.agrees item.code := by
    rw [← perm.countP_eq]
    exact countAhead_lt found (Text.agrees_refl item.code)
  obtain ⟨place, entry, otherFound, sameCode, sameAhead⟩ := exists_countAhead_eq ahead
  refine ⟨place, entry, found, otherFound, by rwa [Text.agrees_comm], ?_⟩
  rw [← sameAhead, sameCodeAhead_congr sameCode]
  rfl

theorem picksAt_of_sameStanding {rule : PricingRule} (oneCode : rule.CountsOneCode)
    (perm : cart.Perm other) (same : SameStanding cart other position place item entry)
    (picks : rule.picksAt cart position = true) : rule.picksAt other place = true := by
  rw [Rule.picksAt_iff] at picks ⊢
  obtain ⟨acts, ⟨positions, selected⟩, found, present, admitted, ahead⟩ := picks
  obtain rfl := Option.some.inj (same.found.symm.trans present)
  have entryAdmitted : rule.admits entry.code = true := by
    rwa [← Rule.admits_congr same.sameCode]
  refine ⟨acts, Rule.selectPositions_ok_perm perm selected, entry, same.otherFound,
    entryAdmitted, ?_⟩
  -- All counted entries have the code, so the place among them is the place among the
  -- entries of the code, which is what both carts share.
  obtain ⟨accepted, early⟩ :=
    (Rule.countAhead_lt_quota_iff oneCode same.found admitted).1 ahead
  refine (Rule.countAhead_lt_quota_iff oneCode same.otherFound entryAdmitted).2 ?_
  rw [← perm.countP_eq]
  exact ⟨accepted, fun grouped => same.sameAhead.symm.trans_lt (early grouped)⟩

theorem actionsReaching_eq_of_sameStanding {rules : List PricingRule}
    (oneCode : ∀ rule ∈ rules, rule.CountsOneCode) (perm : cart.Perm other)
    (same : SameStanding cart other position place item entry) :
    actionsReaching rules cart position = actionsReaching rules other place := by
  rw [actionsReaching_eq_flatMap, actionsReaching_eq_flatMap]
  congr 1
  refine List.filter_congr fun rule member => Bool.eq_iff_iff.2 ?_
  exact ⟨picksAt_of_sameStanding (oneCode rule member) perm same,
    picksAt_of_sameStanding (oneCode rule member) perm.symm same.symm⟩

end Standing

/-- Entries of one code have one price. -/
def PricedByCode (cart : Cart) : Prop :=
  ∀ item ∈ cart, ∀ entry ∈ cart, item.code.agrees entry.code = true → item.price = entry.price

/-- The discounts of the entries of a code, in the order of the cart. -/
def discountsOf (code : Text) (cart : Cart) : List Number :=
  (cart.filter fun item => item.code.agrees code).map Item.discount

section Passes

variable {rules : List PricingRule} {cart other : Cart}

theorem SameStanding.price_eq {position place : Nat} {item entry : CartItem}
    (same : SameStanding cart other position place item entry) (perm : cart.Perm other)
    (priced : PricedByCode cart) : item.price = entry.price :=
  priced item (List.mem_of_getElem? same.found) entry
    (perm.mem_iff.2 (List.mem_of_getElem? same.otherFound)) same.sameCode

theorem overflows_perm (oneCode : ∀ rule ∈ rules, rule.CountsOneCode)
    (priced : PricedByCode cart) (perm : cart.Perm other) (overflows : Overflows rules cart) :
    Overflows rules other := by
  obtain ⟨position, item, found, overflowed⟩ := overflows
  obtain ⟨place, entry, same⟩ := exists_sameStanding perm found
  refine ⟨place, entry, same.otherFound, ?_⟩
  rwa [← actionsReaching_eq_of_sameStanding oneCode perm same, ← same.price_eq perm priced]

theorem PricedByCode.perm (priced : PricedByCode cart) (perm : cart.Perm other) :
    PricedByCode other := fun item member entry entryMember =>
  priced item (perm.mem_iff.2 member) entry (perm.mem_iff.2 entryMember)

theorem outcome_pass_perm (oneCode : ∀ rule ∈ rules, rule.CountsOneCode)
    (priced : PricedByCode cart) (perm : cart.Perm other) :
    (pass rules cart).outcome = (pass rules other).outcome := by
  rcases broken_pass rules cart with ⟨complete, fits⟩ | ⟨broken, overflows⟩
  · rcases broken_pass rules other with ⟨otherComplete, _⟩ | ⟨_, overflows⟩
    · rw [PassReport.outcome_of_complete complete, PassReport.outcome_of_complete otherComplete,
        failures_pass_of_complete complete, failures_pass_of_complete otherComplete,
        failuresAmong_perm perm]
    · exact absurd (overflows_perm oneCode (priced.perm perm) perm.symm overflows) fits
  · rcases broken_pass rules other with ⟨_, fits⟩ | ⟨otherBroken, _⟩
    · exact absurd (overflows_perm oneCode priced perm overflows) fits
    · rw [PassReport.outcome_of_broken broken, PassReport.outcome_of_broken otherBroken]

/-- A pass keeps the codes, so it keeps the places among equals. -/
theorem sameCodeAhead_pass (rules : List PricingRule) (cart : Cart) (code : Text)
    (position : Nat) :
    sameCodeAhead code (pass rules cart).cart position = sameCodeAhead code cart position := by
  have undiscounted (entries : Cart) : sameCodeAhead code entries position =
      sameCodeAhead code (entries.map Item.resetDiscount) position :=
    (countAhead_map (fun item : CartItem => item.code.agrees code) Item.resetDiscount _ _).symm
  rw [undiscounted, map_resetDiscount_pass, ← undiscounted]

theorem getElem?_discountsOf_pass_iff (complete : (pass rules cart).broken = none) {code : Text}
    {rank : Nat} {discount : Number} :
    (discountsOf code (pass rules cart).cart)[rank]? = some discount ↔
      ∃ position item granted, cart[position]? = some item ∧ item.code.agrees code = true ∧
        sameCodeAhead code cart position = rank ∧
        Action.discountAfterAll (actionsReaching rules cart position) item.price .zero =
          .ok granted ∧
        discount = .ofAmount granted := by
  rw [discountsOf, List.getElem?_map, Option.map_eq_some_iff]
  constructor
  · rintro ⟨final, placed, rfl⟩
    obtain ⟨position, present, ofCode, ahead⟩ := getElem?_filter_eq_some_iff.1 placed
    have within : position < cart.length := by
      rw [← length_pass rules cart]
      exact (List.getElem?_eq_some_iff.1 present).1
    obtain ⟨granted, folded, left⟩ :=
      getElem?_pass_of_complete complete (List.getElem?_eq_getElem within)
    obtain rfl := Option.some.inj (present.symm.trans left)
    exact ⟨position, cart[position], granted, List.getElem?_eq_getElem within, ofCode,
      (sameCodeAhead_pass rules cart code position).symm.trans ahead, folded, rfl⟩
  · rintro ⟨position, item, granted, found, ofCode, ahead, folded, rfl⟩
    obtain ⟨other, otherFolded, left⟩ := getElem?_pass_of_complete complete found
    obtain rfl := Except.ok.inj (folded.symm.trans otherFolded)
    exact ⟨item.withDiscount granted, getElem?_filter_eq_some_iff.2
      ⟨position, left, ofCode, (sameCodeAhead_pass rules cart code position).trans ahead⟩, rfl⟩

theorem getElem?_discountsOf_perm (oneCode : ∀ rule ∈ rules, rule.CountsOneCode)
    (priced : PricedByCode cart) (perm : cart.Perm other)
    (complete : (pass rules cart).broken = none)
    (otherComplete : (pass rules other).broken = none) {code : Text} {rank : Nat}
    {discount : Number}
    (there : (discountsOf code (pass rules cart).cart)[rank]? = some discount) :
    (discountsOf code (pass rules other).cart)[rank]? = some discount := by
  rw [getElem?_discountsOf_pass_iff complete] at there
  obtain ⟨position, item, granted, found, ofCode, ahead, folded, rfl⟩ := there
  obtain ⟨place, entry, same⟩ := exists_sameStanding perm found
  have entryOfCode : entry.code.agrees code = true := by
    rw [Text.agrees_iff] at ofCode ⊢
    exact (Text.agrees_iff.1 same.sameCode).symm.trans ofCode
  have sameAhead : sameCodeAhead code other place = rank := by
    calc sameCodeAhead code other place
        = sameCodeAhead entry.code other place := by rw [sameCodeAhead_congr entryOfCode]
      _ = sameCodeAhead item.code cart position := same.sameAhead.symm
      _ = sameCodeAhead code cart position := by rw [sameCodeAhead_congr ofCode]
      _ = rank := ahead
  refine (getElem?_discountsOf_pass_iff otherComplete).2
    ⟨place, entry, granted, same.otherFound, entryOfCode, sameAhead, ?_, rfl⟩
  rwa [← actionsReaching_eq_of_sameStanding oneCode perm same, ← same.price_eq perm priced]

end Passes

/-- The order in which a cart was filled does not matter to what is granted for each
product, when entries of one code have one price and rules count entries of one code
only.  In any order the same rules fail, with the same faults, the pass ends alike,
and when it comes to its end the entries of each code get the same discounts, one
after the other.  Entries are distinct objects, as scanning makes them: no discount is
granted twice to one that stands at two positions. -/
theorem scan_order_keeps_discounts (rules : List PricingRule) (cart other : Cart)
    (oneCode : ∀ rule ∈ rules, rule.CountsOneCode) (priced : PricedByCode cart)
    (perm : cart.Perm other) :
    failuresAmong cart 0 rules = failuresAmong other 0 rules ∧
      (pass rules cart).outcome = (pass rules other).outcome ∧
      ((pass rules cart).RunsToEnd →
        (pass rules cart).failures = (pass rules other).failures ∧
          ∀ code, discountsOf code (pass rules cart).cart =
            discountsOf code (pass rules other).cart) := by
  have sameOutcome := outcome_pass_perm oneCode priced perm
  refine ⟨failuresAmong_perm perm 0 rules, sameOutcome, fun ends => ?_⟩
  have complete := PassReport.runsToEnd_iff.1 ends
  have otherComplete : (pass rules other).broken = none := by
    rwa [← PassReport.runsToEnd_iff, PassReport.RunsToEnd, ← sameOutcome]
  constructor
  · rw [failures_pass_of_complete complete, failures_pass_of_complete otherComplete,
      failuresAmong_perm perm]
  · intro code
    refine List.ext_getElem? fun rank => Option.ext fun discount => ?_
    exact ⟨getElem?_discountsOf_perm oneCode priced perm complete otherComplete,
      getElem?_discountsOf_perm oneCode (priced.perm perm) perm.symm otherComplete complete⟩

/-- Two of three caps for half of the price. -/
def capBundle : PricingRule :=
  ⟨[⟨.xQuantity, .eq, .integer 3⟩, ⟨.itemCode, .eq, .text (.plain "CAP")⟩],
    [⟨.discountPercent, .ofInt 50⟩], .null⟩

/-- Codes have no order, so this cannot be evaluated. -/
def laterCodes : PricingRule :=
  ⟨[⟨.itemCode, .gt, .text (.plain "CAP")⟩], [⟨.discountPercent, .ofInt 50⟩], .null⟩

theorem caps_scanned_before_or_after_a_mug :
    let rules := [capBundle, laterCodes]
    let cart := ["CAP", "MUG", "CAP", "CAP"].map product
    let other := ["MUG", "CAP", "CAP", "CAP"].map product
    (∀ rule ∈ rules, rule.CountsOneCode) ∧ PricedByCode cart ∧ cart.Perm other ∧
      (pass rules cart).RunsToEnd ∧
      failuresAmong cart 0 rules = failuresAmong other 0 rules ∧
      (pass rules cart).outcome = (pass rules other).outcome ∧
      discountsOf (.plain "CAP") (pass rules cart).cart =
        discountsOf (.plain "CAP") (pass rules other).cart := by
  intro rules cart other
  have oneCode : ∀ rule ∈ rules, rule.CountsOneCode := by
    intro rule member
    rcases List.mem_pair.1 member with rfl | rfl
    · exact fun _ => ⟨⟨.itemCode, .eq, .text (.plain "CAP")⟩, List.mem_singleton.2 rfl, rfl⟩
    · exact fun grouped => absurd rfl grouped
  have priced : PricedByCode cart := by
    intro item member entry entryMember _
    obtain ⟨_, _, rfl⟩ := List.mem_map.1 member
    obtain ⟨_, _, rfl⟩ := List.mem_map.1 entryMember
    rfl
  have perm : cart.Perm other := List.Perm.swap _ _ _
  have ends : (pass rules cart).RunsToEnd := PassReport.runsToEnd_iff.2 rfl
  obtain ⟨sameFailures, sameOutcome, sameDiscounts⟩ :=
    scan_order_keeps_discounts rules cart other oneCode priced perm
  exact ⟨oneCode, priced, perm, ends, sameFailures, sameOutcome, (sameDiscounts ends).2 _⟩

end RetailPricing
