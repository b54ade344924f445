import RetailPricing.Engine.Selection
import RetailPricing.Proofs.Outcome

/-!
# What selection looks at

Selection goes through entries of any type by their codes.  Three things follow
from the way it does so:

* it only looks at the characters of the codes, so renaming the entries renames
  the selected ones (`select_map`) and nothing else about a cart matters
  (`selectPositions_map`);
* what it selects are entries, each one at most once and in their order;
* it reports notices and counts nothing, and the only thing that can stop it is
  a comparison without an answer, never a signal of arithmetic.
-/

namespace RetailPricing

namespace Journal

/-- Nothing in the journal is counted. -/
def Uncounted (journal : Journal) : Prop :=
  journal.counts = []

theorem Uncounted.append {first second : Journal}
    (left : first.Uncounted) (right : second.Uncounted) :
    (first ++ second).Uncounted := by
  rw [Uncounted, counts_append, left, right, List.append_nil]

theorem uncounted_nil : Uncounted [] :=
  rfl

end Journal

namespace Reported

variable {ε α β γ : Type}

@[simp]
theorem lift_ok_bind (result : α) (next : α → Reported ε β) :
    (lift (.ok result) >>= next : Reported ε β) = next result :=
  journal_done_bind result next

@[simp]
theorem lift_error_bind (fault : ε) (next : α → Reported ε β) :
    (lift (.error fault) >>= next : Reported ε β) = lift (.error fault) :=
  bind_of_error rfl

theorem outcome_bind (first : Reported ε α) (next : α → Reported ε β) :
    (first >>= next).outcome = first.outcome >>= fun result => (next result).outcome := by
  cases ended : first.outcome with
  | ok result => rw [bind_of_ok ended]; rfl
  | error fault => rw [bind_of_error ended]; rfl

/-- A chain ends with a result when both of its links do. -/
theorem outcome_bind_eq_ok_iff {first : Reported ε α} {next : α → Reported ε β}
    {result : β} :
    (first >>= next).outcome = .ok result ↔
      ∃ middle, first.outcome = .ok middle ∧ (next middle).outcome = .ok result := by
  cases ended : first.outcome with
  | ok middle => simp [bind_of_ok ended]
  | error fault => simp [bind_of_error ended]

/-- A chain is stopped by its first link or by its second. -/
theorem outcome_bind_eq_error_iff {first : Reported ε α} {next : α → Reported ε β}
    {fault : ε} :
    (first >>= next).outcome = .error fault ↔
      first.outcome = .error fault ∨
        ∃ middle, first.outcome = .ok middle ∧ (next middle).outcome = .error fault := by
  cases ended : first.outcome with
  | ok middle => simp [bind_of_ok ended]
  | error other => simp [bind_of_error ended]

/-- The same computation with its result renamed. -/
def mapResult (f : α → β) (computation : Reported ε α) : Reported ε β :=
  ⟨computation.journal, computation.outcome.map f⟩

theorem mapResult_done (f : α → β) (result : α) :
    (done result : Reported ε α).mapResult f = done (f result) :=
  rfl

theorem mapResult_lift_error (f : α → β) (fault : ε) :
    (lift (.error fault) : Reported ε α).mapResult f = lift (.error fault) :=
  rfl

theorem outcome_mapResult_eq_error_iff {f : α → β} {computation : Reported ε α} {fault : ε} :
    (computation.mapResult f).outcome = .error fault ↔ computation.outcome = .error fault :=
  Outcome.map_eq_error_iff

/-- Renaming the result of a chain renames the result of its last link. -/
theorem mapResult_bind (f : β → γ) (first : Reported ε α)
    (next : α → Reported ε β) :
    (first >>= next).mapResult f = first >>= fun result => (next result).mapResult f := by
  cases ended : first.outcome with
  | ok result =>
      rw [bind_of_ok ended, bind_of_ok ended]
      rfl
  | error fault =>
      rw [bind_of_error ended, bind_of_error ended]
      rfl

theorem bind_mapResult (f : α → β) (first : Reported ε α)
    (next : β → Reported ε γ) :
    first.mapResult f >>= next = first >>= fun result => next (f result) := by
  cases ended : first.outcome with
  | ok result =>
      have renamed : (first.mapResult f).outcome = .ok (f result) := by
        rw [mapResult, ended]
        rfl
      rw [bind_of_ok ended, bind_of_ok renamed]
      rfl
  | error fault =>
      have renamed : (first.mapResult f).outcome = .error fault := by
        rw [mapResult, ended]
        rfl
      rw [bind_of_error ended, bind_of_error renamed]
      rfl

end Reported

namespace Condition

/-- A condition sees nothing of a text but its characters. -/
theorem evaluate_text_congr (condition : Condition) {s t : Text}
    (sameContent : s.content = t.content) :
    condition.evaluate (.text s) = condition.evaluate (.text t) := by
  obtain ⟨kind, operator, value⟩ := condition
  cases value with
  | text expected =>
      simp only [evaluate, Value.compare, Text.agrees, sameContent]
  | integer n | decimal d => rfl

/-- Facts about a cart are texts and counts, which are compared without
arithmetic. -/
theorem evaluate_text_error {condition : Condition} {t : Text}
    {interruption : Interruption}
    (stopped : condition.evaluate (.text t) = .error interruption) :
    ∃ fault, interruption = .comparison fault := by
  obtain ⟨kind, operator, value⟩ := condition
  cases value with
  | text expected =>
      cases operator with
      | eq | neq => cases stopped
      | gt | lt | gte | lte => exact ⟨_, (Except.error.inj stopped).symm⟩
  | integer n | decimal d => exact ⟨_, (Except.error.inj stopped).symm⟩

theorem evaluate_integer_error {condition : Condition} {n : Int}
    {interruption : Interruption}
    (stopped : condition.evaluate (.integer n) = .error interruption) :
    ∃ fault, interruption = .comparison fault := by
  obtain ⟨kind, operator, value⟩ := condition
  cases value with
  | integer expected => cases stopped
  | text expected | decimal d => exact ⟨_, (Except.error.inj stopped).symm⟩

end Condition

namespace Rule

/-- A computation that picks some of the entries: each one at most once and in
their order.  It counts nothing, and only a comparison can stop it. -/
structure Picks {Entry : Type} (entries : List Entry)
    (computation : Reported Interruption (List Entry)) : Prop where
  sublist : ∀ {picked}, computation.outcome = .ok picked → picked.Sublist entries
  stopped : ∀ {interruption}, computation.outcome = .error interruption →
    ∃ fault, interruption = .comparison fault
  uncounted : computation.journal.Uncounted

namespace Picks

variable {Entry : Type} {entries picked : List Entry}

theorem done (sublist : picked.Sublist entries) :
    Picks entries (Reported.done picked) where
  sublist := by
    rintro _ ⟨⟩
    exact sublist
  stopped := by rintro _ ⟨⟩
  uncounted := Journal.uncounted_nil

theorem failed {fault : ComparisonFault} :
    Picks entries (Reported.lift (.error (.comparison fault))) where
  sublist := by rintro _ ⟨⟩
  stopped := by
    rintro _ ⟨⟩
    exact ⟨fault, rfl⟩
  uncounted := Journal.uncounted_nil

theorem note_bind {n : Notice} {next : Reported Interruption (List Entry)}
    (picks : Picks entries next) :
    Picks entries (Reported.note n >>= fun _ => next) := by
  have noted : (Reported.note n >>= fun _ => next : Reported Interruption (List Entry)) =
      ⟨.notice none n :: next.journal, next.outcome⟩ :=
    Reported.bind_of_ok rfl
  rw [noted]
  exact ⟨picks.sublist, picks.stopped, picks.uncounted⟩

/-- Picking goes on with what was picked before. -/
theorem bind {first : Reported Interruption (List Entry)}
    {next : List Entry → Reported Interruption (List Entry)}
    (picks : Picks entries first) (nextPicks : ∀ kept, Picks kept (next kept)) :
    Picks entries (first >>= next) := by
  cases ended : first.outcome with
  | ok kept =>
      rw [Reported.bind_of_ok ended]
      have later := nextPicks kept
      exact ⟨fun ok => (later.sublist ok).trans (picks.sublist ended), later.stopped,
        picks.uncounted.append later.uncounted⟩
  | error interruption =>
      rw [Reported.bind_of_error ended]
      refine ⟨by rintro _ ⟨⟩, ?_, picks.uncounted⟩
      rintro _ ⟨⟩
      exact picks.stopped ended

end Picks

section Picking

variable {Entry : Type} (codeOf : Entry → Text)

theorem picks_meetingCode (condition : Condition) (entries : List Entry) :
    Picks entries (Reported.lift (meetingCode codeOf condition entries)) := by
  induction entries with
  | nil => exact .done (List.Sublist.refl [])
  | cons entry rest ih =>
      rw [meetingCode]
      cases asked : condition.evaluate (.text (codeOf entry)) with
      | error interruption =>
          obtain ⟨fault, rfl⟩ := Condition.evaluate_text_error asked
          exact .failed
      | ok meets =>
          cases others : meetingCode codeOf condition rest with
          | error interruption =>
              rw [others] at ih
              obtain ⟨fault, rfl⟩ := ih.stopped rfl
              exact .failed
          | ok kept =>
              rw [others] at ih
              have keptSublist : kept.Sublist rest := ih.sublist rfl
              cases meets with
              | true => exact .done (keptSublist.cons_cons entry)
              | false => exact .done (keptSublist.cons entry)

theorem picks_narrowByCode (label : Datum) (conditions : List Condition)
    (entries : List Entry) :
    Picks entries (narrowByCode codeOf label conditions entries) := by
  induction conditions generalizing entries with
  | nil => exact .done (List.Sublist.refl entries)
  | cons condition rest ih =>
      rw [narrowByCode]
      exact (picks_meetingCode codeOf condition entries).bind fun kept =>
        (ih kept).note_bind

theorem picks_gateByQuantity (label : Datum) (conditions : List Condition)
    (entries : List Entry) :
    Picks entries (gateByQuantity label conditions entries) := by
  induction conditions generalizing entries with
  | nil => exact .done (List.Sublist.refl entries)
  | cons condition rest ih =>
      rw [gateByQuantity]
      split
      · exact .done (List.Sublist.refl entries)
      · cases asked : condition.evaluate (.integer entries.length) with
        | error interruption =>
            obtain ⟨fault, rfl⟩ := Condition.evaluate_integer_error asked
            rw [Reported.lift_error_bind]
            exact .failed
        | ok met =>
            rw [Reported.lift_ok_bind]
            cases met with
            | true => exact ih entries
            | false =>
                have emptied := ih []
                exact Picks.note_bind ⟨fun ok =>
                  (emptied.sublist ok).trans (List.nil_sublist entries),
                  emptied.stopped, emptied.uncounted⟩

theorem picks_narrowByGroups (label : Datum) (conditions : List Condition)
    (entries : List Entry) :
    Picks entries (narrowByGroups label conditions entries) := by
  induction conditions generalizing entries with
  | nil => exact .done (List.Sublist.refl entries)
  | cons condition rest ih =>
      rw [narrowByGroups]
      split
      · exact .done (List.Sublist.refl entries)
      · refine Picks.bind ?_ ih
        rw [takeGroups]
        split
        · exact (Picks.done (List.nil_sublist entries)).note_bind
        · exact (Picks.done (List.take_sublist _ entries)).note_bind

theorem picks_select (rule : PricingRule) (entries : List Entry) :
    Picks entries (rule.select codeOf entries) := by
  rw [select]
  split
  · exact .done (List.nil_sublist entries)
  · exact (picks_narrowByCode codeOf _ _ entries).bind fun byCode =>
      (picks_gateByQuantity _ _ byCode).bind fun gated =>
        picks_narrowByGroups _ _ gated

end Picking

theorem selectPositions_of_noop {rule : PricingRule} (noop : rule.isNoop = true) (cart : Cart) :
    rule.selectPositions cart = .done [] := by
  rw [selectPositions, select, if_pos noop]
  rfl

/-- A rule selects positions of the cart, in increasing order. -/
theorem picks_selectPositions (rule : PricingRule) (cart : Cart) :
    Picks (List.range cart.length) (rule.selectPositions cart) := by
  have picks := picks_select (fun entry : CartItem × Nat => entry.1.code) rule cart.zipIdx
  have positions : cart.zipIdx.map Prod.snd = List.range cart.length := by
    rw [List.zipIdx_map_snd, List.range_eq_range']
  rw [selectPositions]
  cases ended : (rule.select (fun entry : CartItem × Nat => entry.1.code)
      cart.zipIdx).outcome with
  | ok selected =>
      rw [Reported.bind_of_ok ended]
      refine ⟨?_, by rintro _ ⟨⟩, picks.uncounted.append Journal.uncounted_nil⟩
      rintro _ ⟨⟩
      exact positions ▸ (picks.sublist ended).map Prod.snd
  | error interruption =>
      rw [Reported.bind_of_error ended]
      refine ⟨by rintro _ ⟨⟩, ?_, picks.uncounted⟩
      rintro _ ⟨⟩
      exact picks.stopped ended

/-! ## Renaming the entries -/

section Renaming

variable {Entry Other : Type} {codeOf : Entry → Text} {otherCodeOf : Other → Text}
  {rename : Entry → Other}
  (sameCodes : ∀ entry, (otherCodeOf (rename entry)).content = (codeOf entry).content)

include sameCodes in
theorem meetingCode_map (condition : Condition) (entries : List Entry) :
    meetingCode otherCodeOf condition (entries.map rename) =
      (meetingCode codeOf condition entries).map (List.map rename) := by
  induction entries with
  | nil => rfl
  | cons entry rest ih =>
      rw [List.map_cons, meetingCode, meetingCode, ih,
        condition.evaluate_text_congr (sameCodes entry)]
      cases condition.evaluate (.text (codeOf entry)) with
      | error interruption => rfl
      | ok meets =>
          cases meetingCode codeOf condition rest with
          | error interruption => rfl
          | ok kept => cases meets <;> rfl

include sameCodes in
theorem narrowByCode_map (label : Datum) (conditions : List Condition)
    (entries : List Entry) :
    narrowByCode otherCodeOf label conditions (entries.map rename) =
      (narrowByCode codeOf label conditions entries).mapResult (List.map rename) := by
  induction conditions generalizing entries with
  | nil => rfl
  | cons condition rest ih =>
      rw [narrowByCode, narrowByCode, meetingCode_map sameCodes]
      cases meetingCode codeOf condition entries with
      | error interruption =>
          rw [Reported.lift_error_bind, Reported.mapResult_lift_error]
          rfl
      | ok kept =>
          simp only [Except.map, Reported.lift_ok_bind, Reported.mapResult_bind,
            List.length_map, ih]

theorem gateByQuantity_map (label : Datum) (conditions : List Condition)
    (entries : List Entry) :
    gateByQuantity label conditions (entries.map rename) =
      (gateByQuantity label conditions entries).mapResult (List.map rename) := by
  induction conditions generalizing entries with
  | nil => rfl
  | cons condition rest ih =>
      rw [gateByQuantity, gateByQuantity, List.isEmpty_map, List.length_map]
      by_cases empty : entries.isEmpty
      · rw [if_pos empty, if_pos empty, Reported.mapResult_done]
      · rw [if_neg empty, if_neg empty]
        cases condition.evaluate (.integer entries.length) with
        | error interruption =>
            rw [Reported.lift_error_bind, Reported.lift_error_bind,
              Reported.mapResult_lift_error]
        | ok met =>
            rw [Reported.lift_ok_bind, Reported.lift_ok_bind]
            cases met with
            | true => exact ih entries
            | false =>
                simp only [Bool.false_eq_true, ↓reduceIte, Reported.mapResult_bind,
                  ← ih, List.map_nil]

theorem takeGroups_map (label : Datum) (size : Nat) (entries : List Entry) :
    takeGroups label size (entries.map rename) =
      (takeGroups label size entries).mapResult (List.map rename) := by
  rw [takeGroups, takeGroups, List.length_map]
  by_cases none : entries.length / size = 0
  · rw [if_pos none, if_pos none, Reported.mapResult_bind]
    rfl
  · simp only [if_neg none, Reported.mapResult_bind, ← List.map_take]
    rfl

theorem narrowByGroups_map (label : Datum) (conditions : List Condition)
    (entries : List Entry) :
    narrowByGroups label conditions (entries.map rename) =
      (narrowByGroups label conditions entries).mapResult (List.map rename) := by
  induction conditions generalizing entries with
  | nil => rfl
  | cons condition rest ih =>
      rw [narrowByGroups, narrowByGroups, List.isEmpty_map]
      by_cases empty : entries.isEmpty
      · rw [if_pos empty, if_pos empty, Reported.mapResult_done]
      · simp only [if_neg empty, takeGroups_map, Reported.bind_mapResult,
          Reported.mapResult_bind, ih]

include sameCodes in
/-- Selection does not look at entries except through the characters of their
codes. -/
theorem select_map (rule : PricingRule) (entries : List Entry) :
    rule.select otherCodeOf (entries.map rename) =
      (rule.select codeOf entries).mapResult (List.map rename) := by
  rw [select, select]
  by_cases noop : rule.isNoop
  · rw [if_pos noop, if_pos noop]
    rfl
  · simp only [if_neg noop, narrowByCode_map sameCodes, gateByQuantity_map,
      narrowByGroups_map, Reported.bind_mapResult, Reported.mapResult_bind]

end Renaming

/-- The positions that a rule selects depend on the codes of the entries and
on nothing else about them. -/
theorem selectPositions_map (rule : PricingRule) (change : CartItem → CartItem)
    (sameCodes : ∀ item, (change item).code.content = item.code.content)
    (cart : Cart) :
    rule.selectPositions (cart.map change) = rule.selectPositions cart := by
  let entryCode : CartItem × Nat → Text := fun entry => entry.1.code
  have sameEntryCodes : ∀ entry,
      (entryCode (Prod.map change id entry)).content = (entryCode entry).content :=
    fun entry => sameCodes entry.1
  have renamed := select_map sameEntryCodes rule cart.zipIdx
  rw [selectPositions, selectPositions, List.zipIdx_map, renamed,
    Reported.bind_mapResult]
  simp only [List.map_map]
  rfl

end Rule

end RetailPricing
