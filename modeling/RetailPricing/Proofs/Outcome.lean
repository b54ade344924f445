import Mathlib.Data.List.Forall2

/-!
# Outcomes

Most operations end with a result or with a fault.  These equations take a
chain of such operations apart, step by step, in both directions.
-/

namespace RetailPricing

namespace Outcome

variable {ε δ α β : Type}

theorem bind_eq_ok_iff {first : Except ε α} {next : α → Except ε β} {result : β} :
    first >>= next = .ok result ↔
      ∃ middle, first = .ok middle ∧ next middle = .ok result := by
  cases first with
  | error fault => simp [bind, Except.bind]
  | ok middle => simp [bind, Except.bind]

theorem bind_eq_error_iff {first : Except ε α} {next : α → Except ε β} {fault : ε} :
    first >>= next = .error fault ↔
      first = .error fault ∨
        ∃ middle, first = .ok middle ∧ next middle = .error fault := by
  cases first with
  | error other => simp [bind, Except.bind]
  | ok middle => simp [bind, Except.bind]

theorem map_eq_ok_iff {f : α → β} {first : Except ε α} {result : β} :
    first.map f = .ok result ↔ ∃ middle, first = .ok middle ∧ f middle = result := by
  cases first with
  | error fault => simp [Except.map]
  | ok middle => simp [Except.map]

theorem map_eq_error_iff {f : α → β} {first : Except ε α} {fault : ε} :
    first.map f = .error fault ↔ first = .error fault := by
  cases first with
  | error other => simp [Except.map]
  | ok middle => simp [Except.map]

theorem mapError_eq_ok_iff {f : ε → δ} {first : Except ε α} {result : α} :
    first.mapError f = .ok result ↔ first = .ok result := by
  cases first with
  | error fault => exact ⟨nofun, nofun⟩
  | ok middle =>
      constructor
      · intro same
        exact congrArg Except.ok (Except.ok.inj same)
      · intro same
        exact congrArg Except.ok (Except.ok.inj same)

theorem mapError_eq_error_iff {f : ε → δ} {first : Except ε α} {fault : δ} :
    first.mapError f = .error fault ↔
      ∃ inner, first = .error inner ∧ f inner = fault := by
  cases first with
  | error inner =>
      constructor
      · intro same
        exact ⟨inner, rfl, Except.error.inj same⟩
      · rintro ⟨_, ⟨⟩, rfl⟩
        rfl
  | ok middle => exact ⟨nofun, nofun⟩

variable {α' β' ι κ : Type} {read : α → β} {report : ε → δ}

theorem map_mapError (read : α → β) (report : ε → δ) (first : Except ε α) :
    (first.mapError report).map read = (first.map read).mapError report := by
  cases first <;> rfl

/-- The result of a chain is read as that of another one when each link is. -/
theorem map_bind_eq {read' : α' → β'} {first : Except ε α} {other : Except ε β}
    {next : α → Except ε α'} {otherNext : β → Except ε β'} (same : first.map read = other)
    (sameNext : ∀ middle, (next middle).map read' = otherNext (read middle)) :
    (first >>= next).map read' = other >>= otherNext := by
  subst same
  cases first with
  | error fault => rfl
  | ok middle => exact sameNext middle

/-- Chains run alike when their first steps do and the rest does from any middle. -/
theorem map_bind_eq_mapError {read' : α' → β'} {first : Except δ α} {other : Except ε β}
    {next : α → Except δ α'} {otherNext : β → Except ε β'}
    (same : first.map read = other.mapError report)
    (sameNext : ∀ middle,
      (next middle).map read' = (otherNext (read middle)).mapError report) :
    (first >>= next).map read' = (other >>= otherNext).mapError report := by
  cases first with
  | error fault =>
      cases other with
      | error inner => exact congrArg Except.error (Except.error.inj same)
      | ok result => cases same
  | ok middle =>
      cases other with
      | error inner => cases same
      | ok result =>
          have found : read middle = result := Except.ok.inj same
          subst found
          exact sameNext middle

/-- Folds run alike when each of their steps does. -/
theorem map_foldlM_eq_mapError {step : α → ι → Except δ α} {otherStep : β → κ → Except ε β}
    {seen : ι → κ} {entries : List ι}
    (same : ∀ (start : α), ∀ entry ∈ entries,
      (step start entry).map read = (otherStep (read start) (seen entry)).mapError report)
    (start : α) :
    (entries.foldlM step start).map read =
      ((entries.map seen).foldlM otherStep (read start)).mapError report := by
  induction entries generalizing start with
  | nil => rfl
  | cons entry rest ih =>
      rw [List.foldlM_cons, List.map_cons, List.foldlM_cons]
      exact map_bind_eq_mapError (same start entry List.mem_cons_self)
        (ih fun other later member => same other later (List.mem_cons_of_mem entry member))

/-- Folds over related entries come to related results, if each step does. -/
theorem foldlM_related {R : α → β → Prop} {S : ι → κ → Prop} {step : α → ι → Except ε α}
    {otherStep : β → κ → Except δ β}
    (keeps : ∀ {start otherStart entry otherEntry next otherNext},
      R start otherStart → S entry otherEntry → step start entry = .ok next →
        otherStep otherStart otherEntry = .ok otherNext → R next otherNext)
    {entries : List ι} {otherEntries : List κ} (related : List.Forall₂ S entries otherEntries)
    {start final : α} {otherStart otherFinal : β} (atStart : R start otherStart)
    (ends : entries.foldlM step start = .ok final)
    (otherEnds : otherEntries.foldlM otherStep otherStart = .ok otherFinal) :
    R final otherFinal := by
  induction related generalizing start otherStart with
  | nil =>
      rw [← Except.ok.inj ends, ← Except.ok.inj otherEnds]
      exact atStart
  | cons relatedHere _ ih =>
      rw [List.foldlM_cons] at ends otherEnds
      obtain ⟨next, stepped, rest⟩ := bind_eq_ok_iff.1 ends
      obtain ⟨otherNext, otherStepped, otherRest⟩ := bind_eq_ok_iff.1 otherEnds
      exact ih (keeps atStart relatedHere stepped otherStepped) rest otherRest

/-- A row of operations is stopped by one of them. -/
theorem exists_mem_of_mapM_eq_error {operation : ι → Except ε α} {entries : List ι} {fault : ε}
    (stopped : entries.mapM operation = .error fault) :
    ∃ entry ∈ entries, operation entry = .error fault := by
  induction entries with
  | nil => cases stopped
  | cons entry rest ih =>
      rw [List.mapM_cons] at stopped
      rcases bind_eq_error_iff.1 stopped with here | ⟨_, _, later⟩
      · exact ⟨entry, List.mem_cons_self, here⟩
      · rcases bind_eq_error_iff.1 later with behind | ⟨_, _, ended⟩
        · obtain ⟨other, member, there⟩ := ih behind
          exact ⟨other, List.mem_cons_of_mem entry member, there⟩
        · cases ended

/-- In related rows, every member of the first has its counterpart. -/
theorem exists_related {R : ι → κ → Prop} {entries : List ι} {otherEntries : List κ}
    (related : List.Forall₂ R entries otherEntries) {entry : ι} (member : entry ∈ entries) :
    ∃ other, R entry other := by
  induction related with
  | nil => cases member
  | cons here _ ih =>
      rcases List.mem_cons.1 member with rfl | behind
      · exact ⟨_, here⟩
      · exact ih behind

/-- Rows are related alike when their members are. -/
theorem forall₂_congr_of_mem {R S : ι → κ → Prop} {entries : List ι} {otherEntries : List κ}
    (same : ∀ entry ∈ entries, ∀ other, R entry other ↔ S entry other) :
    List.Forall₂ R entries otherEntries ↔ List.Forall₂ S entries otherEntries := by
  simp only [List.forall₂_iff_zip]
  refine and_congr_right fun _ => ?_
  constructor
  · intro all entry other member
    exact (same entry (List.of_mem_zip member).1 other).1 (all member)
  · intro all entry other member
    exact (same entry (List.of_mem_zip member).1 other).2 (all member)

/-- When every member has a counterpart, a row of them has. -/
theorem exists_row {R : ι → κ → Prop} {entries : List ι}
    (all : ∀ entry ∈ entries, ∃ other, R entry other) :
    ∃ others, List.Forall₂ R entries others := by
  induction entries with
  | nil => exact ⟨[], .nil⟩
  | cons entry rest ih =>
      obtain ⟨other, here⟩ := all entry List.mem_cons_self
      obtain ⟨others, behind⟩ := ih fun later member =>
        all later (List.mem_cons_of_mem entry member)
      exact ⟨other :: others, .cons here behind⟩

/-- Rows of operations that come to the same one by one come to the same. -/
theorem mapM_eq_of_forall₂ {operation : ι → Except ε α} {other : κ → Except ε α}
    {entries : List ι} {otherEntries : List κ}
    (same : List.Forall₂ (fun entry otherEntry => operation entry = other otherEntry) entries
      otherEntries) : entries.mapM operation = otherEntries.mapM other := by
  induction same with
  | nil => rfl
  | cons here _ ih => rw [List.mapM_cons, List.mapM_cons, here, ih]

end Outcome

end RetailPricing
