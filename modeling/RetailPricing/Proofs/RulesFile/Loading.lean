import RetailPricing.Proofs.Engine.Selection
import RetailPricing.Proofs.Json.Reader
import RetailPricing.Proofs.Text.Utf8
import RetailPricing.RulesFile

/-!
# How loading a rules file fails

A file that cannot be opened, that is no JSON, that holds no list of rules or a
definition that is not valid is refused as a configuration.  Two kinds of files are
not: those whose bytes are not the encoding of any text, and those with a number
beyond the limits of decimals where the reader comes to it.  They are told from all
others by their bytes alone (`loads_or_refuses_iff`).
-/

namespace RetailPricing

namespace RulesFile

/-- Loading ended with rules, or the configuration was refused. -/
def LoadsOrRefuses (outcome : Except Fault (List PricingRule)) : Prop :=
  (∃ rules, outcome = .ok rules) ∨ ∃ reason, outcome = .error (.configuration reason)

theorem not_loadsOrRefuses_of_mishap {outcome : Except Fault (List PricingRule)}
    {mishap : Mishap} (escapes : outcome = .error (.mishap mishap)) :
    ¬ LoadsOrRefuses outcome := by
  rw [escapes]
  rintro (⟨_, ⟨⟩⟩ | ⟨_, ⟨⟩⟩)

/-- Definitions are loaded or refused. -/
theorem loadsOrRefuses_loadMembers (members : List Datum) :
    LoadsOrRefuses (loadMembers members).outcome := by
  rw [loadMembers]
  cases ended : (loadFrom 0 members).outcome with
  | ok rules =>
      have loaded : ((loadFrom 0 members).mapFault Fault.configuration).outcome = .ok rules :=
        congrArg (Except.mapError Fault.configuration) ended
      rw [Reported.bind_of_ok loaded]
      exact .inl ⟨rules, rfl⟩
  | error reason =>
      have refused : ((loadFrom 0 members).mapFault Fault.configuration).outcome =
          .error (.configuration reason) :=
        congrArg (Except.mapError Fault.configuration) ended
      rw [Reported.bind_of_error refused]
      exact .inr ⟨reason, rfl⟩

/-- A text that no signal stops is refused as a configuration, if at all. -/
theorem configuration_of_read_error {path : String} {contents : List UInt8}
    {characters : List Char} (decoded : Utf8.decode? contents = some characters)
    (unsignalled : ∀ s, Json.read (withLineFeeds characters) ≠ .error (.signal s)) {fault : Fault}
    (refused : read path (.bytes contents) = .error fault) :
    ∃ reason, fault = .configuration reason := by
  rw [read, parse, decoded] at refused
  dsimp only at refused
  rcases Outcome.bind_eq_error_iff.1 refused with unparsed | ⟨datum, _, noList⟩
  · split at unparsed
    next => cases unparsed
    next s signalled => exact absurd signalled (unsignalled s)
    next => exact ⟨_, (Except.error.inj unparsed).symm⟩
  · split at noList
    next => cases noList
    next => exact ⟨_, (Except.error.inj noList).symm⟩

section Loading

variable {path : String} (noNul : path.contains '\x00' = false)

include noNul

theorem outcome_load (content : Content) :
    (load path content).outcome =
      read (namedPath path) content >>= fun members => (loadMembers members).outcome := by
  rw [load, noNul, if_neg Bool.false_ne_true]
  cases ended : read (namedPath path) content with
  | ok members => rw [Reported.lift_ok_bind]; rfl
  | error fault => rw [Reported.lift_error_bind]; rfl

theorem loadsOrRefuses_unreadable (trouble : FileTrouble) :
    LoadsOrRefuses (load path (.unreadable trouble)).outcome := by
  rw [outcome_load noNul]
  exact .inr ⟨_, rfl⟩

theorem load_undecodable {contents : List UInt8} (undecodable : Utf8.decode? contents = none) :
    (load path (.bytes contents)).outcome = .error (.mishap .undecodableText) := by
  rw [outcome_load noNul, read, parse, undecodable]
  rfl

variable {contents : List UInt8} {characters : List Char}
  (decoded : Utf8.decode? contents = some characters)

include decoded

theorem load_signalled {s : Signal}
    (signalled : Json.read (withLineFeeds characters) = .error (.signal s)) :
    (load path (.bytes contents)).outcome = .error (.mishap (.signal s)) := by
  rw [outcome_load noNul, read, parse, decoded]
  dsimp only
  rw [signalled]
  rfl

theorem loadsOrRefuses_unsignalled
    (unsignalled : ∀ s, Json.read (withLineFeeds characters) ≠ .error (.signal s)) :
    LoadsOrRefuses (load path (.bytes contents)).outcome := by
  rw [outcome_load noNul]
  cases given : read (namedPath path) (.bytes contents) with
  | ok members => exact loadsOrRefuses_loadMembers members
  | error fault =>
      obtain ⟨reason, rfl⟩ := configuration_of_read_error decoded unsignalled given
      exact .inr ⟨reason, rfl⟩

end Loading

theorem load_of_nul {path : String} (nul : path.contains '\x00' = true) (content : Content) :
    (load path content).outcome = .error (.mishap .badValue) := by
  rw [load, if_pos nul]
  rfl

/-- Whatever stands at a path, loading ends with rules or refuses the configuration,
unless the path is none, the bytes of the file encode no text, or the reader comes to
a number that no decimal can hold.  Then it ends with a bad value, an undecodable
text or an invalid operation. -/
theorem loads_or_refuses_iff (path : String) (content : Content) :
    let outcome := (load path content).outcome
    (LoadsOrRefuses outcome ↔
      path.contains '\x00' = false ∧ ∀ contents, content = .bytes contents →
        ∃ characters, contents = characters.flatMap String.utf8EncodeChar ∧
          Json.read (withLineFeeds characters) ≠ .error (.signal .invalidOperation)) ∧
      (path.contains '\x00' = true → outcome = .error (.mishap .badValue)) ∧
      (path.contains '\x00' = false → ∀ contents, content = .bytes contents →
        ((∀ characters : List Char, contents ≠ characters.flatMap String.utf8EncodeChar) →
          outcome = .error (.mishap .undecodableText)) ∧
        ∀ characters : List Char, contents = characters.flatMap String.utf8EncodeChar →
          Json.read (withLineFeeds characters) = .error (.signal .invalidOperation) →
          outcome = .error (.mishap (.signal .invalidOperation)) ∧
            Json.HoldsBeyondLimits (withLineFeeds characters)) := by
  intro outcome
  refine ⟨⟨fun regular => ?_, ?_⟩, fun nul => load_of_nul nul content, ?_⟩
  · cases nul : path.contains '\x00' with
    | true => exact absurd regular (not_loadsOrRefuses_of_mishap (load_of_nul nul content))
    | false =>
        refine ⟨rfl, ?_⟩
        rintro contents rfl
        cases decoded : Utf8.decode? contents with
        | none =>
            exact absurd regular (not_loadsOrRefuses_of_mishap (load_undecodable nul decoded))
        | some characters =>
            refine ⟨characters, Utf8.decode?_eq_some_iff.1 decoded, fun signalled => ?_⟩
            exact not_loadsOrRefuses_of_mishap (load_signalled nul decoded signalled) regular
  · rintro ⟨noNul, readable⟩
    cases content with
    | unreadable trouble => exact loadsOrRefuses_unreadable noNul trouble
    | bytes contents =>
        obtain ⟨characters, encoded, unsignalled⟩ := readable contents rfl
        refine loadsOrRefuses_unsignalled noNul (Utf8.decode?_eq_some_iff.2 encoded) ?_
        intro s signalled
        obtain ⟨rfl, _⟩ := Json.read_signal signalled
        exact unsignalled signalled
  · rintro noNul contents rfl
    refine ⟨fun unencoded => ?_, fun characters encoded signalled => ?_⟩
    · cases decoded : Utf8.decode? contents with
      | none => exact load_undecodable noNul decoded
      | some characters => exact absurd (Utf8.decode?_eq_some_iff.1 decoded) (unencoded characters)
    · exact ⟨load_signalled noNul (Utf8.decode?_eq_some_iff.2 encoded) signalled,
        (Json.read_signal signalled).2⟩

/-- A byte that starts no character, and a number whose exponent is too large. -/
theorem undecodable_and_oversized_files_escape :
    let oversized := "[1e1000000000000000000]".toList
    (load "rules.json" (.bytes [0xFF])).outcome = .error (.mishap .undecodableText) ∧
      (load "rules.json" (.bytes (oversized.flatMap String.utf8EncodeChar))).outcome =
        .error (.mishap (.signal .invalidOperation)) ∧
      ¬ ∀ path content, LoadsOrRefuses (load path content).outcome := by
  intro oversized
  have noNul : "rules.json".contains '\x00' = false := by simp
  have undecodable : (load "rules.json" (.bytes [0xFF])).outcome =
      .error (.mishap .undecodableText) := load_undecodable noNul rfl
  refine ⟨undecodable, ?_, fun all => ?_⟩
  · have stops : (match Json.read oversized with
        | .error fault => decide (fault = .signal .invalidOperation)
        | .ok _ => false) = true := by decide +kernel
    refine load_signalled noNul (Utf8.decode?_flatMap_utf8EncodeChar oversized) ?_
    change Json.read oversized = _
    split at stops
    next fault refused => rw [refused, of_decide_eq_true stops]
    next => cases stops
  · exact not_loadsOrRefuses_of_mishap undecodable (all "rules.json" (.bytes [0xFF]))

end RulesFile

end RetailPricing
