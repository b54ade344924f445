import RetailPricing.Proofs.Definition.OneByOne
import RetailPricing.Proofs.Text.LetterCase

/-!
# The two readers of a vocabulary

Factories read the members of a vocabulary by `readLabel`, definitions by
`checkWord`.  Blanks apart, both read the same members from ASCII texts, and what
a definition reads a factory always reads as well.

They are not the same reader, though.  A factory reads a member from every text
with the capital form of its name, and some of these texts are not made of ASCII
characters: the dotless i and the long s have capitals in ASCII, but no lower case
there.  A definition does not know such texts, and leaves a condition out whose
kind is written in this way.  The words of the operators hold none of the letters
concerned.
-/

namespace RetailPricing

namespace Text

/-- There is no blank at either end. -/
def IsStripped (text : List Char) : Prop :=
  (∀ c ∈ text.head?, isBlank c = false) ∧ ∀ c ∈ text.getLast?, isBlank c = false

theorem IsStripped.of_ends {text : List Char} (first last : Char)
    (begins : text.head? = some first) (ends : text.getLast? = some last)
    (firstInked : isBlank first = false) (lastInked : isBlank last = false) :
    IsStripped text := by
  rw [IsStripped, begins, ends]
  exact ⟨by rintro _ ⟨⟩; exact firstInked, by rintro _ ⟨⟩; exact lastInked⟩

theorem dropWhile_of_head? {text : List Char} (inked : ∀ c ∈ text.head?, isBlank c = false) :
    text.dropWhile isBlank = text := by
  cases text with
  | nil => rfl
  | cons c rest => rw [List.dropWhile_cons_of_neg (by simp [inked c rfl])]

theorem IsStripped.strip_eq {text : List Char} (stripped : IsStripped text) :
    strip text = text := by
  rw [strip, stripBy, dropWhile_of_head? stripped.1,
    dropWhile_of_head? (by rw [List.head?_reverse]; exact stripped.2), List.reverse_reverse]

end Text

namespace Vocabulary

/-- All members are listed, each with a plain word of its own. -/
structure IsPlain (α : Type) [Vocabulary α] : Prop where
  listed : ∀ member : α, member ∈ (members : List α)
  plain : ∀ member : α, Text.IsPlain (word member).toList
  distinct : ∀ member other : α, word member = word other → member = other

theorem isPlain_conditionKind : IsPlain ConditionKind where
  listed kind := by cases kind <;> decide
  plain kind := by cases kind <;> rfl
  distinct kind other := by cases kind <;> cases other <;> decide +kernel

theorem isPlain_operator : IsPlain Operator where
  listed operator := by cases operator <;> decide
  plain operator := by cases operator <;> rfl
  distinct operator other := by cases operator <;> cases other <;> decide +kernel

theorem isPlain_actionKind : IsPlain ActionKind where
  listed kind := by cases kind <;> decide
  plain kind := by cases kind <;> rfl
  distinct kind other := by cases kind <;> cases other <;> decide +kernel

/-- Looking for a key of its own finds a listed member. -/
theorem find?_key_eq_some_iff {α : Type} {members : List α} {key : α → List Char}
    (listed : ∀ member, member ∈ members)
    (distinct : ∀ member other, key member = key other → member = other)
    {text : List Char} {member : α} :
    members.find? (fun member => key member == text) = some member ↔ text = key member := by
  constructor
  · intro found
    have same := List.find?_some found
    exact (beq_iff_eq.1 same).symm
  · rintro rfl
    cases found : members.find? fun other => key other == key member with
    | none =>
        have absent := List.find?_eq_none.1 found member (listed member)
        exact absurd (beq_iff_eq.2 rfl) absent
    | some other =>
        have same := List.find?_some found
        rw [distinct other member (beq_iff_eq.1 same)]

namespace IsPlain

variable {α : Type} [Vocabulary α] {member : α}

theorem ofWord?_eq_some_iff (vocabulary : IsPlain α) {text : List Char} :
    ofWord? text = some member ↔ text = (word member).toList :=
  find?_key_eq_some_iff vocabulary.listed fun member other same =>
    vocabulary.distinct member other (String.toList_inj.1 same)

/-- Names differ as words do. -/
theorem ofName?_eq_some_iff (vocabulary : IsPlain α) {text : List Char} :
    ofName? text = some member ↔ text = (nameOf member).toList := by
  refine find?_key_eq_some_iff vocabulary.listed fun member other same => ?_
  rw [nameOf, nameOf, String.toList_ofList, String.toList_ofList] at same
  exact vocabulary.distinct member other (String.toList_inj.1
    (Text.eq_of_map_toUpper_eq (vocabulary.plain member) (vocabulary.plain other) same))

theorem lowerCase_eq_word_iff (vocabulary : IsPlain α) {text : List Char} :
    Text.lowerCase text = (word member).toList ↔
      Text.IsASCII text ∧ Text.upperCase? text = some (nameOf member).toList := by
  rw [nameOf, String.toList_ofList]
  exact Text.lowerCase_eq_iff (vocabulary.plain member)

/-- The reader of the factories knows the texts with the capital form of a name. -/
theorem ofAnyCase?_eq_some_iff (vocabulary : IsPlain α) {text : String} :
    ofAnyCase? text = some member ↔
      Text.upperCase? text.toList = some (nameOf member).toList := by
  rw [ofAnyCase?]
  cases lowered : (ofWord? (Text.lowerCase text.toList) : Option α) with
  | some other =>
      have capital := (vocabulary.lowerCase_eq_word_iff.1
        (vocabulary.ofWord?_eq_some_iff.1 lowered)).2
      constructor
      · rintro ⟨⟩
        exact capital
      · intro named
        have same := vocabulary.ofName?_eq_some_iff.2 (Option.some.inj (capital.symm.trans named))
        rw [← same]
        exact (vocabulary.ofName?_eq_some_iff.2 rfl).symm
  | none =>
      dsimp only
      rw [Option.bind_eq_some_iff]
      constructor
      · rintro ⟨capitals, capital, named⟩
        rw [capital, vocabulary.ofName?_eq_some_iff.1 named]
      · intro capital
        exact ⟨_, capital, vocabulary.ofName?_eq_some_iff.2 rfl⟩

/-- The reader of definitions knows those of these texts that are made of ASCII
characters. -/
theorem ofNormalised?_eq_some_iff (vocabulary : IsPlain α) {text : String}
    (stripped : Text.IsStripped text.toList) :
    ofNormalised? text = some member ↔
      ofAnyCase? text = some member ∧ Text.IsASCII text.toList := by
  rw [ofNormalised?, normalised, stripped.strip_eq, vocabulary.ofWord?_eq_some_iff,
    vocabulary.lowerCase_eq_word_iff, vocabulary.ofAnyCase?_eq_some_iff, and_comm]

/-- Where the name holds none of the letters S, I and F, both readers know the same
texts. -/
theorem ofNormalised?_eq_some_iff_of_letters (vocabulary : IsPlain α) {text : String}
    (stripped : Text.IsStripped text.toList)
    (letters : ∀ c ∈ (nameOf member).toList, c ≠ 'S' ∧ c ≠ 'I' ∧ c ≠ 'F') :
    ofNormalised? text = some member ↔ ofAnyCase? text = some member := by
  rw [vocabulary.ofNormalised?_eq_some_iff stripped, and_iff_left_iff_imp]
  intro known
  exact Text.isASCII_of_upperCase? (vocabulary.ofAnyCase?_eq_some_iff.1 known) letters

end IsPlain

end Vocabulary

/-! ## Factories and definitions -/

section Readers

variable {α : Type} [Vocabulary α] {what : String} {t : Text} {member : α}

theorem readLabel_text_eq_ok_iff :
    readLabel α what (.text t) = .ok member ↔
      Vocabulary.ofAnyCase? t.content = some member := by
  rw [readLabel]
  cases (Vocabulary.ofAnyCase? t.content : Option α) with
  | none => simp
  | some other => simp

theorem checkWord_text_eq_ok_iff :
    checkWord α (.text t) = .ok member ↔
      Vocabulary.ofNormalised? t.content = some member := by
  rw [checkWord]
  cases (Vocabulary.ofNormalised? t.content : Option α) with
  | none => simp [Checked.violated]
  | some other => simp

/-- A condition is left out when its kind is a text that definitions do not read. -/
theorem unknownKind?_eq_none_iff {fields : Fields}
    (written : Datum.lookup "kind" fields = some (.text t)) :
    RuleDefinition.unknownKind? (.mapping fields) = none ↔
      ∃ kind, checkWord ConditionKind (.text t) = .ok kind := by
  simp only [RuleDefinition.unknownKind?, written, checkWord_text_eq_ok_iff]
  cases (Vocabulary.ofNormalised? t.content : Option ConditionKind) with
  | none => exact ⟨nofun, nofun⟩
  | some kind => exact ⟨fun _ => ⟨kind, rfl⟩, fun _ => rfl⟩

end Readers

/-- How a text is read: by a factory when it has the capital form of a name, and in a
definition when it is made of ASCII characters besides. -/
structure ReadByCapitals (α : Type) [Vocabulary α] (what : String) (t : Text) : Prop where
  factory : ∀ member : α, readLabel α what (.text t) = .ok member ↔
    Text.upperCase? t.content.toList = some (Vocabulary.nameOf member).toList
  definition : ∀ member : α, checkWord α (.text t) = .ok member ↔
    readLabel α what (.text t) = .ok member ∧ Text.IsASCII t.content.toList

theorem Vocabulary.IsPlain.readByCapitals {α : Type} [Vocabulary α] {t : Text}
    (vocabulary : IsPlain α) (what : String) (stripped : Text.IsStripped t.content.toList) :
    ReadByCapitals α what t where
  factory member := readLabel_text_eq_ok_iff.trans vocabulary.ofAnyCase?_eq_some_iff
  definition member := by
    rw [checkWord_text_eq_ok_iff, readLabel_text_eq_ok_iff,
      vocabulary.ofNormalised?_eq_some_iff stripped]

/-- A text without blanks at its ends is read by a factory when it has the capital form
of a name.  A definition reads the same member from it when the text is made of ASCII
characters, and nothing otherwise; and a condition whose kind is not read is left out.
On operators both readers always agree. -/
theorem readers_agree_on_ascii_texts (t : Text)
    (stripped : Text.IsStripped t.content.toList) :
    ReadByCapitals ConditionKind "condition_kind" t ∧
      ReadByCapitals Operator "condition_operator" t ∧
      ReadByCapitals ActionKind "action_kind" t ∧
      (∀ operator, checkWord Operator (.text t) = .ok operator ↔
        readLabel Operator "condition_operator" (.text t) = .ok operator) ∧
      ∀ fields, Datum.lookup "kind" fields = some (.text t) →
        (RuleDefinition.unknownKind? (.mapping fields) = none ↔
          ∃ kind, readLabel ConditionKind "condition_kind" (.text t) = .ok kind ∧
            Text.IsASCII t.content.toList) := by
  have kinds := Vocabulary.isPlain_conditionKind.readByCapitals "condition_kind" stripped
  refine ⟨kinds, Vocabulary.isPlain_operator.readByCapitals _ stripped,
    Vocabulary.isPlain_actionKind.readByCapitals _ stripped, fun operator => ?_,
    fun fields written => ?_⟩
  · have letters : (Vocabulary.nameOf operator).toList.all fun c =>
        c != 'S' && c != 'I' && c != 'F' := by
      cases operator <;> rfl
    rw [checkWord_text_eq_ok_iff, readLabel_text_eq_ok_iff,
      Vocabulary.isPlain_operator.ofNormalised?_eq_some_iff_of_letters stripped]
    simpa [and_assoc] using letters
  · rw [unknownKind?_eq_none_iff written]
    exact exists_congr kinds.definition

/-- Both readers read the kind of a condition in mixed case. -/
theorem item_code_in_mixed_case_is_read :
    Text.IsStripped "Item_Code".toList ∧
      checkWord ConditionKind (.ofString "Item_Code") = .ok .itemCode := by
  have stripped : Text.IsStripped "Item_Code".toList :=
    .of_ends 'I' 'e' rfl rfl rfl rfl
  have read : readLabel ConditionKind "condition_kind" (.ofString "Item_Code") =
      .ok .itemCode := rfl
  obtain ⟨kinds, -⟩ := readers_agree_on_ascii_texts (.plain "Item_Code") stripped
  exact ⟨stripped, (kinds.definition .itemCode).2 ⟨read, by decide +kernel⟩⟩

/-- The kind of conditions on item codes, with a dotless i. -/
def dotlessKind : Text := .plain "\u0131tem_code"

/-- A tenth off pens, with a dotless i in the kind of the condition. -/
def dotlessOffer : Datum :=
  .mapping
    [("conditions", .list [.mapping [("kind", .text dotlessKind), ("value", .ofString "PEN")]]),
      ("actions", .list [.mapping [("kind", .ofString "discount_percent"), ("value", .int 10)]])]

/-- From the dotless kind the factory builds a condition.  In a definition the condition
is lost, and its rule is kept without it. -/
theorem dotless_kind_is_read_by_the_factory_only :
    (¬ ∀ t : Text, Text.IsStripped t.content.toList → ∀ kind : ConditionKind,
        checkWord ConditionKind (.text t) = .ok kind ↔
          readLabel ConditionKind "condition_kind" (.text t) = .ok kind) ∧
      Text.IsStripped dotlessKind.content.toList ∧
      Condition.create (.text dotlessKind) .null (.ofString "PEN") =
        .ok ⟨.itemCode, .eq, .text (.plain "PEN")⟩ ∧
      (loadRules (.list [dotlessOffer])).outcome =
        .ok [⟨[], [⟨.discountPercent, Amount.ofInt 10⟩], .null⟩] := by
  have stripped : Text.IsStripped dotlessKind.content.toList :=
    .of_ends '\u0131' 'e' rfl (by decide +kernel) rfl rfl
  have known : Vocabulary.ofAnyCase? dotlessKind.content = some ConditionKind.itemCode :=
    Vocabulary.isPlain_conditionKind.ofAnyCase?_eq_some_iff.2 rfl
  have loaded : (loadRule 0 dotlessOffer).outcome =
      .ok ⟨[], [⟨.discountPercent, Amount.ofInt 10⟩], .null⟩ := rfl
  refine ⟨fun agree => ?_, stripped, Condition.create_eq_ofKnown known rfl nofun,
    by rw [outcome_loadRules_singleton, loaded]; rfl⟩
  have unread : checkWord ConditionKind (.text dotlessKind) = .ok .itemCode :=
    (agree dotlessKind stripped .itemCode).2 (readLabel_text known)
  cases unread

end RetailPricing
