import RetailPricing.Proofs.Json.Grammar

/-!
# Reading texts, numbers and words

What is spelled in quotes, a number and a word are read back, whatever stands behind
them.  Only a number needs to know: digits, a point or the letter of an exponent behind
it would be taken for parts of it (`EndsValue`).  Its parts are found one after the
other, each where the one in front of it ends (`readNumber_text`), and its digits are
kept, however many they are.
-/

namespace RetailPricing

namespace Json

open Numeral (isDigit)

theorem hexDigit?_of_isHexDigit {c : Char} {value : Nat} (digit : IsHexDigit c value) :
    hexDigit? c = some value := by
  have table : ∀ value : Fin 16, hexDigit? (Nat.digitChar value) = some value.1 ∧
      hexDigit? (Nat.digitChar value).toUpper = some value.1 := by decide
  obtain ⟨small, rfl | rfl⟩ := digit
  · exact (table ⟨value, small⟩).1
  · exact (table ⟨value, small⟩).2

/-- Reading one escape of a code unit. -/
theorem readPieces_of_writesUnit {unit : Nat} {code : List Char} (writes : WritesUnit unit code)
    (opening place : Nat) {behind : List Char} (more : behind ≠ []) :
    readPieces opening place (code ++ behind) =
      withPiece (.unit unit) (readPieces opening (place + 6) behind) := by
  cases writes with
  | @digits a b c d i j k l first second third fourth =>
      have read : codeUnit? a b c d = some (((i * 16 + j) * 16 + k) * 16 + l) := by
        rw [codeUnit?, hexDigit?_of_isHexDigit first, hexDigit?_of_isHexDigit second,
          hexDigit?_of_isHexDigit third, hexDigit?_of_isHexDigit fourth]
        rfl
      have given : behind.isEmpty = false := List.isEmpty_eq_false_iff.2 more
      simp only [List.cons_append, List.nil_append]
      rw [readPieces, given, if_neg Bool.false_ne_true, read]

theorem readPieces_of_short {letter c : Char} (short : (letter, c) ∈ shortEscapes)
    (opening place : Nat) (behind : List Char) :
    readPieces opening place ('\\' :: letter :: behind) =
      withPiece (.char c) (readPieces opening (place + 2) behind) := by
  simp only [shortEscapes, List.mem_cons, Prod.mk.injEq, List.not_mem_nil, or_false] at short
  rcases short with ⟨rfl, rfl⟩ | ⟨rfl, rfl⟩ | ⟨rfl, rfl⟩ | ⟨rfl, rfl⟩ | ⟨rfl, rfl⟩ | ⟨rfl, rfl⟩ |
    ⟨rfl, rfl⟩ | ⟨rfl, rfl⟩ <;> rfl

theorem readPieces_of_plain {c : Char} (printable : 0x20 ≤ c.toNat) (noQuote : c ≠ '"')
    (noBackslash : c ≠ '\\') (opening place : Nat) (behind : List Char) :
    readPieces opening place (c :: behind) =
      withPiece (.char c) (readPieces opening (place + 1) behind) := by
  rw [readPieces.eq_def]
  split
  next same => cases same
  next same => exact absurd (List.cons.inj same).1 noQuote
  next same => exact absurd (List.cons.inj same).1 noBackslash
  next same => exact absurd (List.cons.inj same).1 noBackslash
  next same => exact absurd (List.cons.inj same).1 noBackslash
  next same =>
      obtain ⟨rfl, rfl⟩ := List.cons.inj same
      have above : ¬ c.val ≤ 0x1F := fun below => by
        have := UInt32.le_iff_toNat_le.1 below
        exact absurd (printable.trans this) (by decide)
      rw [if_neg above]

theorem not_surrogate (c : Char) :
    isHighSurrogate c.toNat = false ∧ isLowSurrogate c.toNat = false := by
  have scalar : c.toNat < 0xD800 ∨ 0xDFFF < c.toNat ∧ c.toNat < 0x110000 := c.valid
  simp only [isHighSurrogate, isLowSurrogate, Bool.and_eq_false_iff, decide_eq_false_iff_not]
  omega

/-- A unit that is no surrogate stands for itself, whatever stands behind it. -/
theorem joinPieces_unit (c : Char) (pieces : List Piece) :
    joinPieces (.unit c.toNat :: pieces) = c :: joinPieces pieces := by
  obtain ⟨noHigh, noLow⟩ := not_surrogate c
  have itself : charOfUnit c.toNat = c := by
    rw [charOfUnit, noHigh, noLow]
    exact Char.ofNat_toNat c
  rw [joinPieces.eq_def]
  split
  next same => cases same
  next same => cases same
  next same =>
      cases same
      rw [noHigh, itself]
      rfl
  next same =>
      cases same
      rw [itself]

/-- The surrogates of a character join to it. -/
theorem joinPieces_surrogates {c : Char} (behind : 0x10000 ≤ c.toNat) (pieces : List Piece) :
    joinPieces (.unit (highSurrogate c) :: .unit (lowSurrogate c) :: pieces) =
      c :: joinPieces pieces := by
  have scalar : c.toNat < 0xD800 ∨ 0xDFFF < c.toNat ∧ c.toNat < 0x110000 := c.valid
  have high : isHighSurrogate (highSurrogate c) = true := by
    rw [isHighSurrogate, Bool.and_eq_true, decide_eq_true_eq, decide_eq_true_eq, highSurrogate]
    omega
  have low : isLowSurrogate (lowSurrogate c) = true := by
    rw [isLowSurrogate, Bool.and_eq_true, decide_eq_true_eq, decide_eq_true_eq, lowSurrogate]
    omega
  have joined : joinSurrogates (highSurrogate c) (lowSurrogate c) = c := by
    have number : 0x10000 + (highSurrogate c - 0xD800) * 0x400 + (lowSurrogate c - 0xDC00) =
        c.toNat := by
      rw [highSurrogate, lowSurrogate]
      omega
    rw [joinSurrogates, number, Char.ofNat_toNat]
  rw [joinPieces, high, low, joined]
  rfl

/-- The inside of a text is read up to the quote behind it. -/
theorem readPieces_of_spells {characters written : List Char} (spells : Spells characters written)
    (opening place : Nat) (rest : List Char) :
    ∃ pieces behind, readPieces opening place (written ++ '"' :: rest) = .ok (pieces, behind) ∧
      behind.rest = rest ∧ joinPieces pieces = characters := by
  induction spells generalizing place with
  | nil => exact ⟨[], ⟨place + 1, rest⟩, rfl, rfl, rfl⟩
  | @plain c _ _ printable noQuote noBackslash _ ih =>
      obtain ⟨pieces, behind, read, left, joined⟩ := ih (place + 1)
      refine ⟨.char c :: pieces, behind, ?_, left, congrArg (c :: ·) joined⟩
      rw [List.cons_append, readPieces_of_plain printable noQuote noBackslash, read]
      rfl
  | @escape _ c _ _ short _ ih =>
      obtain ⟨pieces, behind, read, left, joined⟩ := ih (place + 2)
      refine ⟨.char c :: pieces, behind, ?_, left, congrArg (c :: ·) joined⟩
      rw [List.cons_append, List.cons_append, readPieces_of_short short, read]
      rfl
  | @unit c _ _ _ _ unit _ ih =>
      obtain ⟨pieces, behind, read, left, joined⟩ := ih (place + 6)
      refine ⟨.unit c.toNat :: pieces, behind, ?_, left, ?_⟩
      · rw [List.append_assoc, readPieces_of_writesUnit unit _ _ (by simp), read]
        rfl
      · rw [joinPieces_unit, joined]
  | @pair c _ _ _ _ secondPlane first second _ ih =>
      obtain ⟨pieces, behind, read, left, joined⟩ := ih (place + 6 + 6)
      refine ⟨.unit (highSurrogate c) :: .unit (lowSurrogate c) :: pieces, behind, ?_, left, ?_⟩
      · rw [List.append_assoc, List.append_assoc, readPieces_of_writesUnit first _ _ (by simp),
          readPieces_of_writesUnit second _ _ (by simp), read]
        rfl
      · rw [joinPieces_surrogates secondPlane, joined]

theorem readText_of_spells {s : String} {written : List Char} (spells : Spells s.toList written)
    (opening : Nat) (rest : List Char) :
    ∃ behind, readText opening (written ++ '"' :: rest) = .ok (s, behind) ∧ behind.rest = rest := by
  obtain ⟨pieces, behind, read, left, joined⟩ :=
    readPieces_of_spells spells opening (opening + 1) rest
  refine ⟨behind, ?_, left⟩
  rw [readText, read]
  exact congrArg (fun text => Except.ok (text, behind)) (joined ▸ String.ofList_toList)

/-! ## Reading numbers -/

/-- What stands behind a value: a blank, a comma or a closing bracket, or nothing. -/
def EndsValue (rest : List Char) : Prop :=
  ∀ c more, rest = c :: more → c ∈ blankCharacters ++ [',', ']', '\x7d']

namespace EndsValue

variable {rest : List Char} (ends : EndsValue rest)

include ends

theorem noDigitAhead : NoDigitAhead rest := fun c more same => by
  have table : ∀ c ∈ blankCharacters ++ [',', ']', '\x7d'], isDigit c = false :=
    List.all_iff_forall_prop.1 (by decide)
  exact table c (ends c more same)

theorem fractionPart_eq_nil : fractionPart rest = [] := by
  cases rest with
  | nil => rfl
  | cons c more =>
      have noPoint : c ≠ '.' := fun point => absurd (point ▸ ends c more rfl) (by decide)
      rw [fractionPart.eq_def]
      split
      next same => exact absurd (List.cons.inj same).1 noPoint
      next => rfl

theorem exponentPart_eq_nil : exponentPart rest = [] := by
  cases rest with
  | nil => rfl
  | cons c more =>
      have noLetter : ¬ (c = 'e' ∨ c = 'E') := by
        rintro (rfl | rfl) <;> exact absurd (ends _ more rfl) (by decide)
      rw [exponentPart.eq_def]
      exact if_neg noLetter

end EndsValue

theorem takeWhile_isDigit_append {digits rest : List Char} (all : digits.all isDigit = true)
    (stops : NoDigitAhead rest) : (digits ++ rest).takeWhile isDigit = digits :=
  congrArg Prod.fst (splitDigits_append all stops)

namespace WrittenExponent.IsFormed

variable {exponent : WrittenExponent} (formed : exponent.IsFormed)

include formed

theorem isExponent_text : IsExponent exponent.text :=
  .inr ⟨_, _, _, rfl, formed.letter, formed.sign, formed.given, formed.digits⟩

theorem exponentPart_text_append {rest : List Char} (stops : NoDigitAhead rest) :
    exponentPart (exponent.text ++ rest) = exponent.text := by
  obtain ⟨letter, sign, digits⟩ := exponent
  obtain ⟨isLetter, signed, given, all⟩ := formed
  dsimp only at isLetter signed given all
  have taken := takeWhile_isDigit_append all stops
  obtain ⟨first, others, rfl⟩ := List.exists_cons_of_ne_nil given
  have digit : first.isDigit = true := List.all_eq_true.1 all first List.mem_cons_self
  rw [List.cons_append] at taken
  simp only [text, List.cons_append, List.append_assoc]
  rw [exponentPart.eq_def]
  dsimp only
  rw [if_pos isLetter]
  rcases signed with rfl | rfl | rfl
  · have noMinus : first ≠ '-' := fun same => absurd (same ▸ digit) (by decide)
    have noPlus : first ≠ '+' := fun same => absurd (same ▸ digit) (by decide)
    simp [taken, noMinus, noPlus]
  · simp [taken]
  · simp [taken]

theorem exponent?_text : Numeral.exponent? exponent.text = some exponent.value := by
  obtain ⟨letter, sign, digits⟩ := exponent
  obtain ⟨isLetter, signed, given, all⟩ := formed
  dsimp only at isLetter signed given all
  have split : Numeral.splitSign (sign ++ digits) = (decide (sign = ['-']), digits) := by
    rcases signed with rfl | rfl | rfl
    · simpa using splitSign_digits_append given all []
    · rfl
    · rfl
  have readable : (digits.isEmpty || !digits.all isDigit) = false := by
    rw [List.isEmpty_eq_false_iff.2 given, Bool.false_or, Bool.not_eq_false']
    exact all
  rw [text, List.cons_append, Numeral.exponent?, if_pos isLetter, split]
  dsimp only
  rw [readable, if_neg Bool.false_ne_true, value]
  simp only [decide_eq_true_eq]
  rfl

end WrittenExponent.IsFormed

theorem NumberLiteral.tail_fraction (literal : NumberLiteral) :
    literal.fraction.tail = literal.places := by
  rw [fraction]
  split
  next none => exact none.symm
  next => rfl

theorem NumberLiteral.isEmpty_parts (literal : NumberLiteral) :
    (literal.fraction.isEmpty && literal.exponentText.isEmpty) = literal.isWhole := by
  rw [fraction, exponentText, isWhole]
  congr 1
  · cases literal.places <;> rfl
  · cases literal.exponent <;> rfl

namespace NumberLiteral.IsFormed

variable {literal : NumberLiteral} (formed : literal.IsFormed)

include formed

theorem isFraction_fraction : IsFraction literal.fraction := by
  rw [NumberLiteral.fraction]
  split
  · exact .inl rfl
  next given => exact .inr ⟨_, rfl, given, formed.places⟩

theorem isExponent_exponentText : IsExponent literal.exponentText := by
  rw [exponentText]
  cases given : literal.exponent with
  | none => exact .inl rfl
  | some exponent => exact (formed.exponent exponent given).isExponent_text

theorem exponent?_exponentText :
    Numeral.exponent? literal.exponentText =
      some ((literal.exponent.map WrittenExponent.value).getD 0) := by
  rw [exponentText]
  cases given : literal.exponent with
  | none => rfl
  | some exponent => exact (formed.exponent exponent given).exponent?_text

theorem splitSign_text :
    Numeral.splitSign literal.text =
      (literal.negative, literal.whole ++ (literal.fraction ++ literal.exponentText)) := by
  rw [text, sign]
  cases literal.negative with
  | true => rfl
  | false => exact splitSign_digits_append formed.given formed.whole _

/-- The numeral is read digit for digit. -/
theorem ofPlainChars?_text (limits : Numeral.withinLimits literal.amount = true) :
    Decimal.ofPlainChars? literal.text = some (.finite literal.amount) := by
  have noWord : Numeral.special? literal.negative
      (literal.whole ++ (literal.fraction ++ literal.exponentText)) = none := by
    have all := formed.whole
    obtain ⟨c, digits, same⟩ := List.exists_cons_of_ne_nil formed.given
    rw [same] at all ⊢
    exact special?_of_digit (List.all_eq_true.1 all c List.mem_cons_self)
  obtain ⟨e, exponent, read⟩ := unsigned?_append literal.negative formed.given formed.whole
    formed.isFraction_fraction formed.isExponent_exponentText
  rw [formed.exponent?_exponentText] at exponent
  obtain rfl := Option.some.inj exponent
  rw [literal.tail_fraction] at read
  rw [Decimal.ofPlainChars?, formed.splitSign_text]
  simp only [noWord, read]
  exact if_pos limits

variable {rest : List Char} (ends : EndsValue rest)

include ends

theorem exponentPart_append :
    exponentPart (literal.exponentText ++ rest) = literal.exponentText := by
  rw [exponentText]
  cases given : literal.exponent with
  | none => exact ends.exponentPart_eq_nil
  | some exponent =>
      exact (formed.exponent exponent given).exponentPart_text_append ends.noDigitAhead

theorem noDigitAhead_exponentText_append : NoDigitAhead (literal.exponentText ++ rest) := by
  cases given : literal.exponentText with
  | nil => exact ends.noDigitAhead
  | cons c more =>
      rintro _ _ ⟨⟩
      exact noDigitAhead_of_isExponent formed.isExponent_exponentText c more given

theorem fractionPart_append :
    fractionPart (literal.fraction ++ (literal.exponentText ++ rest)) = literal.fraction := by
  have stops := formed.noDigitAhead_exponentText_append ends
  rcases formed.isFraction_fraction with none | ⟨digits, given, some, all⟩
  · rw [none, List.nil_append]
    rcases formed.isExponent_exponentText with none | ⟨e, sign, digits, given, letter, _⟩
    · rw [none]
      exact ends.fractionPart_eq_nil
    · rw [given, fractionPart.eq_def]
      split
      next same =>
          rcases letter with rfl | rfl <;> cases same
      next => rfl
  · obtain ⟨first, others, rfl⟩ := List.exists_cons_of_ne_nil some
    rw [given, List.cons_append, fractionPart, takeWhile_isDigit_append all stops]

theorem wholeDigits_append :
    wholeDigits (literal.whole ++ (literal.fraction ++ (literal.exponentText ++ rest))) =
      literal.whole := by
  have stops : NoDigitAhead (literal.fraction ++ (literal.exponentText ++ rest)) := by
    rcases formed.isFraction_fraction with none | ⟨digits, given, _⟩
    · rw [none]
      exact formed.noDigitAhead_exponentText_append ends
    · rw [given]
      rintro _ _ ⟨⟩
      rfl
  have taken := takeWhile_isDigit_append formed.whole stops
  rw [wholeDigits.eq_def]
  rcases formed.noZeroInFront with zero | noZero
  · rw [zero]
    rfl
  · split
    next rest same =>
        obtain ⟨first, others, given⟩ := List.exists_cons_of_ne_nil formed.given
        rw [given, List.cons_append] at same
        obtain ⟨rfl, _⟩ := List.cons.inj same
        exact absurd (given ▸ List.prefix_append ['0'] others) noZero
    next => exact taken

omit ends in
theorem signPart_append (rest : List Char) :
    (match literal.text ++ rest with
      | '-' :: _ => ['-']
      | _ => []) = literal.sign := by
  rw [NumberLiteral.text, NumberLiteral.sign]
  cases literal.negative with
  | true => rfl
  | false =>
      obtain ⟨c, digits, given⟩ := List.exists_cons_of_ne_nil formed.given
      have digit : c.isDigit = true :=
        List.all_eq_true.1 formed.whole c (given ▸ List.mem_cons_self)
      rw [given]
      split
      next same =>
          obtain ⟨rfl, _⟩ := List.cons.inj same
          cases digit
      next => rfl

/-- A number is read up to what stands behind it. -/
theorem readNumber_text (limits : literal.IsWithinLimits) {cursor : Cursor}
    (ahead : cursor.rest = literal.text ++ rest) :
    readNumber cursor = .ok (literal.datum, cursor.advance literal.text.length) := by
  -- Each part is found where the ones in front of it end.
  unfold readNumber
  extract_lets signPart unsigned whole fraction exponent digits behind size written
  have signRead : signPart = literal.sign := by
    dsimp only [signPart]
    rw [ahead]
    exact formed.signPart_append rest
  have unsignedRead : unsigned =
      literal.whole ++ (literal.fraction ++ (literal.exponentText ++ rest)) := by
    dsimp only [unsigned]
    rw [signRead, ahead, NumberLiteral.text, List.append_assoc, List.drop_left,
      List.append_assoc, List.append_assoc]
  have wholeRead : whole = literal.whole := by
    dsimp only [whole]
    rw [unsignedRead, formed.wholeDigits_append ends]
  have fractionRead : fraction = literal.fraction := by
    dsimp only [fraction]
    rw [wholeRead, unsignedRead, List.drop_left, formed.fractionPart_append ends]
  have exponentRead : exponent = literal.exponentText := by
    dsimp only [exponent]
    rw [fractionRead, wholeRead, unsignedRead, ← List.length_append, ← List.append_assoc,
      List.drop_left, formed.exponentPart_append ends]
  have writtenRead : written = literal.text := by
    simp only [written, digits, signRead, wholeRead, fractionRead, exponentRead,
      NumberLiteral.text, List.append_assoc]
  have given : whole.isEmpty = false := wholeRead ▸ List.isEmpty_eq_false_iff.2 formed.given
  rw [given, if_neg Bool.false_ne_true, fractionRead, exponentRead, literal.isEmpty_parts]
  cases kind : literal.isWhole with
  | true =>
      obtain ⟨noPlaces, noExponent⟩ : literal.places = [] ∧ literal.exponent = none := by
        simpa [NumberLiteral.isWhole] using kind
      have short : digits = literal.text := by
        simp only [digits, signRead, wholeRead, NumberLiteral.text, NumberLiteral.fraction,
          NumberLiteral.exponentText, noPlaces, noExponent]
        simp
      have whole : size = literal.size := by
        simp only [size, wholeRead, NumberLiteral.size, noPlaces, List.append_nil]
        rfl
      have sign : signPart.isEmpty = !literal.negative := by
        rw [signRead, NumberLiteral.sign]
        cases literal.negative <;> rfl
      rw [if_pos rfl, short, whole, sign, NumberLiteral.datum, kind, if_pos rfl]
      cases literal.negative <;> rfl
  | false =>
      rw [if_neg Bool.false_ne_true, writtenRead, formed.ofPlainChars?_text (limits kind),
        NumberLiteral.datum, kind]
      rfl

end NumberLiteral.IsFormed

theorem readScalar_of_constant {datum : Datum} {letters : Token}
    (listed : (datum, letters) ∈ constants) {cursor : Cursor} {rest : List Char}
    (ahead : cursor.rest = letters ++ rest) :
    readScalar cursor = .ok (datum, cursor.advance letters.length) := by
  rw [readScalar, ahead]
  simp only [constants, List.mem_cons, Prod.mk.injEq, List.not_mem_nil, or_false] at listed
  rcases listed with ⟨rfl, rfl⟩ | ⟨rfl, rfl⟩ | ⟨rfl, rfl⟩ | ⟨rfl, rfl⟩ | ⟨rfl, rfl⟩ | ⟨rfl, rfl⟩ <;>
    rfl

theorem NumberLiteral.IsFormed.starts {literal : NumberLiteral} (formed : literal.IsFormed) :
    ∃ c rest, literal.text = c :: rest ∧
      (c.isDigit = true ∨ c = '-' ∧ ∃ d more, rest = d :: more ∧ d.isDigit = true) := by
  obtain ⟨d, digits, given⟩ := List.exists_cons_of_ne_nil formed.given
  have digit : d.isDigit = true :=
    List.all_eq_true.1 formed.whole d (given ▸ List.mem_cons_self)
  rw [NumberLiteral.text, NumberLiteral.sign, given]
  cases literal.negative with
  | true => exact ⟨'-', _, rfl, .inr ⟨rfl, d, _, rfl, digit⟩⟩
  | false => exact ⟨d, _, rfl, .inl digit⟩

theorem isPrefixOf_eq_false {c d : Char} {word text : List Char} (different : c ≠ d) :
    (c :: word).isPrefixOf (d :: text) = false := by
  rw [List.isPrefixOf_cons_cons, beq_eq_false_iff_ne.2 different, Bool.false_and]

/-- No word is the beginning of a number. -/
theorem NumberLiteral.IsFormed.find?_words {literal : NumberLiteral} (formed : literal.IsFormed)
    (rest : List Char) :
    (words.find? fun (word, _) => word.isPrefixOf (literal.text ++ rest)) = none := by
  have noDigit {c letter : Char} (digit : c.isDigit = true) (other : letter.isDigit = false) :
      letter ≠ c := by
    rintro rfl
    rw [digit] at other
    cases other
  obtain ⟨c, behind, starts, digit | ⟨rfl, d, more, rfl, digit⟩⟩ := formed.starts
  · rw [starts]
    refine List.find?_eq_none.2 fun entry listed => Bool.not_eq_true _ ▸ ?_
    simp only [words, List.mem_cons, List.not_mem_nil, or_false] at listed
    rcases listed with rfl | rfl | rfl | rfl | rfl | rfl <;>
      exact isPrefixOf_eq_false (noDigit digit rfl)
  · rw [starts]
    refine List.find?_eq_none.2 fun entry listed => Bool.not_eq_true _ ▸ ?_
    simp only [words, List.mem_cons, List.not_mem_nil, or_false] at listed
    have behindSign : "Infinity".toList.isPrefixOf (d :: (more ++ rest)) = false :=
      isPrefixOf_eq_false (noDigit digit rfl)
    rcases listed with rfl | rfl | rfl | rfl | rfl | rfl
    case inr.inr.inr.inr.inr => exact behindSign
    all_goals exact isPrefixOf_eq_false (by decide)

end Json

end RetailPricing
