import RetailPricing.Json.Reader

/-!
# Numbers in JSON

A number with a point or an exponent is a numeral that decimals read exactly: its
digits make the coefficient, whatever their number, and the exponent is told by the
written one and the digits behind the point (`unsigned?_append`).  So the only
numbers without a value are those whose exponent lies beyond the limits of decimals
(`BeyondLimits`).
-/

namespace RetailPricing

namespace Json

open Numeral (isDigit valueOfDigits)

/-- Nothing, or a point with digits behind it. -/
def IsFraction (part : List Char) : Prop :=
  part = [] ∨ ∃ digits, part = '.' :: digits ∧ digits ≠ [] ∧ digits.all isDigit = true

/-- Nothing, or the letter e with a row of digits that may have a sign. -/
def IsExponent (part : List Char) : Prop :=
  part = [] ∨ ∃ e sign digits, part = e :: sign ++ digits ∧ (e = 'e' ∨ e = 'E') ∧
    (sign = [] ∨ sign = ['-'] ∨ sign = ['+']) ∧ digits ≠ [] ∧ digits.all isDigit = true

theorem all_wholeDigits (cs : List Char) : (wholeDigits cs).all isDigit = true := by
  rw [wholeDigits.eq_def]
  split
  · rfl
  · exact List.all_takeWhile

theorem isFraction_fractionPart (cs : List Char) : IsFraction (fractionPart cs) := by
  rw [fractionPart.eq_def]
  split
  next rest =>
      split
      next => exact .inl rfl
      next digits given =>
          refine .inr ⟨_, rfl, given, List.all_takeWhile⟩
  next => exact .inl rfl

theorem isExponent_exponentPart (cs : List Char) : IsExponent (exponentPart cs) := by
  rw [exponentPart.eq_def]
  split
  next e rest =>
      split
      next letter =>
          dsimp only
          split
          next => exact .inl rfl
          next digits given =>
              refine .inr ⟨e, _, _, rfl, letter, ?_, given, List.all_takeWhile⟩
              split
              · exact .inr (.inl rfl)
              · exact .inr (.inr rfl)
              · exact .inl rfl
      next => exact .inl rfl
  next => exact .inl rfl

/-- No digit stands in front. -/
def NoDigitAhead (cs : List Char) : Prop :=
  ∀ c rest, cs = c :: rest → isDigit c = false

theorem noDigitAhead_of_isExponent {part : List Char} (exponent : IsExponent part) :
    NoDigitAhead part := by
  rcases exponent with rfl | ⟨e, sign, digits, rfl, rfl | rfl, _⟩
  · rintro c rest ⟨⟩
  · rintro c rest ⟨⟩
    rfl
  · rintro c rest ⟨⟩
    rfl

theorem splitDigits_append {digits rest : List Char} (all : digits.all isDigit = true)
    (stops : NoDigitAhead rest) : Numeral.splitDigits (digits ++ rest) = (digits, rest) := by
  have every : ∀ c ∈ digits, isDigit c = true := List.all_eq_true.1 all
  have taken : rest.takeWhile isDigit = [] ∧ rest.dropWhile isDigit = rest := by
    cases rest with
    | nil => exact ⟨rfl, rfl⟩
    | cons c more =>
        have noDigit := stops c more rfl
        rw [List.takeWhile_cons_of_neg (by simp [noDigit]),
          List.dropWhile_cons_of_neg (by simp [noDigit])]
        exact ⟨rfl, rfl⟩
  rw [Numeral.splitDigits, List.takeWhile_append_of_pos every, taken.1, List.append_nil,
    List.dropWhile_append_of_pos every, taken.2]

/-- Digits in front, of which there are some, are no sign. -/
theorem splitSign_digits_append {digits : List Char} (given : digits ≠ [])
    (all : digits.all isDigit = true) (rest : List Char) :
    Numeral.splitSign (digits ++ rest) = (false, digits ++ rest) := by
  obtain ⟨c, more, rfl⟩ := List.exists_cons_of_ne_nil given
  have digit : isDigit c = true := List.all_eq_true.1 all c List.mem_cons_self
  rw [List.cons_append, Numeral.splitSign.eq_def]
  split
  next same =>
      obtain ⟨rfl, _⟩ := List.cons.inj same
      cases digit
  next same =>
      obtain ⟨rfl, _⟩ := List.cons.inj same
      cases digit
  next => rfl

theorem exists_exponent?_eq_some {part : List Char} (exponent : IsExponent part) :
    ∃ e, Numeral.exponent? part = some e := by
  rcases exponent with rfl | ⟨e, sign, digits, rfl, letter, signed, given, all⟩
  · exact ⟨0, rfl⟩
  · have split : ∃ negative, Numeral.splitSign (sign ++ digits) = (negative, digits) := by
      rcases signed with rfl | rfl | rfl
      · exact ⟨false, by simpa using splitSign_digits_append given all []⟩
      · exact ⟨true, rfl⟩
      · exact ⟨false, rfl⟩
    obtain ⟨negative, split⟩ := split
    refine ⟨if negative then -(valueOfDigits digits : Int) else valueOfDigits digits, ?_⟩
    rw [List.cons_append, Numeral.exponent?, if_pos letter, split]
    simp [given, all]

/-- Digits, a fraction and an exponent are read exactly. -/
theorem unsigned?_append (negative : Bool) {whole fraction exponent : List Char}
    (given : whole ≠ []) (all : whole.all isDigit = true) (fractional : IsFraction fraction)
    (exponential : IsExponent exponent) :
    ∃ e, Numeral.exponent? exponent = some e ∧
      Numeral.unsigned? negative (whole ++ (fraction ++ exponent)) =
        some ⟨negative, valueOfDigits (whole ++ fraction.tail), e - fraction.tail.length⟩ := by
  obtain ⟨e, read⟩ := exists_exponent?_eq_some exponential
  have stops := noDigitAhead_of_isExponent exponential
  refine ⟨e, read, ?_⟩
  rw [Numeral.unsigned?]
  rcases fractional with rfl | ⟨digits, rfl, behind, allBehind⟩
  · rw [List.nil_append, splitDigits_append all stops]
    have noPoint : ∀ rest, exponent ≠ '.' :: rest := by
      rintro rest rfl
      rcases exponential with isNil | ⟨_, _, _, same, rfl | rfl, _⟩
      · cases isNil
      · cases same
      · cases same
    dsimp only
    split
    next rest => exact absurd rfl (noPoint rest)
    next => simp [given, read]
  · have point : NoDigitAhead ('.' :: digits ++ exponent) := by
      rintro c rest ⟨⟩
      rfl
    rw [splitDigits_append all point]
    simp only [List.cons_append]
    rw [splitDigits_append allBehind stops]
    simp [given, read]

theorem toLower_of_isDigit {c : Char} (digit : isDigit c = true) : c.toLower = c := by
  have upper : c ≤ '9' := by
    rw [isDigit, Bool.and_eq_true, decide_eq_true_eq, decide_eq_true_eq] at digit
    exact digit.2
  have notCapital : ¬ 'A'.val ≤ c.val := fun capital =>
    absurd (UInt32.le_trans capital upper) (by decide)
  exact dif_neg fun capital => notCapital capital.1

/-- No word for a number starts with a digit. -/
theorem special?_of_digit {negative : Bool} {c : Char} {rest : List Char}
    (digit : isDigit c = true) : Numeral.special? negative (c :: rest) = none := by
  have noLetter (letter : Char) (other : isDigit letter = false) : c ≠ letter := by
    rintro rfl
    rw [digit] at other
    cases other
  rw [Numeral.special?, List.map_cons, toLower_of_isDigit digit]
  dsimp only
  rw [if_neg]
  · split
    next same => exact absurd (List.cons.inj same).1 (noLetter 'n' rfl)
    next same => exact absurd (List.cons.inj same).1 (noLetter 's' rfl)
    next => rfl
  · rintro (same | same)
    · exact absurd (List.cons.inj same).1 (noLetter 'i' rfl)
    · exact absurd (List.cons.inj same).1 (noLetter 'i' rfl)

/-- What is written is a numeral whose exponent is beyond the limits of decimals. -/
def BeyondLimits (written : List Char) : Prop :=
  ∃ negative unsigned amount, Numeral.splitSign written = (negative, unsigned) ∧
    Numeral.unsigned? negative unsigned = some amount ∧ Numeral.withinLimits amount = false

theorem splitSign_append {sign digits : List Char} (signed : sign = [] ∨ sign = ['-'])
    (given : digits ≠ []) (all : digits.all isDigit = true) (rest : List Char) :
    ∃ negative, Numeral.splitSign (sign ++ (digits ++ rest)) = (negative, digits ++ rest) := by
  rcases signed with rfl | rfl
  · exact ⟨false, splitSign_digits_append given all rest⟩
  · exact ⟨true, rfl⟩

theorem beyondLimits_of_ofPlainChars?_eq_none {sign whole fraction exponent : List Char}
    (signed : sign = [] ∨ sign = ['-']) (given : whole ≠ [])
    (all : whole.all isDigit = true) (fractional : IsFraction fraction)
    (exponential : IsExponent exponent)
    (noDecimal : Decimal.ofPlainChars? (sign ++ (whole ++ (fraction ++ exponent))) = none) :
    BeyondLimits (sign ++ (whole ++ (fraction ++ exponent))) := by
  obtain ⟨negative, split⟩ := splitSign_append signed given all (fraction ++ exponent)
  obtain ⟨e, _, read⟩ :=
    unsigned?_append negative given all fractional exponential
  have noWord : Numeral.special? negative (whole ++ (fraction ++ exponent)) = none := by
    obtain ⟨c, digits, rfl⟩ := List.exists_cons_of_ne_nil given
    exact special?_of_digit (List.all_eq_true.1 all c List.mem_cons_self)
  refine ⟨negative, _, _, split, read, ?_⟩
  rw [Decimal.ofPlainChars?, split] at noDecimal
  simp only [noWord, read] at noDecimal
  split at noDecimal
  next => cases noDecimal
  next beyond => simpa using beyond

end Json

end RetailPricing
