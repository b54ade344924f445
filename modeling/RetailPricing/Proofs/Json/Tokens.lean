import RetailPricing.Proofs.Json.Scalars

/-!
# The tokens of a value

Tokens hold no control characters and start with no blank (`Writes.isToken`).  So blanks
in front of a token are all that is passed over (`Spaced.skipBlanks_cons`), and a text
has at least as many characters as tokens.
-/

namespace RetailPricing

namespace Json

open Numeral (isDigit)

/-- The token starts with no blank and holds no control characters. -/
structure IsToken (token : Token) : Prop where
  starts : ∃ c rest, token = c :: rest ∧ c ≠ ' '
  printable : ∀ c ∈ token, 0x20 ≤ c.toNat

theorem IsHexDigit.printable {c : Char} {value : Nat} (digit : IsHexDigit c value) :
    0x20 ≤ c.toNat := by
  have table : ∀ value : Fin 16, 0x20 ≤ (Nat.digitChar value).toNat ∧
      0x20 ≤ (Nat.digitChar value).toUpper.toNat := by decide
  obtain ⟨small, rfl | rfl⟩ := digit
  · exact (table ⟨value, small⟩).1
  · exact (table ⟨value, small⟩).2

theorem WritesUnit.printable {unit : Nat} {code : List Char} (writes : WritesUnit unit code) :
    ∀ c ∈ code, 0x20 ≤ c.toNat := by
  cases writes with
  | digits first second third fourth =>
      simp [first.printable, second.printable, third.printable, fourth.printable]

/-- Control characters are always escaped. -/
theorem Spells.printable {characters written : List Char} (spells : Spells characters written) :
    ∀ c ∈ written, 0x20 ≤ c.toNat := by
  induction spells with
  | nil => simp
  | plain printable _ _ _ ih => exact List.forall_mem_cons.2 ⟨printable, ih⟩
  | @escape letter _ _ _ short _ ih =>
      have table : ∀ entry ∈ shortEscapes, 0x20 ≤ entry.1.toNat := by decide
      exact List.forall_mem_cons.2 ⟨by decide, List.forall_mem_cons.2 ⟨table _ short, ih⟩⟩
  | unit _ unit _ ih => exact List.forall_mem_append.2 ⟨unit.printable, ih⟩
  | pair _ first second _ ih =>
      exact List.forall_mem_append.2
        ⟨first.printable, List.forall_mem_append.2 ⟨second.printable, ih⟩⟩

theorem Spells.isToken_quoted {characters written : List Char}
    (spells : Spells characters written) : IsToken (quoted written) where
  starts := ⟨'"', _, rfl, by decide⟩
  printable := by
    refine List.forall_mem_cons.2 ⟨by decide, List.forall_mem_append.2 ⟨spells.printable, ?_⟩⟩
    simp

/-- The token of a word or a number: no blank and no control character, and a letter, a
digit or a minus in front. -/
structure IsScalar (token : Token) : Prop where
  opens : ∃ c rest, token = c :: rest ∧ (c.isAlphanum = true ∨ c = '-')
  visible : ∀ c ∈ token, 0x20 < c.toNat

namespace IsScalar

variable {token : Token} (isScalar : IsScalar token)

include isScalar

theorem isToken : IsToken token := by
  obtain ⟨c, rest, starts, _⟩ := isScalar.opens
  refine ⟨⟨c, rest, starts, ?_⟩, fun c member => (isScalar.visible c member).le⟩
  rintro rfl
  exact absurd (isScalar.visible ' ' (starts ▸ List.mem_cons_self)) (by decide)

/-- No text, object or list starts like this, and neither does what is no value. -/
theorem exists_cons :
    ∃ c rest, token = c :: rest ∧ c ∉ ['"', '\x7b', '[', ']', '\uFEFF'] := by
  obtain ⟨c, rest, starts, opens⟩ := isScalar.opens
  have table : ∀ c ∈ ['"', '\x7b', '[', ']', '\uFEFF'], ¬ (c.isAlphanum = true ∨ c = '-') :=
    List.all_iff_forall_prop.1 (by decide)
  exact ⟨c, rest, starts, fun member => table c member opens⟩

end IsScalar

theorem isScalar_of_constant {datum : Datum} {letters : Token}
    (listed : (datum, letters) ∈ constants) : IsScalar letters := by
  simp only [constants, List.mem_cons, Prod.mk.injEq, List.not_mem_nil, or_false] at listed
  rcases listed with ⟨_, rfl⟩ | ⟨_, rfl⟩ | ⟨_, rfl⟩ | ⟨_, rfl⟩ | ⟨_, rfl⟩ | ⟨_, rfl⟩ <;>
    exact ⟨⟨_, _, rfl, by decide⟩, List.all_iff_forall_prop.1 (by decide)⟩

theorem visible_of_all_isDigit {digits : List Char} (all : digits.all isDigit = true) :
    ∀ c ∈ digits, 0x20 < c.toNat := by
  intro c member
  have digit := List.all_eq_true.1 all c member
  rw [isDigit, Bool.and_eq_true, decide_eq_true_eq] at digit
  exact Nat.lt_of_lt_of_le (by decide) (UInt32.le_iff_toNat_le.1 digit.1)

/-- A number holds no blanks and no control characters. -/
theorem NumberLiteral.IsFormed.visible {literal : NumberLiteral} (formed : literal.IsFormed) :
    ∀ c ∈ literal.text, 0x20 < c.toNat := by
  rw [NumberLiteral.text]
  simp only [List.forall_mem_append]
  refine ⟨?_, visible_of_all_isDigit formed.whole, ?_, ?_⟩
  · rw [NumberLiteral.sign]
    cases literal.negative <;> exact List.all_iff_forall_prop.1 (by decide)
  · rcases formed.isFraction_fraction with none | ⟨digits, given, _, all⟩
    · simp [none]
    · rw [given]
      exact List.forall_mem_cons.2 ⟨by decide, visible_of_all_isDigit all⟩
  · rcases formed.isExponent_exponentText with
      none | ⟨e, sign, digits, given, letter, signed, _, all⟩
    · simp [none]
    · rw [given]
      refine List.forall_mem_append.2 ⟨List.forall_mem_cons.2 ⟨?_, ?_⟩, visible_of_all_isDigit all⟩
      · rcases letter with rfl | rfl <;> decide
      · rcases signed with rfl | rfl | rfl <;> exact List.all_iff_forall_prop.1 (by decide)

theorem NumberLiteral.IsFormed.isScalar_text {literal : NumberLiteral}
    (formed : literal.IsFormed) : IsScalar literal.text where
  opens := by
    obtain ⟨c, rest, starts, first⟩ := formed.starts
    refine ⟨c, rest, starts, first.imp (fun digit => ?_) And.left⟩
    rw [Char.isAlphanum, digit, Bool.or_true]
  visible := formed.visible

theorem mem_separated {token : Token} {rows : List (List Token)} (member : token ∈ separated rows) :
    token = [','] ∨ ∃ row ∈ rows, token ∈ row := by
  fun_induction separated rows with
  | case1 => cases member
  | case2 row => exact .inr ⟨row, List.mem_cons_self, member⟩
  | case3 row rest _ ih =>
      rcases List.mem_append.1 member with here | behind
      · exact .inr ⟨row, List.mem_cons_self, here⟩
      · rcases List.mem_cons.1 behind with comma | later
        · exact .inl comma
        · exact (ih later).imp_right fun ⟨row, listed, inside⟩ =>
            ⟨row, List.mem_cons_of_mem _ listed, inside⟩

theorem isToken_mark {c : Char} (mark : c ∈ ['[', ']', '\x7b', '\x7d', ',', ':']) :
    IsToken [c] := by
  have table : ∀ c ∈ ['[', ']', '\x7b', '\x7d', ',', ':'], c ≠ ' ' ∧ 0x20 ≤ c.toNat :=
    List.all_iff_forall_prop.1 (by decide)
  obtain ⟨noBlank, printable⟩ := table c mark
  exact ⟨⟨c, [], rfl, noBlank⟩, by simpa using printable⟩

/-- A row of rows between brackets is made of tokens if the rows are. -/
theorem isToken_of_enclosed {opening closing token : Token} {rows : List (List Token)}
    (opens : IsToken opening) (closes : IsToken closing)
    (each : ∀ row ∈ rows, ∀ token ∈ row, IsToken token)
    (member : token ∈ opening :: (separated rows ++ [closing])) : IsToken token := by
  rcases List.mem_cons.1 member with rfl | inside
  · exact opens
  · rcases List.mem_append.1 inside with between | last
    · rcases mem_separated between with rfl | ⟨row, listed, here⟩
      · exact isToken_mark (by decide)
      · exact each row listed token here
    · exact List.mem_singleton.1 last ▸ closes

theorem Writes.isToken {datum : Datum} {tokens : List Token} (writes : Writes datum tokens) :
    ∀ token ∈ tokens, IsToken token := by
  induction writes with
  | word listed => simpa using (isScalar_of_constant listed).isToken
  | text spells => simpa using spells.isToken_quoted
  | number formed => simpa using formed.isScalar_text.isToken
  | list each ih =>
      intro token
      refine isToken_of_enclosed (isToken_mark (by decide)) (isToken_mark (by decide)) ?_
      intro row listed
      obtain ⟨member, inside, rfl⟩ := List.mem_map.1 listed
      exact ih member inside
  | mapping keys each ih =>
      intro token
      refine isToken_of_enclosed (isToken_mark (by decide)) (isToken_mark (by decide)) ?_
      intro row listed
      obtain ⟨entry, inside, rfl⟩ := List.mem_map.1 listed
      refine List.forall_mem_cons.2 ⟨(keys entry inside).isToken_quoted, ?_⟩
      exact List.forall_mem_cons.2 ⟨isToken_mark (by decide), ih entry inside⟩

/-- A value starts with neither a closing bracket nor a byte order mark. -/
theorem Writes.starts {datum : Datum} {tokens : List Token} (writes : Writes datum tokens) :
    ∃ c rest more, tokens = (c :: rest) :: more ∧ c ∉ [']', '\uFEFF'] := by
  have scalar {token : Token} (isScalar : IsScalar token) :
      ∃ c rest more, [token] = (c :: rest) :: more ∧ c ∉ [']', '\uFEFF'] := by
    obtain ⟨c, rest, rfl, other⟩ := isScalar.exists_cons
    have among : [']', '\uFEFF'] ⊆ ['"', '\x7b', '[', ']', '\uFEFF'] := by decide
    exact ⟨c, rest, [], rfl, fun member => other (among member)⟩
  cases writes with
  | word listed => exact scalar (isScalar_of_constant listed)
  | number formed _ => exact scalar formed.isScalar_text
  | text _ | list _ | mapping _ _ => exact ⟨_, _, _, rfl, by decide⟩

theorem exists_separated_eq (row : List Token) (rows : List (List Token)) :
    ∃ behind, separated (row :: rows) = row ++ behind := by
  cases rows with
  | nil => exact ⟨[], (List.append_nil row).symm⟩
  | cons next rows => exact ⟨_, rfl⟩

theorem Spaced.length_le {tokens : List Token} {text : List Char} (spaced : Spaced tokens text)
    (each : ∀ token ∈ tokens, IsToken token) : tokens.length ≤ text.length := by
  induction spaced with
  | done => exact Nat.zero_le _
  | token _ _ ih =>
      obtain ⟨isToken, later⟩ := List.forall_mem_cons.1 each
      obtain ⟨c, rest, rfl, _⟩ := isToken.starts
      have fewer := ih later
      simp only [List.length_append, List.length_cons]
      omega

/-- No byte order mark stands in front of a value. -/
theorem Writes.no_mark_ahead {datum : Datum} {tokens : List Token} {rest : List Char}
    (writes : Writes datum tokens) : ¬ Spaced tokens ('\uFEFF' :: rest) := by
  obtain ⟨c, others, more, rfl, noMark⟩ := writes.starts
  intro spaced
  generalize ahead : '\uFEFF' :: rest = text at spaced
  cases spaced with
  | @token blanks _ _ _ blank _ =>
      cases blanks with
      | nil =>
          cases ahead
          exact noMark (by simp)
      | cons b blanks =>
          cases ahead
          exact absurd (blank List.mem_cons_self) (by decide)

theorem isBlank_iff {c : Char} : isBlank c = true ↔ c ∈ blankCharacters := by
  simp [isBlank, blankCharacters, or_assoc]

theorem IsToken.exists_cons {token : Token} (isToken : IsToken token) :
    ∃ c rest, token = c :: rest ∧ isBlank c = false := by
  obtain ⟨c, rest, rfl, noBlank⟩ := isToken.starts
  have printable := isToken.printable c List.mem_cons_self
  refine ⟨c, rest, rfl, Bool.eq_false_iff.2 fun blank => ?_⟩
  have control : ∀ c ∈ blankCharacters, c ≠ ' ' → ¬ 0x20 ≤ c.toNat :=
    List.all_iff_forall_prop.1 (by decide)
  exact control c (isBlank_iff.1 blank) noBlank printable

/-- Blanks in front are passed over. -/
theorem skipBlanks_append {cursor : Cursor} {blanks rest : List Char}
    (blank : blanks ⊆ blankCharacters)
    (noBlank : ∀ c more, rest = c :: more → isBlank c = false)
    (ahead : cursor.rest = blanks ++ rest) : cursor.skipBlanks.rest = rest := by
  have every : ∀ c ∈ blanks, isBlank c = true := fun c member => isBlank_iff.2 (blank member)
  have stops : rest.takeWhile isBlank = [] := by
    cases rest with
    | nil => rfl
    | cons c more => rw [List.takeWhile_cons, noBlank c more rfl, if_neg Bool.false_ne_true]
  rw [Cursor.skipBlanks, Cursor.advance, ahead, List.takeWhile_append_of_pos every, stops,
    List.append_nil, List.drop_left]

namespace Spaced

variable {token : Token} {tokens : List Token} {cursor : Cursor}

theorem skipBlanks_nil (spaced : Spaced [] cursor.rest) : cursor.skipBlanks.rest = [] := by
  generalize ahead : cursor.rest = text at spaced
  cases spaced with
  | done blank =>
      exact skipBlanks_append blank (by rintro _ _ ⟨⟩) (ahead.trans (List.append_nil _).symm)

theorem skipBlanks_cons (isToken : IsToken token) (spaced : Spaced (token :: tokens) cursor.rest) :
    ∃ rest, cursor.skipBlanks.rest = token ++ rest ∧ Spaced tokens rest := by
  generalize ahead : cursor.rest = text at spaced
  cases spaced with
  | @token blanks rest _ _ blank spaced =>
      refine ⟨rest, skipBlanks_append blank ?_ ahead, spaced⟩
      obtain ⟨c, more, rfl, noBlank⟩ := isToken.exists_cons
      rintro _ _ ⟨⟩
      exact noBlank

theorem skipBlanks_mark {c : Char} (spaced : Spaced ([c] :: tokens) cursor.rest)
    (mark : c ∈ ['[', ']', '\x7b', '\x7d', ',', ':']) :
    ∃ rest, cursor.skipBlanks.rest = c :: rest ∧ Spaced tokens rest :=
  spaced.skipBlanks_cons (isToken_mark mark)

end Spaced

end Json

end RetailPricing
