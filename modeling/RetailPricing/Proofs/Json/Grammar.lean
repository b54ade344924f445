import Mathlib.Data.Bool.AllAny
import Mathlib.Data.List.Induction
import Mathlib.Tactic.Choose
import Mathlib.Tactic.IntervalCases
import RetailPricing.Proofs.Json.Numbers

/-!
# How data are written in JSON

A datum is written as a row of tokens (`Writes`), and a row of tokens is spaced out to a
text with any blanks in front of, between and behind them (`Spaced`).  A token is a
bracket, a comma or a colon, a word, a number, or a text in quotes with its characters
spelled in any of their ways (`Spells`).  A datum has many such rows.  Decimals are
written digit for digit: the digits of the number make the coefficient, and its places
and its exponent make the exponent (`NumberLiteral.datum`).

The grammar is told without the reader.  Every datum of a kind that JSON knows can be
written (`IsJson.exists_writes`).
-/

namespace RetailPricing

namespace Json

/-- The letters that may stand behind a backslash, and the characters they stand for. -/
def shortEscapes : List (Char × Char) :=
  [('"', '"'), ('\\', '\\'), ('/', '/'), ('b', '\x08'), ('f', '\x0c'), ('n', '\n'),
    ('r', '\r'), ('t', '\t')]

/-- The character is a hexadecimal digit in one of its cases. -/
def IsHexDigit (c : Char) (value : Nat) : Prop :=
  value < 16 ∧ (c = value.digitChar ∨ c = value.digitChar.toUpper)

/-- The escape of a code unit. -/
inductive WritesUnit : Nat → List Char → Prop
  | digits {a b c d : Char} {i j k l : Nat} (first : IsHexDigit a i) (second : IsHexDigit b j)
      (third : IsHexDigit c k) (fourth : IsHexDigit d l) :
      WritesUnit (((i * 16 + j) * 16 + k) * 16 + l) ['\\', 'u', a, b, c, d]

/-- The surrogates of a character behind the first plane. -/
def highSurrogate (c : Char) : Nat :=
  0xD800 + (c.toNat - 0x10000) / 0x400

def lowSurrogate (c : Char) : Nat :=
  0xDC00 + (c.toNat - 0x10000) % 0x400

/-- Each character of a text stands for itself, or is escaped by a letter or by its
number. -/
inductive Spells : List Char → List Char → Prop
  | nil : Spells [] []
  | plain {c : Char} {rest written : List Char} (printable : 0x20 ≤ c.toNat) (noQuote : c ≠ '"')
      (noBackslash : c ≠ '\\') (spells : Spells rest written) : Spells (c :: rest) (c :: written)
  | escape {letter c : Char} {rest written : List Char} (short : (letter, c) ∈ shortEscapes)
      (spells : Spells rest written) : Spells (c :: rest) ('\\' :: letter :: written)
  | unit {c : Char} {code rest written : List Char} (firstPlane : c.toNat < 0x10000)
      (unit : WritesUnit c.toNat code) (spells : Spells rest written) :
      Spells (c :: rest) (code ++ written)
  | pair {c : Char} {high low rest written : List Char} (behind : 0x10000 ≤ c.toNat)
      (first : WritesUnit (highSurrogate c) high) (second : WritesUnit (lowSurrogate c) low)
      (spells : Spells rest written) : Spells (c :: rest) (high ++ (low ++ written))

structure WrittenExponent where
  letter : Char
  sign : List Char
  digits : List Char

namespace WrittenExponent

structure IsFormed (exponent : WrittenExponent) : Prop where
  letter : exponent.letter = 'e' ∨ exponent.letter = 'E'
  sign : exponent.sign = [] ∨ exponent.sign = ['-'] ∨ exponent.sign = ['+']
  given : exponent.digits ≠ []
  digits : exponent.digits.all Char.isDigit = true

def text (exponent : WrittenExponent) : List Char :=
  exponent.letter :: exponent.sign ++ exponent.digits

def value (exponent : WrittenExponent) : Int :=
  let size := Nat.ofDigitChars 10 exponent.digits 0
  if exponent.sign = ['-'] then -size else size

end WrittenExponent

/-- The parts of a number: a sign or none, its whole digits, its digits behind the point,
if there is one, and an exponent or none. -/
structure NumberLiteral where
  negative : Bool
  whole : List Char
  places : List Char
  exponent : Option WrittenExponent

namespace NumberLiteral

variable (literal : NumberLiteral)

structure IsFormed : Prop where
  given : literal.whole ≠ []
  noZeroInFront : literal.whole = ['0'] ∨ ¬ ['0'] <+: literal.whole
  whole : literal.whole.all Char.isDigit = true
  places : literal.places.all Char.isDigit = true
  exponent : ∀ exponent ∈ literal.exponent, exponent.IsFormed

def sign : List Char :=
  if literal.negative then ['-'] else []

def fraction : List Char :=
  if literal.places = [] then [] else '.' :: literal.places

def exponentText : List Char :=
  (literal.exponent.map WrittenExponent.text).getD []

def text : List Char :=
  literal.sign ++ (literal.whole ++ (literal.fraction ++ literal.exponentText))

/-- There is neither a point nor an exponent. -/
def isWhole : Bool :=
  literal.places.isEmpty && literal.exponent.isNone

/-- The number that all digits make together. -/
def size : Nat :=
  Nat.ofDigitChars 10 (literal.whole ++ literal.places) 0

def power : Int :=
  (literal.exponent.map WrittenExponent.value).getD 0 - literal.places.length

def amount : Amount :=
  ⟨literal.negative, literal.size, literal.power⟩

/-- What is written without point and exponent is a whole number, anything else a
decimal. -/
def datum : Datum :=
  if literal.isWhole then .int (if literal.negative then -literal.size else literal.size)
  else .decimal (.finite literal.amount)

/-- The amount can be held by a decimal. -/
def IsWithinLimits : Prop :=
  literal.isWhole = false → Numeral.withinLimits literal.amount = true

end NumberLiteral

abbrev Token := List Char

/-- The words, those for floats included that are no numbers. -/
def constants : List (Datum × Token) :=
  [(.null, "null".toList), (.bool true, "true".toList), (.bool false, "false".toList),
    (.float .notANumber, "NaN".toList), (.float (.infinite false), "Infinity".toList),
    (.float (.infinite true), "-Infinity".toList)]

def quoted (written : List Char) : Token :=
  '"' :: written ++ ['"']

/-- The rows with a comma between any two. -/
def separated : List (List Token) → List Token
  | [] => []
  | [row] => row
  | row :: rest => row ++ [','] :: separated rest

/-- A key and a value, with what they are written as. -/
structure WrittenEntry where
  key : String
  inside : List Char
  value : Datum
  tokens : List Token

def WrittenEntry.row (entry : WrittenEntry) : List Token :=
  quoted entry.inside :: [':'] :: entry.tokens

/-- The entries of an object.  A later entry replaces an earlier one with its key. -/
def entriesOf (entries : List WrittenEntry) : List (String × Datum) :=
  entries.foldl (fun before entry => Datum.setEntry entry.key entry.value before) []

def listTokens (members : List (List Token)) : List Token :=
  ['['] :: (separated members ++ [[']']])

def objectTokens (entries : List WrittenEntry) : List Token :=
  ['\x7b'] :: (separated (entries.map WrittenEntry.row) ++ [['\x7d']])

/-- The row of tokens is one way to write the datum. -/
inductive Writes : Datum → List Token → Prop
  | word {datum : Datum} {letters : Token} (listed : (datum, letters) ∈ constants) :
      Writes datum [letters]
  | text {s : String} {written : List Char} (spells : Spells s.toList written) :
      Writes (.ofString s) [quoted written]
  | number {literal : NumberLiteral} (formed : literal.IsFormed)
      (limits : literal.IsWithinLimits) : Writes literal.datum [literal.text]
  | list {members : List (Datum × List Token)}
      (each : ∀ member ∈ members, Writes member.1 member.2) :
      Writes (.list (members.map Prod.fst)) (listTokens (members.map Prod.snd))
  | mapping {entries : List WrittenEntry}
      (keys : ∀ entry ∈ entries, Spells entry.key.toList entry.inside)
      (each : ∀ entry ∈ entries, Writes entry.value entry.tokens) :
      Writes (.mapping (entriesOf entries)) (objectTokens entries)

def blankCharacters : List Char :=
  [' ', '\t', '\n', '\r']

/-- The tokens with blanks between them, and in front of and behind all of them. -/
inductive Spaced : List Token → List Char → Prop
  | done {blanks : List Char} (blank : blanks ⊆ blankCharacters) : Spaced [] blanks
  | token {blanks rest : List Char} {token : Token} {tokens : List Token}
      (blank : blanks ⊆ blankCharacters) (spaced : Spaced tokens rest) :
      Spaced (token :: tokens) (blanks ++ (token ++ rest))

/-- Texts that need no escapes can be spelled by themselves. -/
theorem spells_self {characters : List Char}
    (plain : (characters.all fun c => 0x20 ≤ c.toNat ∧ c ≠ '"' ∧ c ≠ '\\') = true) :
    Spells characters characters := by
  rw [List.all_iff_forall_prop] at plain
  induction characters with
  | nil => exact .nil
  | cons c rest ih =>
      obtain ⟨⟨printable, noQuote, noBackslash⟩, behind⟩ := List.forall_mem_cons.1 plain
      exact .plain printable noQuote noBackslash (ih behind)

theorem Spells.append {first firstWritten second secondWritten : List Char}
    (spells : Spells first firstWritten) (others : Spells second secondWritten) :
    Spells (first ++ second) (firstWritten ++ secondWritten) := by
  induction spells with
  | nil => exact others
  | plain printable noQuote noBackslash _ ih => exact .plain printable noQuote noBackslash ih
  | escape short _ ih => exact .escape short ih
  | unit firstPlane unit _ ih => exact List.append_assoc _ _ _ ▸ .unit firstPlane unit ih
  | pair behind first second _ ih =>
      rw [List.append_assoc, List.append_assoc]
      exact .pair behind first second ih

/-- Tokens with the blanks in front of them make a text. -/
theorem spaced_row (row : List (List Char × Token)) (last : List Char)
    (blank : ∀ part ∈ row, part.1 ⊆ blankCharacters) (lastBlank : last ⊆ blankCharacters) :
    Spaced (row.map Prod.snd) (row.flatMap (fun part => part.1 ++ part.2) ++ last) := by
  induction row with
  | nil => exact .done lastBlank
  | cons part rest ih =>
      obtain ⟨here, behind⟩ := List.forall_mem_cons.1 blank
      rw [List.flatMap_cons, List.append_assoc, List.append_assoc]
      exact .token here (ih behind)

/-! ## What can be written -/

/-- Data of the kinds that JSON knows.  No object has a key twice. -/
inductive IsJson : Datum → Prop
  | null : IsJson .null
  | bool (b : Bool) : IsJson (.bool b)
  | int (n : Int) : IsJson (.int n)
  | decimal {amount : Amount} (limits : Numeral.withinLimits amount = true) :
      IsJson (.decimal (.finite amount))
  | text (s : String) : IsJson (.ofString s)
  | list {members : List Datum} (each : ∀ member ∈ members, IsJson member) :
      IsJson (.list members)
  | mapping {entries : List (String × Datum)} (distinct : (entries.map Prod.fst).Nodup)
      (each : ∀ entry ∈ entries, IsJson entry.2) : IsJson (.mapping entries)

theorem exists_writesUnit {unit : Nat} (small : unit < 0x10000) :
    ∃ code, WritesUnit unit code := by
  have digit (value : Nat) : IsHexDigit (value % 16).digitChar (value % 16) :=
    ⟨Nat.mod_lt _ (by decide), .inl rfl⟩
  have split : (((unit / 4096 % 16 * 16 + unit / 256 % 16) * 16 + unit / 16 % 16) * 16 +
      unit % 16) = unit := by omega
  have writes := WritesUnit.digits (digit (unit / 4096)) (digit (unit / 256)) (digit (unit / 16))
    (digit unit)
  rw [split] at writes
  exact ⟨_, writes⟩

theorem exists_spells (characters : List Char) : ∃ written, Spells characters written := by
  induction characters with
  | nil => exact ⟨[], .nil⟩
  | cons c rest ih =>
      obtain ⟨written, spells⟩ := ih
      by_cases plain : 0x20 ≤ c.toNat ∧ c ≠ '"' ∧ c ≠ '\\'
      · exact ⟨_, .plain plain.1 plain.2.1 plain.2.2 spells⟩
      · have firstPlane : c.toNat < 0x10000 := by
          by_contra behind
          refine plain ⟨by omega, ?_, ?_⟩ <;> rintro rfl <;> exact behind (by decide)
        obtain ⟨code, unit⟩ := exists_writesUnit firstPlane
        exact ⟨_, .unit firstPlane unit spells⟩

theorem all_isDigit_toDigits (n : Nat) : (Nat.toDigits 10 n).all Char.isDigit = true :=
  List.all_eq_true.2 fun _ member => Nat.isDigit_of_mem_toDigits (by decide) (by decide) member

/-- A whole number is written without zeros in front. -/
theorem no_zero_in_front_of_toDigits (n : Nat) :
    Nat.toDigits 10 n = ['0'] ∨ ¬ ['0'] <+: Nat.toDigits 10 n := by
  rcases Nat.eq_zero_or_pos n with rfl | some
  · exact .inl (Nat.toDigits_zero 10)
  right
  induction n using Nat.strongRecOn with
  | ind n ih =>
      by_cases small : n < 10
      · rw [Nat.toDigits_of_lt_base small]
        interval_cases n <;> decide
      · have split : Nat.toDigits 10 (n / 10) ++ Nat.toDigits 10 (n % 10) = Nat.toDigits 10 n := by
          rw [Nat.toDigits_append_toDigits (by decide) (by omega) (by omega), Nat.div_add_mod]
        have shorter := ih (n / 10) (by omega) (by omega)
        rw [← split]
        obtain ⟨first, others, same⟩ := List.exists_cons_of_ne_nil Nat.toDigits_ne_nil
        rw [same] at shorter ⊢
        rw [List.cons_append, List.cons_prefix_cons] 
        rw [List.cons_prefix_cons] at shorter
        exact fun zero => shorter ⟨zero.1, List.nil_prefix⟩

/-- A number with these whole digits and this exponent. -/
def literalOf (negative : Bool) (size : Nat) (exponent : Option Int) : NumberLiteral where
  negative := negative
  whole := Nat.toDigits 10 size
  places := []
  exponent := exponent.map fun e =>
    ⟨'e', if e < 0 then ['-'] else [], Nat.toDigits 10 e.natAbs⟩

theorem isFormed_literalOf (negative : Bool) (size : Nat) (exponent : Option Int) :
    (literalOf negative size exponent).IsFormed where
  given := Nat.toDigits_ne_nil
  noZeroInFront := no_zero_in_front_of_toDigits size
  whole := all_isDigit_toDigits size
  places := rfl
  exponent := by
    intro written member
    obtain ⟨e, _, rfl⟩ := Option.map_eq_some_iff.1 member
    refine ⟨.inl rfl, ?_, Nat.toDigits_ne_nil, all_isDigit_toDigits _⟩
    dsimp only
    split
    · exact .inr (.inl rfl)
    · exact .inl rfl

theorem size_literalOf (negative : Bool) (size : Nat) (exponent : Option Int) :
    (literalOf negative size exponent).size = size := by
  rw [NumberLiteral.size, literalOf, List.append_nil]
  exact Nat.ofDigitChars_toDigits (by decide) (by decide)

theorem datum_literalOf_none (n : Int) :
    (literalOf (n < 0) n.natAbs none).datum = .int n := by
  have whole : (literalOf (n < 0) n.natAbs none).isWhole = true := rfl
  rw [NumberLiteral.datum, if_pos whole, size_literalOf, literalOf]
  simp only [decide_eq_true_eq]
  split <;> congr 1 <;> omega

theorem value_ofInt (e : Int) :
    WrittenExponent.value ⟨'e', if e < 0 then ['-'] else [], Nat.toDigits 10 e.natAbs⟩ = e := by
  rw [WrittenExponent.value, Nat.ofDigitChars_toDigits (by decide) (by decide)]
  by_cases negative : e < 0
  · rw [if_pos negative, if_pos rfl]
    omega
  · have unsigned : ([] : List Char) ≠ ['-'] := (List.cons_ne_nil _ _).symm
    rw [if_neg negative, if_neg unsigned]
    omega

theorem amount_literalOf_some (amount : Amount) :
    (literalOf amount.negative amount.coefficient (some amount.exponent)).amount = amount := by
  have power : (literalOf amount.negative amount.coefficient (some amount.exponent)).power =
      amount.exponent := (sub_zero _).trans (value_ofInt amount.exponent)
  rw [NumberLiteral.amount, size_literalOf, power, literalOf]

/-- A key that is new stands last. -/
theorem setEntry_of_absent {key : String} {value : Datum} {entries : List (String × Datum)}
    (absent : key ∉ entries.map Prod.fst) :
    Datum.setEntry key value entries = entries ++ [(key, value)] := by
  induction entries with
  | nil => rfl
  | cons entry rest ih =>
      rw [List.map_cons, List.mem_cons, not_or] at absent
      rw [Datum.setEntry, if_neg (Ne.symm absent.1), ih absent.2, List.cons_append]

/-- Keys that stand once keep all their entries. -/
theorem entriesOf_of_nodup {entries : List WrittenEntry}
    (distinct : (entries.map WrittenEntry.key).Nodup) :
    entriesOf entries = entries.map fun entry => (entry.key, entry.value) := by
  induction entries using List.reverseRecOn with
  | nil => rfl
  | append_singleton entries entry ih =>
      rw [List.map_append, List.nodup_append] at distinct
      obtain ⟨first, _, new⟩ := distinct
      have absent : entry.key ∉ (entriesOf entries).map Prod.fst := by
        rw [ih first, List.map_map]
        exact fun member => new _ member _ (by simp) rfl
      rw [entriesOf, List.foldl_append, List.map_append]
      exact (setEntry_of_absent absent).trans (congrArg (· ++ _) (ih first))

/-- Whatever is of such a kind can be written. -/
theorem IsJson.exists_writes {datum : Datum} (json : IsJson datum) :
    ∃ tokens, Writes datum tokens := by
  induction json with
  | null => exact ⟨_, .word (.head _)⟩
  | bool b =>
      cases b with
      | true => exact ⟨_, .word (.tail _ (.head _))⟩
      | false => exact ⟨_, .word (.tail _ (.tail _ (.head _)))⟩
  | int n =>
      have writes : Writes (literalOf (n < 0) n.natAbs none).datum _ :=
        .number (isFormed_literalOf _ _ _) (by rintro ⟨⟩)
      exact ⟨_, datum_literalOf_none n ▸ writes⟩
  | @decimal amount limits =>
      let literal := literalOf amount.negative amount.coefficient (some amount.exponent)
      have sameAmount : literal.amount = amount := amount_literalOf_some amount
      have same : literal.datum = .decimal (.finite amount) :=
        congrArg (Datum.decimal ∘ Decimal.finite) sameAmount
      have writes : Writes literal.datum _ :=
        .number (isFormed_literalOf _ _ _) fun _ => sameAmount.symm ▸ limits
      exact ⟨_, same ▸ writes⟩
  | text s =>
      obtain ⟨written, spells⟩ := exists_spells s.toList
      exact ⟨_, .text spells⟩
  | @list members _ ih =>
      choose! tokensOf writes using ih
      let row := members.map fun member => (member, tokensOf member)
      have same : row.map Prod.fst = members := by
        rw [List.map_map]
        exact List.map_id members
      have each : Writes (.list (row.map Prod.fst)) _ := .list (List.forall_mem_map.2 writes)
      exact ⟨_, same ▸ each⟩
  | @mapping entries distinct _ ih =>
      choose! tokensOf writes using ih
      choose insideOf spells using exists_spells
      let row := entries.map fun entry : String × Datum =>
        WrittenEntry.mk entry.1 (insideOf entry.1.toList) entry.2 (tokensOf entry)
      have keys : row.map WrittenEntry.key = entries.map Prod.fst := List.map_map
      have same : entriesOf row = entries := by
        rw [entriesOf_of_nodup (keys ▸ distinct), List.map_map]
        exact List.map_id entries
      have each : Writes (.mapping (entriesOf row)) _ :=
        .mapping (List.forall_mem_map.2 fun _ _ => spells _) (List.forall_mem_map.2 writes)
      exact ⟨_, same ▸ each⟩

end Json

end RetailPricing
