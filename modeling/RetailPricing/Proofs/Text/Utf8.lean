import Mathlib.Data.List.Basic
import Mathlib.Tactic.SplitIfs
import RetailPricing.Text.Utf8

/-!
# What UTF-8 decodes

The decoder accepts exactly the encodings of rows of characters, and gives back the
characters that were encoded (`decode?_eq_some_iff`).  The form of one character is
told by arithmetic on its number (`octets`), and each length of a form is one case
of the decoder.
-/

namespace RetailPricing

namespace Utf8

open String (utf8EncodeChar)

/-- The numbers of the bytes that encode the character with this number. -/
def octets (n : Nat) : List Nat :=
  if n < 0x80 then [n]
  else if n < 0x800 then [n / 64 + 0xC0, n % 64 + 0x80]
  else if n < 0x10000 then [n / 4096 + 0xE0, n / 64 % 64 + 0x80, n % 64 + 0x80]
  else [n / 262144 + 0xF0, n / 4096 % 64 + 0x80, n / 64 % 64 + 0x80, n % 64 + 0x80]

theorem toNat_lt (char : Char) : char.toNat < 0x110000 := by
  rcases char.valid with low | ⟨_, high⟩
  · exact Nat.lt_trans low (by decide)
  · exact high

theorem toNat_ofNat {n : Nat} (valid : n.isValidChar) : (Char.ofNat n).toNat = n := by
  rw [Char.ofNat, dif_pos valid]
  rfl

theorem map_toNat_utf8EncodeChar (char : Char) :
    (utf8EncodeChar char).map UInt8.toNat = octets char.toNat := by
  have bound := toNat_lt char
  have known : char.val.toNat = char.toNat := rfl
  unfold utf8EncodeChar octets
  simp only [known, ← Nat.lt_add_one_iff, Nat.reduceAdd]
  split_ifs with one two three
  all_goals simp only [List.map_cons, List.map_nil, UInt8.toNat_ofNat', List.cons.injEq, and_true]
  all_goals omega

theorem utf8EncodeChar_eq_iff {char : Char} {bytes : List UInt8} :
    utf8EncodeChar char = bytes ↔ octets char.toNat = bytes.map UInt8.toNat := by
  rw [← map_toNat_utf8EncodeChar]
  exact (List.map_injective_iff.2 fun _ _ => UInt8.toNat_inj.1).eq_iff.symm

theorem continuation?_eq_some_iff {b : UInt8} {n : Nat} :
    continuation? b = some n ↔ n < 64 ∧ b.toNat = n + 0x80 := by
  rw [continuation?]
  simp only [Bool.and_eq_true, decide_eq_true_eq, UInt8.le_iff_toNat_le]
  change (if 0x80 ≤ b.toNat ∧ b.toNat ≤ 0xBF then _ else _) = _ ↔ _
  split
  · rw [Option.some.injEq]
    omega
  · simp only [reduceCtorEq, false_iff]
    omega

theorem scalar?_eq_some_iff {least n : Nat} {char : Char} :
    scalar? least n = some char ↔ least ≤ n ∧ char.toNat = n := by
  have bound := toNat_lt char
  have noSurrogate : char.toNat < 0xD800 ∨ 0xDFFF < char.toNat :=
    char.valid.imp id fun high => high.1
  rw [scalar?]
  simp only [Bool.or_eq_true, Bool.and_eq_true, decide_eq_true_eq]
  split
  next refused =>
      simp only [reduceCtorEq, false_iff]
      omega
  next taken =>
      have valid : n.isValidChar := by
        rw [Nat.isValidChar]
        omega
      rw [Option.some.injEq, ← Char.toNat_inj, toNat_ofNat valid]
      omega

section Lengths

variable {char : Char} {a b c d : UInt8}

theorem utf8EncodeChar_ofNat (upper : a.toNat < 0x80) :
    utf8EncodeChar (Char.ofNat a.toNat) = [a] := by
  rw [utf8EncodeChar_eq_iff, toNat_ofNat (.inl (by omega)), octets, if_pos upper]
  rfl

theorem two?_eq_some_iff (lower : 0xC0 ≤ a.toNat) (upper : a.toNat < 0xE0) :
    two? a b = some char ↔ utf8EncodeChar char = [a, b] := by
  simp only [two?, bind, Option.bind_eq_some_iff, continuation?_eq_some_iff,
    scalar?_eq_some_iff, utf8EncodeChar_eq_iff, octets, List.map_cons, List.map_nil]
  constructor
  · rintro ⟨y, ⟨small, second⟩, least, number⟩
    rw [if_neg (by omega), if_pos (by omega)]
    simp only [List.cons.injEq, and_true]
    omega
  · intro form
    split_ifs at form with one two three
    all_goals simp only [List.cons.injEq, reduceCtorEq, and_true, and_false] at form
    exact ⟨char.toNat % 64, by omega, by omega, by omega⟩

theorem three?_eq_some_iff (lower : 0xE0 ≤ a.toNat) (upper : a.toNat < 0xF0) :
    three? a b c = some char ↔ utf8EncodeChar char = [a, b, c] := by
  simp only [three?, bind, Option.bind_eq_some_iff, continuation?_eq_some_iff,
    scalar?_eq_some_iff, utf8EncodeChar_eq_iff, octets, List.map_cons, List.map_nil]
  constructor
  · rintro ⟨y, ⟨small, second⟩, z, ⟨last, third⟩, least, number⟩
    rw [if_neg (by omega), if_neg (by omega), if_pos (by omega)]
    simp only [List.cons.injEq, and_true]
    omega
  · intro form
    split_ifs at form with one two three
    all_goals simp only [List.cons.injEq, reduceCtorEq, and_true, and_false] at form
    exact ⟨char.toNat / 64 % 64, by omega, char.toNat % 64, by omega, by omega, by omega⟩

theorem four?_eq_some_iff (lower : 0xF0 ≤ a.toNat) :
    four? a b c d = some char ↔ utf8EncodeChar char = [a, b, c, d] := by
  have bound := toNat_lt char
  simp only [four?, bind, Option.bind_eq_some_iff, continuation?_eq_some_iff,
    scalar?_eq_some_iff, utf8EncodeChar_eq_iff, octets, List.map_cons, List.map_nil]
  constructor
  · rintro ⟨x, ⟨tiny, second⟩, y, ⟨small, third⟩, z, ⟨last, fourth⟩, least, number⟩
    rw [if_neg (by omega), if_neg (by omega), if_neg (by omega)]
    simp only [List.cons.injEq, and_true]
    omega
  · intro form
    split_ifs at form with one two three
    all_goals simp only [List.cons.injEq, reduceCtorEq, and_true, and_false] at form
    exact ⟨char.toNat / 4096 % 64, by omega, char.toNat / 64 % 64, by omega,
      char.toNat % 64, by omega, by omega, by omega⟩

end Lengths

section Rows

variable {a b c d : UInt8} {rest : List UInt8}

theorem decode?_one (upper : a.toNat < 0x80) :
    decode? (a :: rest) =
      (some (Char.ofNat a.toNat)).bind fun char =>
        (decode? rest).bind fun chars => some (char :: chars) := by
  conv_lhs => unfold decode?
  simp only [UInt8.lt_iff_toNat_lt, UInt8.reduceToNat]
  rw [if_pos upper]
  rfl

theorem decode?_two (lower : 0xC0 ≤ a.toNat) (upper : a.toNat < 0xE0) :
    decode? (a :: b :: rest) =
      (two? a b).bind fun char => (decode? rest).bind fun chars => some (char :: chars) := by
  conv_lhs => unfold decode?
  simp only [UInt8.lt_iff_toNat_lt, UInt8.reduceToNat]
  rw [if_neg (by omega), if_neg (by omega), if_pos upper]
  rfl

theorem decode?_three (lower : 0xE0 ≤ a.toNat) (upper : a.toNat < 0xF0) :
    decode? (a :: b :: c :: rest) =
      (three? a b c).bind fun char => (decode? rest).bind fun chars => some (char :: chars) := by
  conv_lhs => unfold decode?
  simp only [UInt8.lt_iff_toNat_lt, UInt8.reduceToNat]
  rw [if_neg (by omega), if_neg (by omega), if_neg (by omega), if_pos upper]
  rfl

theorem decode?_four (lower : 0xF0 ≤ a.toNat) (upper : a.toNat < 0xF8) :
    decode? (a :: b :: c :: d :: rest) =
      (four? a b c d).bind fun char => (decode? rest).bind fun chars => some (char :: chars) := by
  conv_lhs => unfold decode?
  simp only [UInt8.lt_iff_toNat_lt, UInt8.reduceToNat]
  rw [if_neg (by omega), if_neg (by omega), if_neg (by omega), if_neg (by omega), if_pos upper]
  rfl

end Rows

/-- What is decoded starts with the form of its first character. -/
theorem decode?_utf8EncodeChar_append (char : Char) (rest : List UInt8) :
    decode? (utf8EncodeChar char ++ rest) =
      (decode? rest).bind fun chars => some (char :: chars) := by
  have bound := toNat_lt char
  have form := map_toNat_utf8EncodeChar char
  rw [octets] at form
  split_ifs at form with one two three
  all_goals simp only [List.map_eq_cons_iff, List.map_eq_nil_iff] at form
  · obtain ⟨a, _, encoded, first, rfl⟩ := form
    rw [encoded, List.singleton_append, decode?_one (by omega), first, Char.ofNat_toNat,
      Option.bind_some]
  · obtain ⟨a, _, encoded, first, b, _, rfl, second, rfl⟩ := form
    have decoded := (two?_eq_some_iff (by omega) (by omega)).2 encoded
    rw [encoded, List.cons_append, List.singleton_append, decode?_two (by omega) (by omega),
      decoded, Option.bind_some]
  · obtain ⟨a, _, encoded, first, b, _, rfl, second, c, _, rfl, third, rfl⟩ := form
    have decoded := (three?_eq_some_iff (by omega) (by omega)).2 encoded
    rw [encoded, List.cons_append, List.cons_append, List.singleton_append,
      decode?_three (by omega) (by omega), decoded, Option.bind_some]
  · obtain ⟨a, _, encoded, first, b, _, rfl, second, c, _, rfl, third, d, _, rfl, fourth, rfl⟩ :=
      form
    have decoded := (four?_eq_some_iff (by omega)).2 encoded
    rw [encoded, List.cons_append, List.cons_append, List.cons_append, List.singleton_append,
      decode?_four (by omega) (by omega), decoded, Option.bind_some]

theorem decode?_flatMap_utf8EncodeChar (chars : List Char) :
    decode? (chars.flatMap utf8EncodeChar) = some chars := by
  induction chars with
  | nil => rfl
  | cons char rest ih =>
      rw [List.flatMap_cons, decode?_utf8EncodeChar_append, ih]
      rfl

/-- What was decoded from a first form and a rest is encoded as that form and rest. -/
theorem eq_flatMap_of_bind {form rest : List UInt8} {first : Option Char} {chars : List Char}
    (decodesFirst : ∀ char, first = some char → utf8EncodeChar char = form)
    (decodesRest : ∀ others, decode? rest = some others → rest = others.flatMap utf8EncodeChar)
    (decoded : (first.bind fun char => (decode? rest).bind fun others => some (char :: others)) =
      some chars) : form ++ rest = chars.flatMap utf8EncodeChar := by
  simp only [Option.bind_eq_some_iff, Option.some.injEq] at decoded
  obtain ⟨char, here, others, later, rfl⟩ := decoded
  rw [List.flatMap_cons, decodesFirst char here, ← decodesRest others later]

theorem eq_flatMap_of_decode? {bytes : List UInt8} {chars : List Char}
    (decoded : decode? bytes = some chars) : bytes = chars.flatMap utf8EncodeChar := by
  induction bytes using decode?.induct generalizing chars with
  | case1 =>
      obtain rfl := Option.some.inj decoded
      rfl
  | case2 a rest one ih =>
      simp only [UInt8.lt_iff_toNat_lt, UInt8.reduceToNat] at one
      rw [decode?_one one] at decoded
      have ascii : ∀ char, some (Char.ofNat a.toNat) = some char → utf8EncodeChar char = [a] := by
        rintro char ⟨⟩
        exact utf8EncodeChar_ofNat one
      have whole : [a] ++ rest = chars.flatMap utf8EncodeChar :=
        eq_flatMap_of_bind ascii (fun others => ih) decoded
      exact whole
  | case4 a notOne notTail two b rest ih =>
      simp only [UInt8.lt_iff_toNat_lt, UInt8.reduceToNat, Nat.not_lt] at notTail two
      rw [decode?_two notTail two] at decoded
      exact eq_flatMap_of_bind (fun char => (two?_eq_some_iff notTail two).1) (fun others => ih)
        decoded
  | case6 a notOne notTail notTwo three b c rest ih =>
      simp only [UInt8.lt_iff_toNat_lt, UInt8.reduceToNat, Nat.not_lt] at notTwo three
      rw [decode?_three notTwo three] at decoded
      exact eq_flatMap_of_bind (fun char => (three?_eq_some_iff notTwo three).1)
        (fun others => ih) decoded
  | case8 a notOne notTail notTwo notThree four b c d rest ih =>
      simp only [UInt8.lt_iff_toNat_lt, UInt8.reduceToNat, Nat.not_lt] at notThree four
      rw [decode?_four notThree four] at decoded
      exact eq_flatMap_of_bind (fun char => (four?_eq_some_iff notThree).1) (fun others => ih)
        decoded
  -- What is left are bytes that start no form, and forms that are cut short.
  | case3 a rest notOne tail =>
      unfold decode? at decoded
      rw [if_neg notOne, if_pos tail] at decoded
      cases decoded
  | case5 a rest notOne notTail two short =>
      unfold decode? at decoded
      rw [if_neg notOne, if_neg notTail, if_pos two] at decoded
      split at decoded
      next b more => exact absurd rfl (short b more)
      next => cases decoded
  | case7 a rest notOne notTail notTwo three short =>
      unfold decode? at decoded
      rw [if_neg notOne, if_neg notTail, if_neg notTwo, if_pos three] at decoded
      split at decoded
      next b c more => exact absurd rfl (short b c more)
      next => cases decoded
  | case9 a rest notOne notTail notTwo notThree four short =>
      unfold decode? at decoded
      rw [if_neg notOne, if_neg notTail, if_neg notTwo, if_neg notThree, if_pos four] at decoded
      split at decoded
      next b c d more => exact absurd rfl (short b c d more)
      next => cases decoded
  | case10 a rest notOne notTail notTwo notThree notFour =>
      unfold decode? at decoded
      rw [if_neg notOne, if_neg notTail, if_neg notTwo, if_neg notThree, if_neg notFour] at decoded
      cases decoded

/-- Bytes are decoded to the characters of which they are the encoding. -/
theorem decode?_eq_some_iff {bytes : List UInt8} {chars : List Char} :
    decode? bytes = some chars ↔ bytes = chars.flatMap utf8EncodeChar := by
  constructor
  · exact eq_flatMap_of_decode?
  · rintro rfl
    exact decode?_flatMap_utf8EncodeChar chars

end Utf8

end RetailPricing
