import RetailPricing.Decimal.Basic
import RetailPricing.Text.Characters

/-!
# Reading numerals

A numeral is read exactly: every digit is kept and nothing is rounded. Blanks
around it and underscores in it are passed over, and the digits may be those of
any script. Numerals whose exponent lies beyond the widest limits are not
numerals.
-/

namespace RetailPricing

namespace Numeral

/-- A character of a numeral with digits of all scripts brought to ASCII. -/
def plainChar? (c : Char) : Option Char :=
  if c.val < 0x80 then some c
  else (Text.digitValue? c).map Nat.digitChar

def isDigit (c : Char) : Bool :=
  '0' ≤ c && c ≤ '9'

/-- The number that a row of digits denotes, leading zeros or not. -/
def valueOfDigits (digits : List Char) : Nat :=
  digits.foldl (fun value c => 10 * value + (c.toNat - '0'.toNat)) 0

/-- A sign in front, if there is one, and what follows it. -/
def splitSign : List Char → Bool × List Char
  | '-' :: rest => (true, rest)
  | '+' :: rest => (false, rest)
  | rest => (false, rest)

/-- The digits in front and what follows them. -/
def splitDigits (cs : List Char) : List Char × List Char :=
  (cs.takeWhile isDigit, cs.dropWhile isDigit)

/-- An exponent part: nothing, or the letter e with a signed row of digits. -/
def exponent? : List Char → Option Int
  | [] => some 0
  | c :: rest =>
      if c = 'e' ∨ c = 'E' then
        let (negative, digits) := splitSign rest
        if digits.isEmpty || !digits.all isDigit then none
        else
          let size : Int := valueOfDigits digits
          some (if negative then -size else size)
      else none

/-- A row of digits with at most one point and an optional exponent. There is
at least one digit before or behind the point. -/
def unsigned? (negative : Bool) (cs : List Char) : Option Amount :=
  let (whole, rest) := splitDigits cs
  let (fraction, rest) :=
    match rest with
    | '.' :: behind => splitDigits behind
    | _ => ([], rest)
  if whole.isEmpty && fraction.isEmpty then none
  else
    (exponent? rest).map fun e =>
      ⟨negative, valueOfDigits (whole ++ fraction), e - fraction.length⟩

/-- An unsigned numeral in words, compared without regard to case. -/
def special? (negative : Bool) (cs : List Char) : Option Decimal :=
  let word := cs.map Char.toLower
  if word = "inf".toList ∨ word = "infinity".toList then
    some (.infinite negative)
  else
    let nonNumber (signalling : Bool) (payload : List Char) : Option Decimal :=
      if payload.all isDigit then
        some (.notANumber signalling negative (valueOfDigits payload))
      else none
    match word with
    | 'n' :: 'a' :: 'n' :: payload => nonNumber false payload
    | 's' :: 'n' :: 'a' :: 'n' :: payload => nonNumber true payload
    | _ => none

/-- The largest leading exponent of a numeral. -/
def greatestLeadingExponent : Int := 999999999999999999

/-- The least exponent of a numeral. -/
def leastExponent : Int := -1999999999999999997

/-- The exponent of an amount can be held exactly. -/
def withinLimits (x : Amount) : Bool :=
  x.leadingExponent ≤ greatestLeadingExponent && leastExponent ≤ x.exponent

end Numeral

namespace Decimal

def ofPlainChars? (cs : List Char) : Option Decimal :=
  let (negative, unsigned) := Numeral.splitSign cs
  match Numeral.special? negative unsigned with
  | some special => some special
  | none =>
      match Numeral.unsigned? negative unsigned with
      | some amount =>
          if Numeral.withinLimits amount then some (.finite amount) else none
      | none => none

def ofText? (text : String) : Option Decimal :=
  (((Text.strip text.toList).filter (· != '_')).mapM Numeral.plainChar?).bind
    ofPlainChars?

end Decimal

end RetailPricing
