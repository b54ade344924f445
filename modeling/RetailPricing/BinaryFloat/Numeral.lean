import RetailPricing.BinaryFloat.Basic
import RetailPricing.Decimal.Numeral

/-!
# Reading floats

The numerals of floats are those of decimals, but an underscore has to stand
between two digits, non-numbers carry no digits, and the value is the nearest
float.
-/

namespace RetailPricing

namespace BinaryFloat

/-- The characters without underscores, each of which stands between two
digits; `before` is the character in front. -/
def withoutUnderscores? : (before : Char) → List Char → Option (List Char)
  | _, [] => some []
  | before, '_' :: next :: rest =>
      if Numeral.isDigit before && Numeral.isDigit next then
        (withoutUnderscores? next rest).map (next :: ·)
      else none
  | _, c :: rest =>
      if c = '_' then none else (withoutUnderscores? c rest).map (c :: ·)

/-- An unsigned numeral in words, compared without regard to case. -/
def special? (negative : Bool) (cs : List Char) : Option BinaryFloat :=
  match String.ofList (cs.map Char.toLower) with
  | "inf" | "infinity" => some (infinite negative)
  | "nan" => some notANumber
  | _ => none

def ofPlainChars? (cs : List Char) : Option BinaryFloat :=
  let (negative, unsigned) := Numeral.splitSign cs
  match special? negative unsigned with
  | some special => some special
  | none => (Numeral.unsigned? negative unsigned).map ofAmount

/-- Characters that may surround a numeral: blanks, but not the information
separators among them. -/
def isSurrounding (c : Char) : Bool :=
  Text.isBlank c && !('\x1C' ≤ c && c ≤ '\x1F')

def ofText? (text : String) : Option BinaryFloat :=
  (((Text.stripBy isSurrounding text.toList).mapM Numeral.plainChar?).bind
    (withoutUnderscores? ' ')).bind ofPlainChars?

end BinaryFloat

end RetailPricing
