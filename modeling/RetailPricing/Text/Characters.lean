/-!
# Characters

A character may be a blank, that is white space in front of and behind a word or
a numeral: the controls from tab to carriage return, the four information
separators, the space, next line, and the spaces and line separators beyond
ASCII.

It may be a decimal digit.  Every script that has decimal digits has them as ten
consecutive characters, zero first, and a character is read as a digit when it
lies in one of these decades.

Other properties of characters are kept as increasing sequences of ranges of code
points and looked up by halving.
-/

namespace RetailPricing

namespace Text

/-- Characters that may surround a word or a numeral. -/
def isBlank (c : Char) : Bool :=
  let n := c.val.toNat
  (0x09 ≤ n && n ≤ 0x0D) || (0x1C ≤ n && n ≤ 0x20) || n == 0x85 || n == 0xA0 ||
    n == 0x1680 || (0x2000 ≤ n && n ≤ 0x200A) || n == 0x2028 || n == 0x2029 ||
    n == 0x202F || n == 0x205F || n == 0x3000

/-- The characters between those at both ends that count as blanks. -/
def stripBy (blank : Char → Bool) (cs : List Char) : List Char :=
  ((cs.dropWhile blank).reverse.dropWhile blank).reverse

/-- The characters between the blanks at both ends. -/
def strip (cs : List Char) : List Char :=
  stripBy isBlank cs

def zeroDigits : List Nat :=
  [
    0x30, 0x660, 0x6F0, 0x7C0, 0x966, 0x9E6, 0xA66, 0xAE6, 0xB66, 0xBE6, 0xC66, 0xCE6, 0xD66,
    0xDE6, 0xE50, 0xED0, 0xF20, 0x1040, 0x1090, 0x17E0, 0x1810, 0x1946, 0x19D0, 0x1A80, 0x1A90,
    0x1B50, 0x1BB0, 0x1C40, 0x1C50, 0xA620, 0xA8D0, 0xA900, 0xA9D0, 0xA9F0, 0xAA50, 0xABF0,
    0xFF10, 0x104A0, 0x10D30, 0x11066, 0x110F0, 0x11136, 0x111D0, 0x112F0, 0x11450, 0x114D0,
    0x11650, 0x116C0, 0x11730, 0x118E0, 0x11950, 0x11C50, 0x11D50, 0x11DA0, 0x16A60, 0x16AC0,
    0x16B50, 0x1D7CE, 0x1D7D8, 0x1D7E2, 0x1D7EC, 0x1D7F6, 0x1E140, 0x1E2F0, 0x1E950, 0x1FBF0]

def digitValue? (c : Char) : Option Nat :=
  (zeroDigits.find? fun first => first ≤ c.val.toNat && c.val.toNat < first + 10).map
    fun first => c.val.toNat - first

/-- Looks for a range that holds `n` among the ranges from `low` up to but not
including `high`. Each of the `steps` halves what is left. -/
def inRangesBetween (ranges : Array (Nat × Nat)) (n : Nat) :
    (steps low high : Nat) → Bool
  | 0, _, _ => false
  | steps + 1, low, high =>
      let middle := (low + high) / 2
      match ranges[middle]? with
      | none => false
      | some (first, last) =>
          if high ≤ low then false
          else if n < first then inRangesBetween ranges n steps low middle
          else if last < n then inRangesBetween ranges n steps (middle + 1) high
          else true

/-- The character lies in one of the ranges, which are in increasing order. -/
def inRanges (ranges : Array (Nat × Nat)) (c : Char) : Bool :=
  inRangesBetween ranges c.val.toNat (ranges.size.log2 + 2) 0 ranges.size

end Text

end RetailPricing
