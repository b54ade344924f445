import RetailPricing.Amount.Basic

/-!
# The written form of amounts

An amount is written with all digits of its coefficient, so that its scale can
be read back. Amounts with a positive exponent, and those whose leading digit
stands behind the sixth place after the point, are written with one digit
before the point and an exponent.
-/

namespace RetailPricing

def decimalDigits (n : Nat) : List Char :=
  Nat.toDigits 10 n

namespace Amount

/-- The leading exponent below which amounts are written with an exponent. -/
def leastPositionalExponent : Int := -6

private def signText (x : Amount) : String :=
  if x.negative then "-" else ""

/-- Digits with a point after the first one; a single digit has no point. -/
def pointAfterFirst : List Char → List Char
  | first :: second :: rest => first :: '.' :: second :: rest
  | digits => digits

/-- Digits of which the last `places` stand behind the point. Zeros are put in
front so that one digit stands before it. -/
def pointBeforeLast (places : Nat) (digits : List Char) : List Char :=
  let padded :=
    List.replicate (places + 1 - digits.length) '0' ++ digits
  let whole := padded.length - places
  if places = 0 then padded
  else padded.take whole ++ '.' :: padded.drop whole

/-- An exponent always shows its sign. -/
def exponentText (e : Int) : List Char :=
  (if e < 0 then '-' else '+') :: decimalDigits e.natAbs

def toText (x : Amount) : String :=
  let digits := decimalDigits x.coefficient
  let body :=
    if x.exponent ≤ 0 ∧ leastPositionalExponent ≤ x.leadingExponent then
      pointBeforeLast x.exponent.natAbs digits
    else
      pointAfterFirst digits ++ 'E' :: exponentText x.leadingExponent
  signText x ++ String.ofList body

end Amount

end RetailPricing
