import RetailPricing.BinaryFloat.Written

/-!
# Floats with a chosen number of digits

Instead of its shortest digits a float can be written with a chosen number of
them: with that many places behind the point, with that many behind the first
digit and an exponent, or with that many in all, in whichever of the two forms
suits its size. Its exact value is rounded once, and a half goes to the even
digit.
-/

namespace RetailPricing

/-- A form in which a float is written with a chosen number of digits. -/
inductive FloatForm
  | fixed
  | scientific
  | general
deriving DecidableEq

namespace BinaryFloat

def isNegative : BinaryFloat → Bool
  | finite negative _ _ => negative
  | infinite negative => negative
  | notANumber => false

/-- The first `count` digits of a quotient, rounded, and the exponent that the
first of them stands for. Rounding up to one digit more leaves a zero behind
them, which is dropped. -/
def leadingDigits (count numerator denominator : Nat) : List Char × Int :=
  if numerator = 0 then (List.replicate count '0', 0)
  else
    let leading := leadingExponentOf numerator denominator
    let (n, d) := inUnits numerator denominator (leading - count + 1)
    let digits := decimalDigits (halfEvenQuotient n d)
    if count < digits.length then (digits.take count, leading + 1)
    else (digits, leading)

/-- The text of digits that has a point if `kept`, though nothing stands behind
it. -/
def withPoint (kept : Bool) (digits : List Char) : List Char :=
  if kept && !digits.contains '.' then digits ++ ['.'] else digits

/-- A quotient with `places` digits behind the point. -/
def fixedText (pointKept : Bool) (places numerator denominator : Nat) :
    List Char :=
  let (n, d) := inUnits numerator denominator (-(places : Int))
  withPoint pointKept <|
    Amount.pointBeforeLast places (decimalDigits (halfEvenQuotient n d))

/-- Digits with a point behind the first of them and the exponent for which it
stands. -/
def scientificDigits (pointKept : Bool) (digits : List Char) (leading : Int) :
    List Char :=
  withPoint pointKept (Amount.pointAfterFirst digits) ++
    'e' :: exponentText leading

/-- A quotient with `places` digits behind the first one. -/
def scientificText (pointKept : Bool) (places numerator denominator : Nat) :
    List Char :=
  let (digits, leading) := leadingDigits (places + 1) numerator denominator
  scientificDigits pointKept digits leading

/-- Digits with a point in them, without zeros at the end of what stands behind
it. -/
def withoutFinalPlaces (digits : List Char) : List Char :=
  if digits.contains '.' then
    let kept := withoutFinalZeros digits
    if kept.getLast? = some '.' then kept.dropLast else kept
  else digits

/-- A quotient with `count` digits in all, of which there is at least one. It
has an exponent if it is less than a ten-thousandth or if the digits do not
reach to the point. Zeros at the end are left out, unless the point is kept. -/
def generalText (pointKept : Bool) (count numerator denominator : Nat) :
    List Char :=
  let count := max count 1
  let (digits, leading) := leadingDigits count numerator denominator
  if -4 ≤ leading ∧ leading < count then
    let text := Amount.pointBeforeLast (count - 1 - leading).toNat digits
    if pointKept then withPoint true text else withoutFinalPlaces text
  else if pointKept then scientificDigits true digits leading
  else
    match withoutFinalZeros digits with
    | [] => scientificDigits false ['0'] leading
    | kept => scientificDigits false kept leading

/-- A float without its sign, written with the number of digits that `places`
stands for. -/
def unsignedText (form : FloatForm) (pointKept : Bool) (places : Nat) :
    BinaryFloat → List Char
  | notANumber => "nan".toList
  | infinite _ => "inf".toList
  | finite _ mantissa exponent =>
      let (numerator, denominator) := quotientOf mantissa exponent
      match form with
      | .fixed => fixedText pointKept places numerator denominator
      | .scientific => scientificText pointKept places numerator denominator
      | .general => generalText pointKept places numerator denominator

end BinaryFloat

end RetailPricing
