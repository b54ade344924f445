import RetailPricing.Amount.Rounding
import RetailPricing.Decimal.Basic

/-!
# Binary floats

A binary float of double precision is kept as mantissa and binary exponent. Of
all ways to write a value, the one with the full mantissa is used, or the least
exponent for the smallest values; so equal floats are equal terms, apart from
the two zeros.
-/

namespace RetailPricing

/-- `± mantissa · 2 ^ exponent`, an infinity, or not a number. -/
inductive BinaryFloat
  | finite (negative : Bool) (mantissa : Nat) (exponent : Int)
  | infinite (negative : Bool)
  | notANumber
deriving DecidableEq

namespace BinaryFloat

def mantissaBits : Nat := 53

/-- Full mantissas lie below this number. -/
def mantissaBound : Nat := Nat.pow 2 mantissaBits

def leastExponent : Int := -1074

def greatestExponent : Int := 971

def zero (negative : Bool) : BinaryFloat :=
  finite negative 0 leastExponent

/-- Sets a mantissa that rounding has made one digit too long right, and gives
an infinity when the exponent is too large. -/
def settle (negative : Bool) (mantissa : Nat) (exponent : Int) : BinaryFloat :=
  let (mantissa, exponent) :=
    if mantissa = mantissaBound then (mantissaBound / 2, exponent + 1)
    else (mantissa, exponent)
  if greatestExponent < exponent then infinite negative
  else finite negative mantissa exponent

/-- The quotient of `numerator` and `denominator · 2 ^ exponent`, rounded to a
whole number. -/
def scaledQuotient (numerator denominator : Nat) (exponent : Int) : Nat :=
  if exponent < 0 then
    halfEvenQuotient (numerator * Nat.pow 2 exponent.natAbs) denominator
  else
    halfEvenQuotient numerator (denominator * Nat.pow 2 exponent.natAbs)

/-- The float nearest to a positive quotient; a half goes to the even
mantissa. The first guess of the exponent is right or one too small. -/
def nearest (negative : Bool) (numerator denominator : Nat) : BinaryFloat :=
  if numerator = 0 then zero negative
  else
    let guess : Int :=
      (numerator.log2 : Int) - denominator.log2 - mantissaBits
    let tooSmall : Bool :=
      if guess < 0 then
        mantissaBound * denominator ≤ numerator * Nat.pow 2 guess.natAbs
      else
        mantissaBound * (denominator * Nat.pow 2 guess.natAbs) ≤ numerator
    let exponent := max leastExponent (if tooSmall then guess + 1 else guess)
    settle negative (scaledQuotient numerator denominator exponent) exponent

/-- Leading exponents above this one are beyond the largest float. -/
def greatestLeadingExponent : Int := 400

/-- Leading exponents below this one are closer to zero than to any float. -/
def leastLeadingExponent : Int := -400

def ofAmount (x : Amount) : BinaryFloat :=
  if x.isZero || x.leadingExponent < leastLeadingExponent then zero x.negative
  else if greatestLeadingExponent < x.leadingExponent then infinite x.negative
  else if x.exponent < 0 then
    nearest x.negative x.coefficient (Nat.pow 10 x.exponent.natAbs)
  else
    nearest x.negative (x.coefficient * Nat.pow 10 x.exponent.natAbs) 1

/-- The exact value of a float. A negative power of two is a row of decimal
digits behind the point. -/
def toDecimal : BinaryFloat → Decimal
  | finite negative mantissa exponent =>
      .finite <|
        if exponent < 0 then
          ⟨negative, mantissa * Nat.pow 5 exponent.natAbs, exponent⟩
        else
          ⟨negative, mantissa * Nat.pow 2 exponent.natAbs, 0⟩
  | infinite negative => .infinite negative
  | notANumber => .notANumber false false 0

def isZero : BinaryFloat → Bool
  | finite _ mantissa _ => mantissa == 0
  | _ => false

end BinaryFloat

end RetailPricing
