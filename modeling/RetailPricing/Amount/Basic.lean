/-!
# Amounts

An amount is a signed coefficient scaled by a power of ten. Amounts keep their
scale: `5.0` and `5.00` have the same value and are different amounts, and a
zero keeps its sign. The order of this module looks at values only and is
exact for coefficients and exponents of any size.
-/

namespace RetailPricing

/-- `countDigitsWithin fuel n` counts the decimal digits of `n`, looking at no
more than `fuel` of them beyond the first. -/
def countDigitsWithin : Nat → Nat → Nat
  | 0, _ => 1
  | fuel + 1, n =>
      if n < 10 then 1 else countDigitsWithin fuel (n / 10) + 1

/-- The number of decimal digits of `n`; zero has one digit. -/
def digitCount (n : Nat) : Nat :=
  countDigitsWithin n n

/-- The amount `± coefficient · 10 ^ exponent`. -/
structure Amount where
  negative : Bool
  coefficient : Nat
  exponent : Int
deriving DecidableEq

namespace Amount

/-- The whole number `n` as an amount of exponent zero. -/
def ofInt (n : Int) : Amount :=
  ⟨n < 0, n.natAbs, 0⟩

/-- The amount `0`, with which every discount starts. -/
def zero : Amount := ofInt 0

def isZero (x : Amount) : Bool :=
  x.coefficient == 0

def signedCoefficient (x : Amount) : Int :=
  if x.negative then -(x.coefficient : Int) else x.coefficient

/-- The same magnitude with the opposite sign; a zero changes its sign too. -/
def negate (x : Amount) : Amount :=
  { x with negative := !x.negative }

/-- The exponent that the leading digit of the coefficient stands for. -/
def leadingExponent (x : Amount) : Int :=
  x.exponent + digitCount x.coefficient - 1

/-- The coefficient of `x` written over the finer exponent `exponent`. A zero
stays a zero, however far its exponent is away. -/
def coefficientAt (x : Amount) (exponent : Int) : Nat :=
  if x.coefficient = 0 then 0
  else x.coefficient * Nat.pow 10 (x.exponent - exponent).toNat

theorem coefficientAt_eq (x : Amount) (exponent : Int) :
    x.coefficientAt exponent =
      x.coefficient * Nat.pow 10 (x.exponent - exponent).toNat := by
  by_cases isZero : x.coefficient = 0
  · simp only [coefficientAt, isZero, ↓reduceIte, Nat.zero_mul]
  · simp only [coefficientAt, isZero, ↓reduceIte]

/-- The sign of the value: both zeros have sign `0`. -/
def sign (x : Amount) : Int :=
  if x.coefficient = 0 then 0 else if x.negative then -1 else 1

/-- Order of the magnitudes of two amounts that are not zero. The leading
exponents decide first, so coefficients are only brought to a common exponent
when that needs few digits. -/
def compareMagnitude (x y : Amount) : Ordering :=
  match compare x.leadingExponent y.leadingExponent with
  | .eq =>
      let finer := min x.exponent y.exponent
      compare (x.coefficientAt finer) (y.coefficientAt finer)
  | different => different

def order (x y : Amount) : Ordering :=
  match compare x.sign y.sign with
  | .eq =>
      if x.sign = 0 then .eq
      else if x.negative then compareMagnitude y x
      else compareMagnitude x y
  | different => different

/-- The value is below zero; a negative zero is not. -/
def isNegative (x : Amount) : Bool :=
  x.negative && !x.isZero

end Amount

end RetailPricing
