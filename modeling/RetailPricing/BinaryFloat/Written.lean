import RetailPricing.Amount.Written
import RetailPricing.BinaryFloat.Basic

/-!
# The written form of floats

A float is written with the fewest digits that read back as the same float,
and with those nearest to it among them. The candidates for a number of digits
are its two neighbours on the decimal grid with that many digits.
-/

namespace RetailPricing

namespace BinaryFloat

/-- Seventeen digits always read back. -/
def mostDigits : Nat := 17

/-- The exponent of the leading decimal digit of `numerator / denominator`. -/
def leadingExponentOf (numerator denominator : Nat) : Int :=
  let guess : Int := (digitCount numerator : Int) - digitCount denominator
  let belowGuess : Bool :=
    if guess < 0 then numerator * Nat.pow 10 guess.natAbs < denominator
    else numerator < denominator * Nat.pow 10 guess.natAbs
  if belowGuess then guess - 1 else guess

/-- The quotient counted in units of `10 ^ exponent`, as a quotient again. -/
def inUnits (numerator denominator : Nat) (exponent : Int) : Nat × Nat :=
  if exponent < 0 then (numerator * Nat.pow 10 exponent.natAbs, denominator)
  else (numerator, denominator * Nat.pow 10 exponent.natAbs)

/-- The digits that a number of `count` digits nearest to the quotient can
have: the neighbour below and the one above, the nearer first. -/
def gridNeighbours (numerator denominator : Nat) (exponent : Int) : List Nat :=
  let (n, d) := inUnits numerator denominator exponent
  let below := n / d
  if halfEvenQuotient n d = below then [below, below + 1]
  else [below + 1, below]

/-- Tries `count` digits, then one more, as long as `fuel` allows. -/
def shortestFrom (negative : Bool) (numerator denominator : Nat)
    (target : BinaryFloat) : (fuel count : Nat) → Amount
  | 0, _ => ⟨negative, 0, 0⟩
  | fuel + 1, count =>
      let exponent := leadingExponentOf numerator denominator - count + 1
      let candidates :=
        (gridNeighbours numerator denominator exponent).map fun digits =>
          (⟨negative, digits, exponent⟩ : Amount)
      match candidates.find? fun candidate => ofAmount candidate == target with
      | some candidate => candidate
      | none =>
          shortestFrom negative numerator denominator target fuel (count + 1)

def quotientOf (mantissa : Nat) (exponent : Int) : Nat × Nat :=
  if exponent < 0 then (mantissa, Nat.pow 2 exponent.natAbs)
  else (mantissa * Nat.pow 2 exponent.natAbs, 1)

/-- The shortest amount that reads back as the float with this mantissa and
exponent. -/
def shortest (negative : Bool) (mantissa : Nat) (exponent : Int) : Amount :=
  if mantissa = 0 then ⟨negative, 0, 0⟩
  else
    let (numerator, denominator) := quotientOf mantissa exponent
    shortestFrom negative numerator denominator
      (finite negative mantissa exponent) mostDigits 1

def withoutFinalZeros (digits : List Char) : List Char :=
  (digits.reverse.dropWhile (· == '0')).reverse

def significantDigits (x : Amount) : List Char :=
  match withoutFinalZeros (decimalDigits x.coefficient) with
  | [] => ['0']
  | digits => digits

/-- Exponents of floats have a sign and at least two digits. -/
def exponentText (e : Int) : List Char :=
  let digits := decimalDigits e.natAbs
  (if e < 0 then '-' else '+') ::
    (List.replicate (2 - digits.length) '0' ++ digits)

/-- Floats whose leading digit stands for one of these exponents are written
without an exponent. -/
def isPositional (leading : Int) : Bool :=
  -4 ≤ leading && leading < 16

/-- Digits of which the first stands for the exponent `leading`, with a point
and a digit on each side of it. -/
def positional (digits : List Char) (leading : Int) : List Char :=
  if leading < 0 then
    '0' :: '.' :: (List.replicate (leading.natAbs - 1) '0' ++ digits)
  else
    let whole := leading.toNat + 1
    let padded := digits ++ List.replicate (whole - digits.length) '0'
    match padded.drop whole with
    | [] => padded ++ ['.', '0']
    | fraction => padded.take whole ++ '.' :: fraction

def toText : BinaryFloat → String
  | notANumber => "nan"
  | infinite negative => if negative then "-inf" else "inf"
  | finite negative mantissa exponent =>
      let x := shortest negative mantissa exponent
      let digits := significantDigits x
      let leading := if x.isZero then 0 else x.leadingExponent
      let body :=
        if isPositional leading then positional digits leading
        else Amount.pointAfterFirst digits ++ 'e' :: exponentText leading
      (if negative then "-" else "") ++ String.ofList body

end BinaryFloat

end RetailPricing
