import RetailPricing.Amount.Basic

/-!
# Working precision

Results of arithmetic are kept to a fixed number of digits and within fixed
exponent limits. A result with more digits goes to the nearest amount that can
be kept, and a half goes to the even neighbour. Results below the smallest
normal amount lose digits, down to zero; results above the largest amount
raise the overflow signal.
-/

namespace RetailPricing

/-- Conditions that arithmetic and comparison raise instead of a result. -/
inductive Signal
  | invalidOperation
  | overflow
deriving DecidableEq

/-- How many digits a result keeps and between which exponents it lies. -/
structure WorkingPrecision where
  digits : Nat
  greatestExponent : Int
  leastExponent : Int
deriving DecidableEq

namespace WorkingPrecision

/-- Money is kept to 28 digits, between `10 ^ -999999` and `10 ^ 999999`. -/
def money : WorkingPrecision := ⟨28, 999999, -999999⟩

/-- The finest exponent of a result, that of the last digit of the smallest
normal amount. -/
def finestExponent (p : WorkingPrecision) : Int :=
  p.leastExponent - p.digits + 1

end WorkingPrecision

/-- The whole number nearest to `n / d`; a half goes to the even neighbour. -/
def halfEvenQuotient (n d : Nat) : Nat :=
  let quotient := n / d
  let remainder := n % d
  if 2 * remainder < d then quotient
  else if d < 2 * remainder then quotient + 1
  else quotient + quotient % 2

theorem halfEvenQuotient_le_div_succ (n d : Nat) :
    halfEvenQuotient n d ≤ n / d + 1 := by
  dsimp only [halfEvenQuotient]
  split
  · exact Nat.le_succ _
  · split
    · exact Nat.le_refl _
    · exact Nat.add_le_add_left (Nat.le_of_lt_succ (Nat.mod_lt _ Nat.two_pos)) _

/-- The coefficient without its last `dropped` digits. When more digits are to
be dropped than there are, what is left is less than a tenth of a unit. -/
def dropDigits (coefficient dropped : Nat) : Nat :=
  if digitCount coefficient < dropped then 0
  else halfEvenQuotient coefficient (Nat.pow 10 dropped)

namespace Amount

/-- The exponent to which an amount of this size is kept. -/
def keptExponent (p : WorkingPrecision) (x : Amount) : Int :=
  max (x.exponent + digitCount x.coefficient - p.digits) p.finestExponent

/-- An amount whose rounding produced one digit too many ends in a zero and
moves up by one exponent. -/
def trimCarry (p : WorkingPrecision) (x : Amount) : Amount :=
  if p.digits < digitCount x.coefficient then
    ⟨x.negative, x.coefficient / 10, x.exponent + 1⟩
  else x

/-- The nearest amount within the working precision. Zeros only have their
exponent brought into range. -/
def round (p : WorkingPrecision) (x : Amount) : Except Signal Amount :=
  if x.isZero then
    .ok { x with
      exponent := min (max x.exponent p.finestExponent) p.greatestExponent }
  else if p.greatestExponent < x.leadingExponent then
    .error .overflow
  else
    let kept := x.keptExponent p
    if kept ≤ x.exponent then .ok x
    else
      let rounded := trimCarry p
        ⟨x.negative, dropDigits x.coefficient (kept - x.exponent).toNat, kept⟩
      if p.greatestExponent < rounded.leadingExponent then .error .overflow
      else .ok rounded

end Amount

end RetailPricing
