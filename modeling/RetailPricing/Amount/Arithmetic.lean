import RetailPricing.Amount.Rounding

/-!
# Arithmetic on amounts

Each operation computes its exact result and rounds it once. In a sum whose
operands lie far apart, the smaller one is first replaced by a sliver of the
same sign that rounds in the same way, so that no coefficient grows with the
distance of the exponents.
-/

namespace RetailPricing

namespace Amount

/-- Below this exponent a nonzero operand decides nothing but the direction in
which the sum with `x` is rounded. -/
def reach (p : WorkingPrecision) (x : Amount) : Int :=
  let digits := digitCount x.coefficient
  x.exponent - 1 + (if p.digits < digits then 0 else (digits : Int) - p.digits - 1)

/-- The operand `y` as a sum with the coarser operand `x` sees it. -/
def asSeenFrom (p : WorkingPrecision) (x y : Amount) : Amount :=
  if x.isZero then y
  else if y.leadingExponent < x.reach p then
    ⟨y.negative, if y.isZero then 0 else 1, x.reach p⟩
  else y

/-- The sum without rounding, over the finer of the two exponents. A sum of
nothing but negative zeros is a negative zero; any other zero is positive. -/
def exactSum (x y : Amount) : Amount :=
  let finer := min x.exponent y.exponent
  let brought (z : Amount) : Int :=
    if z.negative then -(z.coefficientAt finer : Int) else z.coefficientAt finer
  let total := brought x + brought y
  ⟨if total = 0 then x.negative && y.negative else total < 0,
    total.natAbs, finer⟩

def add (p : WorkingPrecision) (x y : Amount) : Except Signal Amount :=
  let sum :=
    if y.exponent < x.exponent then exactSum x (asSeenFrom p x y)
    else if x.exponent < y.exponent then exactSum (asSeenFrom p y x) y
    else exactSum x y
  sum.round p

def sub (p : WorkingPrecision) (x y : Amount) : Except Signal Amount :=
  add p x y.negate

def mul (p : WorkingPrecision) (x y : Amount) : Except Signal Amount :=
  round p
    ⟨x.negative != y.negative, x.coefficient * y.coefficient,
      x.exponent + y.exponent⟩

/-- A hundredth of an amount. The exponent of the result is as close to that
of the operand as its digits allow. -/
def hundredth (p : WorkingPrecision) (x : Amount) : Except Signal Amount :=
  round p <|
    if x.coefficient % 100 = 0 then
      ⟨x.negative, x.coefficient / 100, x.exponent⟩
    else if x.coefficient % 10 = 0 then
      ⟨x.negative, x.coefficient / 10, x.exponent - 1⟩
    else
      ⟨x.negative, x.coefficient, x.exponent - 2⟩

end Amount

end RetailPricing
