import RetailPricing.Amount.Rounding
import RetailPricing.Amount.Written

/-!
# Decimals

A decimal is an amount, an infinity, or not a number. Comparison is exact and
never rounds. A quiet non-number equals nothing and has no place in the order;
a signalling one cannot be compared at all.

Infinities and non-numbers are written as words; a non-number shows its diagnostic
digits unless they are zero.
-/

namespace RetailPricing

/-- An amount, an infinity, or a non-number with its diagnostic digits. -/
inductive Decimal
  | finite (amount : Amount)
  | infinite (negative : Bool)
  | notANumber (signalling negative : Bool) (payload : Nat)
deriving DecidableEq

namespace Decimal

def amount? : Decimal → Option Amount
  | finite amount => some amount
  | infinite _ => none
  | notANumber _ _ _ => none

def isNotANumber : Decimal → Bool
  | notANumber _ _ _ => true
  | _ => false

def isSignalling : Decimal → Bool
  | notANumber signalling _ _ => signalling
  | _ => false

/-- Order of two decimals that are numbers; infinities stand at the ends.
Non-numbers have no order. -/
def order? : Decimal → Decimal → Option Ordering
  | finite x, finite y => some (x.order y)
  | infinite s, infinite t =>
      some (if s = t then .eq else if s then .lt else .gt)
  | infinite s, finite _ => some (if s then .lt else .gt)
  | finite _, infinite t => some (if t then .gt else .lt)
  | notANumber _ _ _, _ => none
  | _, notANumber _ _ _ => none

/-- Order of two decimals; without one, the comparison is invalid. -/
def order (x y : Decimal) : Except Signal Ordering :=
  match x.order? y with
  | some o => .ok o
  | none => .error .invalidOperation

/-- Equality of values. A quiet non-number equals nothing, itself included. -/
def equals (x y : Decimal) : Except Signal Bool :=
  if x.isSignalling || y.isSignalling then .error .invalidOperation
  else .ok (x.order? y == some .eq)

/-- The decimal is a zero; non-numbers are not. -/
def isZero : Decimal → Bool
  | finite amount => amount.isZero
  | _ => false

private def signWord (negative : Bool) : String :=
  if negative then "-" else ""

def toText : Decimal → String
  | finite amount => amount.toText
  | infinite negative => signWord negative ++ "Infinity"
  | notANumber signalling negative payload =>
      signWord negative ++ (if signalling then "sNaN" else "NaN") ++
        (if payload = 0 then "" else String.ofList (decimalDigits payload))

end Decimal

end RetailPricing
