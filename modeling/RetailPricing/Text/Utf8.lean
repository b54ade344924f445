/-!
# UTF-8

A row of bytes is decoded as a whole or not at all. Every character has exactly
one form: overlong forms, surrogates and numbers beyond the last character are
refused.
-/

namespace RetailPricing

namespace Utf8

/-- The six bits of a byte that continues a character. -/
def continuation? (b : UInt8) : Option Nat :=
  if 0x80 ≤ b && b ≤ 0xBF then some (b.toNat - 0x80) else none

/-- The character with this number, if it needs at least the number of bytes
that were used for it, which is so from `least` on. -/
def scalar? (least n : Nat) : Option Char :=
  if n < least || (0xD800 ≤ n && n ≤ 0xDFFF) || 0x10FFFF < n then none
  else some (Char.ofNat n)

def two? (a b : UInt8) : Option Char := do
  let b ← continuation? b
  scalar? 0x80 ((a.toNat - 0xC0) * 64 + b)

def three? (a b c : UInt8) : Option Char := do
  let b ← continuation? b
  let c ← continuation? c
  scalar? 0x800 (((a.toNat - 0xE0) * 64 + b) * 64 + c)

def four? (a b c d : UInt8) : Option Char := do
  let b ← continuation? b
  let c ← continuation? c
  let d ← continuation? d
  scalar? 0x10000 ((((a.toNat - 0xF0) * 64 + b) * 64 + c) * 64 + d)

def decode? : List UInt8 → Option (List Char)
  | [] => some []
  | a :: rest =>
      if a < 0x80 then do
        return Char.ofNat a.toNat :: (← decode? rest)
      else if a < 0xC0 then none
      else if a < 0xE0 then
        match rest with
        | b :: rest => do return (← two? a b) :: (← decode? rest)
        | _ => none
      else if a < 0xF0 then
        match rest with
        | b :: c :: rest => do return (← three? a b c) :: (← decode? rest)
        | _ => none
      else if a < 0xF8 then
        match rest with
        | b :: c :: d :: rest => do
            return (← four? a b c d) :: (← decode? rest)
        | _ => none
      else none

end Utf8

end RetailPricing
