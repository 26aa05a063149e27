/-!
Quotients rounded to floating-point numbers of 53 bits.

A value is `mantissa · 2 ^ exponent`. The exponent is at least `-1074`, and the mantissa has at most 53 bits, all of
them unless the exponent is the least one. Rounding goes to the nearest value and of two equally near ones to the
one with an even mantissa. There is no value from `2 ^ 1024` on.
-/

namespace Bytebeat

def roundDiv (num den : Nat) : Nat :=
  let q := num / den
  let r := num % den
  if 2 * r < den then q else if den < 2 * r then q + 1 else q + q % 2

structure Binary64 where
  mantissa : Nat
  exponent : Int
  deriving DecidableEq

namespace Binary64

def exponentOf (num den : Nat) : Int :=
  let shift : Int := num.log2 - den.log2
  let reaches := if 0 ≤ shift then den <<< shift.toNat ≤ num else den ≤ num <<< (-shift).toNat
  max (-1074) (if reaches then shift - 52 else shift - 53)

def roundScaled (num den : Nat) (exponent : Int) : Nat :=
  if 0 ≤ exponent then roundDiv num (den <<< exponent.toNat) else roundDiv (num <<< (-exponent).toNat) den

/-- The value nearest to a quotient with a positive divisor; none if that would be `2 ^ 1024` or more. -/
def ofQuotient? (num den : Nat) : Option Binary64 :=
  if num = 0 then some ⟨0, -1074⟩
  else
    let exponent := exponentOf num den
    let mantissa := roundScaled num den exponent
    if 971 < exponent || (exponent = 971 && 1 <<< 53 ≤ mantissa) then none else some ⟨mantissa, exponent⟩

def roundTimes (x : Binary64) (scale : Nat) : Nat :=
  if 0 ≤ x.exponent then (x.mantissa * scale) <<< x.exponent.toNat
  else roundDiv (x.mantissa * scale) (1 <<< (-x.exponent).toNat)

def toNat? (x : Binary64) : Option Nat :=
  if 0 ≤ x.exponent then some (x.mantissa <<< x.exponent.toNat)
  else if x.mantissa % (1 <<< (-x.exponent).toNat) = 0 then some (x.mantissa / (1 <<< (-x.exponent).toNat)) else none

end Binary64
end Bytebeat
