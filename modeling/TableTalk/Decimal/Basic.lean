/-!
# Decimal numbers

Numbers in decimal notation, taken exactly, and the doubles nearest to them.
-/

namespace TableTalk

set_option autoImplicit false

structure Decimal where
  negative : Bool := false
  significand : Nat
  exponent : Int
  deriving Repr, DecidableEq, Inhabited

namespace Decimal

def digitCount (n : Nat) : Nat := if n = 0 then 0 else (Nat.toDigits 10 n).length

/-- A bound on the size: below ten to this power, and not below a tenth of it. -/
def magnitude (decimal : Decimal) : Int := digitCount decimal.significand + decimal.exponent

/-- Halfway between the largest double and the number after it, which has one bit
more. From here on decimals are too large. -/
def doubleBound : Nat := Nat.pow 2 1024 - Nat.pow 2 970

def fitsDouble (decimal : Decimal) : Bool :=
  if decimal.significand = 0 || decimal.magnitude ≤ 308 then true
  else if 309 < decimal.magnitude then false
  else if 0 ≤ decimal.exponent then
    decimal.significand * Nat.pow 10 decimal.exponent.toNat < doubleBound
  else decimal.significand < doubleBound * Nat.pow 10 (-decimal.exponent).toNat

end Decimal

end TableTalk
