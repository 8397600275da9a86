import TableTalk.Decimal.Basic

/-!
# Doubles in decimal notation

A finite double is a whole number times a power of two. From there on all is
exact: a double is rounded to some number of digits, or written with the fewest
digits that read back as the same double.
-/

namespace TableTalk

set_option autoImplicit false

structure Binary where
  negative : Bool
  mantissa : Nat
  exponent : Int
  deriving Repr, DecidableEq, Inhabited

namespace Binary

/-- The first of the 53 bits of a mantissa. It is not stored, and the least doubles
do without it. -/
def leadingBit : Nat := 4503599627370496

def ofFloat (x : Float) : Binary :=
  let bits := x.toBits.toNat
  let fraction := bits % leadingBit
  let scale := bits / leadingBit % 2048
  { negative := 2048 ≤ bits / leadingBit
    mantissa := if scale = 0 then fraction else leadingBit + fraction
    exponent := (if scale = 0 then 1 else scale : Nat) - 1075 }

abbrev Ratio := Nat × Nat

def scaled (n base : Nat) (exponent : Int) : Ratio :=
  if 0 ≤ exponent then (n * Nat.pow base exponent.toNat, 1)
  else (n, Nat.pow base (-exponent).toNat)

def isLess (a b : Ratio) : Bool := a.1 * b.2 < b.1 * a.2

def size (binary : Binary) : Ratio := scaled binary.mantissa 2 binary.exponent

/-- The power of ten above a number: it is less than ten to this power, and not
less than a tenth of it. -/
def power (ratio : Ratio) : Int :=
  let guess : Int := Decimal.digitCount ratio.1 - Decimal.digitCount ratio.2
  if isLess ratio (scaled 1 10 guess) then guess else guess + 1

def quotient (ratio : Ratio) (exponent : Int) : Nat :=
  let unit := scaled 1 10 exponent
  ratio.1 * unit.2 / (ratio.2 * unit.1)

def isWhole (ratio : Ratio) (exponent : Int) : Bool :=
  let unit := scaled 1 10 exponent
  ratio.1 * unit.2 % (ratio.2 * unit.1) = 0

def rounded (binary : Binary) (digits : Nat) : Decimal :=
  let exponent := power binary.size - digits
  -- A half goes up.
  { negative := binary.negative
    significand := (quotient (2 * binary.size.1, binary.size.2) exponent + 1) / 2
    exponent }

/-- Whether a positive decimal reads back as the double: it lies between the
middles on the way to the next doubles. The middles themselves go to the even
mantissa. Below a power of two the next double is only half as far. -/
def readsBack (binary : Binary) (decimal : Ratio) : Bool :=
  let lower := if binary.mantissa = leadingBit && -1074 < binary.exponent
    then scaled (4 * binary.mantissa - 1) 2 (binary.exponent - 2)
    else scaled (2 * binary.mantissa - 1) 2 (binary.exponent - 1)
  let upper := scaled (2 * binary.mantissa + 1) 2 (binary.exponent - 1)
  if binary.mantissa % 2 = 0 then !isLess decimal lower && !isLess upper decimal
  else isLess lower decimal && isLess decimal upper

def candidate? (binary : Binary) (digits : Nat) : Option Decimal :=
  let exponent := power binary.size - digits
  let below := quotient binary.size exponent
  let isHit := fun n => binary.readsBack (scaled n 10 exponent)
  let result := fun n => some { negative := binary.negative, significand := n, exponent }
  match isHit below, isHit (below + 1) with
  | true, true =>
      -- The nearer of the two, and of two equally near ones the even one.
      let twice := (2 * binary.size.1, binary.size.2)
      if quotient twice exponent % 2 = 0 || (isWhole twice exponent && below % 2 = 0) then
        result below
      else result (below + 1)
  | true, false => result below
  | false, true => result (below + 1)
  | false, false => none

/-- The decimal of the fewest digits that reads back, and of those the nearest.
Seventeen digits are always enough. -/
def shortest (binary : Binary) : Decimal :=
  if binary.mantissa = 0 then
    { negative := binary.negative, significand := 0, exponent := 0 }
  else ((List.range 17).findSome? fun n => binary.candidate? (n + 1)).getD
    (binary.rounded 17)

end Binary

end TableTalk
