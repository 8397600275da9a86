import TableTalk.Decimal.Double

/-!
# Extended precision

Numbers of 64 bits, eleven more than a double has. Decimals become doubles and
doubles become decimals by factors of powers of ten, and each product is rounded to
64 bits. So the result is close, but not always the nearest one.
-/

namespace TableTalk

set_option autoImplicit false

def dropBits (count n : Nat) : Nat :=
  let unit := Nat.pow 2 count
  let kept := n / unit
  let twice := 2 * (n % unit)
  -- A half goes to the even neighbour.
  if unit < twice || (twice = unit && kept % 2 = 1) then kept + 1 else kept

structure Extended where
  mantissa : Nat
  exponent : Int
  deriving Repr, DecidableEq, Inhabited

namespace Extended

def nearest (mantissa : Nat) (exponent : Int) : Extended :=
  let count := mantissa.log2 - 63
  { mantissa := dropBits count mantissa, exponent := exponent + count }

def times (a b : Extended) : Extended :=
  nearest (a.mantissa * b.mantissa) (a.exponent + b.exponent)

/-- The number nearest to a fraction. It is taken to more than 64 bits; one more bit
tells whether the fraction lies above that. -/
def ofRatio (ratio : Binary.Ratio) : Extended :=
  let shift := 66 + ratio.2.log2 - ratio.1.log2
  let scaled := ratio.1 * Nat.pow 2 shift
  let more := if scaled % ratio.2 = 0 then 0 else 1
  nearest (2 * (scaled / ratio.2) + more) (-(shift + 1 : Nat))

def powerOfTen (power : Int) : Extended := ofRatio (Binary.scaled 1 10 power)

def shifted (x : Extended) (power : Int) : Extended :=
  let factor (places : Int) : Extended := powerOfTen (if power < 0 then -places else places)
  let size := power.natAbs
  let hundreds := Nat.repeat (times (factor 100)) (size / 100) x
  let tens := Nat.repeat (times (factor 10)) (size % 100 / 10) hundreds
  Nat.repeat (times (factor 1)) (size % 10) tens

/-! ## Doubles -/

def ofBinary (binary : Binary) : Extended :=
  { mantissa := binary.mantissa, exponent := binary.exponent }

def toRatio (x : Extended) : Binary.Ratio := Binary.scaled x.mantissa 2 x.exponent

/-- The largest finite double. -/
def largest : Extended := { mantissa := 9007199254740991, exponent := 971 }

def exceedsDoubles (x : Extended) : Bool :=
  x.mantissa ≠ 0 && (1024 < x.mantissa.log2 + x.exponent ||
    (1000 < x.mantissa.log2 + x.exponent && Binary.isLess largest.toRatio x.toRatio))

def toFloat (x : Extended) : Float :=
  if x.mantissa = 0 || x.mantissa.log2 + x.exponent < -1100 then 0.0
  else if x.exceedsDoubles then 1.0 / 0.0
  else
    let surplus : Int := max ((x.mantissa.log2 : Int) - 52) (-1074 - x.exponent)
    let mantissa := if surplus < 0 then x.mantissa * Nat.pow 2 (-surplus).toNat
      else dropBits surplus.toNat x.mantissa
    let scale := (x.exponent + surplus + 1074).toNat
    Float.ofBits (UInt64.ofNat (scale * Binary.leadingBit + mantissa))

/-! ## Decimals -/

/-- A number of at least this size with one more digit may not fit into 64 bits. -/
def digitBound : Nat := 1844674407370955160

def withoutSurplus (decimal : Decimal) : Decimal :=
  let excess := Decimal.digitCount decimal.significand - 19
  let isReached := digitBound ≤ decimal.significand / Nat.pow 10 excess
  let surplus := if isReached then excess else excess - 1
  { decimal with
    significand := decimal.significand / Nat.pow 10 surplus
    exponent := decimal.exponent + surplus }

/-- The same decimal with its exponent closer to zero, as far as the significand can
take or give zeros at its end. No number of 64 bits has more than twenty of them. -/
def settled : Nat → Decimal → Decimal
  | 0, decimal => decimal
  | steps + 1, decimal =>
      if 0 < decimal.exponent && decimal.significand ≤ digitBound then
        settled steps { decimal with
          significand := 10 * decimal.significand
          exponent := decimal.exponent - 1 }
      else if decimal.exponent < 0 && decimal.significand % 10 = 0 then
        settled steps { decimal with
          significand := decimal.significand / 10
          exponent := decimal.exponent + 1 }
      else decimal

def ofDecimal (decimal : Decimal) : Extended :=
  let settled := settled 20 (withoutSurplus decimal)
  (nearest settled.significand 0).shifted settled.exponent

/-- Multiplies by a power of ten as long as a condition holds. Takes note of the power
that was taken out. The fuel bounds the number of factors. -/
def pushed (goesOn : Extended → Bool) (power : Int) : Nat → Extended × Int → Extended × Int
  | 0, reached => reached
  | fuel + 1, (x, exponent) =>
      if goesOn x then
        pushed goesOn power fuel (x.times (powerOfTen power), exponent - power)
      else (x, exponent)

def isBelow (x : Extended) (power : Int) : Bool :=
  Binary.isLess x.toRatio (powerOfTen power).toRatio

/-- A number with 18 or 19 digits before its point, and the power of ten that brings
it back. No step takes more than twelve factors. -/
def aligned (x : Extended) : Extended × Int :=
  let down (limit power : Int) := pushed (fun x => !x.isBelow limit) power 12
  let up (limit power : Int) := pushed (fun x => x.isBelow limit) power 12
  if x.isBelow 19 then up 17 1 (up 7 10 (up (-97) 100 (x, 0)))
  else down 19 (-1) (down 29 (-10) (down 119 (-100) (x, 0)))

/-- The decimal of so many digits, at most 17. The digits after them are cut off but
for the next one, by which the last goes up or stays. -/
def toDecimal (x : Extended) (digits : Nat) : Decimal :=
  let (whole, exponent) := x.aligned
  let size := whole.toRatio.1 / whole.toRatio.2
  let surplus := Decimal.digitCount size - digits
  { significand := (size / Nat.pow 10 (surplus - 1) + 5) / 10
    exponent := exponent + surplus }

end Extended

def Decimal.toFloat (decimal : Decimal) : Float :=
  let size := if decimal.significand = 0 then 0.0 else (Extended.ofDecimal decimal).toFloat
  if decimal.negative then -size else size

end TableTalk
