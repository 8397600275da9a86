import TableTalk.Decimal.Double

/-!
# Written numbers

How decimals are written: in full, or with an exponent when they are large or
small. At least one digit stands after the point.
-/

namespace TableTalk

set_option autoImplicit false

/-- The choices of a notation. The power of a number is the number of its digits
before the point. -/
structure Notation where
  /-- Numbers of at least this power are written in full. -/
  leastPower : Int
  /-- Numbers of at most this power are written in full. -/
  greatestPower : Int
  /-- Whether a single digit before an exponent gets a point and a zero. -/
  keepsPoint : Bool
  /-- Whether a positive exponent gets a sign. -/
  signsExponent : Bool
  /-- The least number of digits of an exponent. -/
  exponentWidth : Nat
  deriving Repr, DecidableEq, Inhabited

namespace Decimal

def digits (decimal : Decimal) : List Char :=
  ((Nat.toDigits 10 decimal.significand).reverse.dropWhile (· = '0')).reverse

def zeros (count : Nat) : List Char := List.replicate count '0'

def inFull (digits : List Char) (power : Int) : List Char :=
  if power ≤ 0 then '0' :: '.' :: zeros (-power).toNat ++ digits
  else
    let whole := power.toNat
    digits.take whole ++ zeros (whole - digits.length) ++
      '.' :: (if digits.length ≤ whole then ['0'] else digits.drop whole)

def withExponent (form : Notation) (digits : List Char) (power : Int) : List Char :=
  let exponent := power - 1
  let written := Nat.toDigits 10 exponent.natAbs
  digits.take 1 ++
    (if digits.length = 1 then (if form.keepsPoint then ['.', '0'] else [])
      else '.' :: digits.drop 1) ++
    ['e'] ++
    (if exponent < 0 then ['-'] else if form.signsExponent then ['+'] else []) ++
    zeros (form.exponentWidth - written.length) ++ written

def written (form : Notation) (decimal : Decimal) : String :=
  if decimal.significand = 0 then (if decimal.negative then "-0.0" else "0.0")
  else
    let power := decimal.magnitude
    let text := if form.leastPower ≤ power && power ≤ form.greatestPower
      then inFull decimal.digits power else withExponent form decimal.digits power
    String.ofList ((if decimal.negative then ['-'] else []) ++ text)

end Decimal

end TableTalk
