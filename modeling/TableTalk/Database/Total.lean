import TableTalk.Database.Cell

/-!
# Sums of values

Integers are added exactly. Once a value is no integer, or the sum does not fit,
the sum goes on in doubles, with the rounding errors gathered beside it.
-/

namespace TableTalk.Database

set_option autoImplicit false

structure Total where
  /-- The number of values added so far. -/
  count : Nat := 0
  /-- The sum as long as it is exact. -/
  whole : Int := 0
  isExact : Bool := true
  /-- Whether the sum left the range of integers before any real was added. -/
  overflowed : Bool := false
  sum : Float := 0.0
  /-- What rounding has cut off from the sum. -/
  remainder : Float := 0.0
  deriving Inhabited

namespace Total

def wideInteger : Int := 4503599627370496

/-- Adds a double and gathers the part that rounding cuts off. -/
def addReal (total : Total) (x : Float) : Total :=
  let next := total.sum + x
  let lost :=
    if total.sum.abs > x.abs then (total.sum - next) + x else (x - next) + total.sum
  { total with sum := next, remainder := total.remainder + lost }

/-- Adds an integer; a wide one in two parts that are exact as doubles. -/
def addWhole (total : Total) (n : Int) : Total :=
  if n ≤ -wideInteger || wideInteger ≤ n then
    let low := n.tmod 16384
    (total.addReal (Float.ofInt (n - low))).addReal (Float.ofInt low)
  else total.addReal (Float.ofInt n)

def inexact (total : Total) : Total :=
  let low := if total.whole ≤ -wideInteger || wideInteger ≤ total.whole
    then total.whole.tmod 16384 else 0
  { total with
    isExact := false
    sum := Float.ofInt (total.whole - low)
    remainder := Float.ofInt low }

def addNumber (total : Total) (cell : Cell) : Total :=
  match cell, total.isExact with
  | .integer n, true =>
      if fitsSigned (total.whole + n) then { total with whole := total.whole + n }
      else { total.inexact with overflowed := true }.addWhole n
  | .integer n, false => total.addWhole n
  | .real x, true => total.inexact.addReal x
  | .real x, false => { total with overflowed := false }.addReal x
  | _, _ => total

/-- Adds a value. Texts and blobs count as the numbers at their fronts, and null
does not count. -/
def add (total : Total) (cell : Cell) : Total :=
  let counted := { total with count := total.count + 1 }
  match cell.toNumber with
  | .null => total
  | .text s => counted.addNumber (.real (Numeral.ofText s).decimal.toFloat)
  | .blob bytes =>
      let text := String.ofList (bytes.map fun byte => Char.ofNat byte.toNat)
      counted.addNumber (.real (Numeral.ofText text).decimal.toFloat)
  | number => counted.addNumber number

def ofCells (cells : List Cell) : Total := cells.foldl add {}

def estimate (total : Total) : Float :=
  if !total.isExact then
    if total.remainder.isFinite then total.sum + total.remainder else total.sum
  else Float.ofInt total.whole

def sum? (total : Total) : Option Cell :=
  if total.count = 0 then some .null
  else if total.isExact then some (.integer total.whole)
  else if total.overflowed then none
  else some (.real total.estimate)

def average (total : Total) : Cell :=
  if total.count = 0 then .null
  else .real (total.estimate / Float.ofNat total.count)

end Total

end TableTalk.Database
