import TableTalk.Catalog.Basic
import TableTalk.Decimal.Extended
import TableTalk.Decimal.Integer
import TableTalk.Decimal.Notation
import TableTalk.Text.Digits

/-!
# Stored values

The values in the cells of a database table. Columns turn values into their own
kind when they are stored, and a value that is compared with a column is turned
into the kind of the column first.

Texts are made of Unicode characters. In a stored text, bytes that are not UTF-8 have
become replacement characters as soon as the text is read. So texts that differ in such
bytes only are one text here, where SQLite tells them apart until it answers.
-/

namespace TableTalk.Database

set_option autoImplicit false

inductive Cell where
  | null
  | integer (n : Int)
  | real (x : Float)
  | text (s : String)
  | blob (bytes : List UInt8)
  deriving Inhabited

/-! ## Numbers as texts -/

def textNotation : Notation where
  leastPower := -3
  greatestPower := 15
  keepsPoint := true
  signsExponent := true
  exponentWidth := 2

def realText (x : Float) : String :=
  if x.isNaN then ""
  else if x.isInf then (if x < 0.0 then "-Inf" else "Inf")
  else if x == 0.0 then "0.0"
  else
    let binary := Binary.ofFloat x
    let decimal := (Extended.ofBinary binary).toDecimal 15
    { decimal with negative := binary.negative }.written textNotation

/-! ## Texts as numbers -/

def isSpace (c : Char) : Bool := c = ' ' || (9 ≤ c.toNat && c.toNat ≤ 13)

structure Numeral where
  decimal : Decimal
  /-- Whether the number has neither a point nor an exponent. -/
  isWhole : Bool
  /-- Whether there is nothing else in the text. -/
  isAll : Bool
  deriving Repr, DecidableEq, Inhabited

/-- The exponent at the front of a text: its value, and what follows it. A mark
without digits is no exponent. One of more than five digits counts as ten thousand,
which is beyond all doubles. -/
def exponentAt (text : List Char) : Int × List Char :=
  match text with
  | mark :: rest =>
      if mark = 'e' || mark = 'E' then
        let (down, unsigned) := match rest with
          | '-' :: digits => (true, digits)
          | '+' :: digits => (false, digits)
          | _ => (false, rest)
        let digits := unsigned.takeWhile Char.isDigit
        if digits.isEmpty then (0, text)
        else
          let written := Text.decimalNumber digits
          let size : Int := if written < 100000 then written else 10000
          (if down then -size else size, unsigned.dropWhile Char.isDigit)
      else (0, text)
  | [] => (0, [])

/-- Reads the number at the front of a text, between blanks. Without digits it is
zero, and then it is not all of the text. -/
def Numeral.ofText (text : String) : Numeral :=
  let start := text.toList.dropWhile isSpace
  let (negative, unsigned) := match start with
    | '-' :: rest => (true, rest)
    | '+' :: rest => (false, rest)
    | _ => (false, start)
  let whole := unsigned.takeWhile Char.isDigit
  let afterWhole := unsigned.dropWhile Char.isDigit
  let (hasPoint, afterPoint) := match afterWhole with
    | '.' :: rest => (true, rest)
    | _ => (false, afterWhole)
  let fraction := if hasPoint then afterPoint.takeWhile Char.isDigit else []
  let afterFraction := if hasPoint then afterPoint.dropWhile Char.isDigit else afterWhole
  let (exponent, rest) := exponentAt afterFraction
  let digits := whole ++ fraction
  { decimal := {
      negative
      significand := Text.decimalNumber digits
      exponent := exponent - fraction.length }
    isWhole := !hasPoint && rest.length = afterFraction.length
    isAll := !digits.isEmpty && (rest.dropWhile isSpace).isEmpty }

def Numeral.toCell (numeral : Numeral) : Cell :=
  let size : Int := numeral.decimal.significand
  let n := if numeral.decimal.negative then -size else size
  if numeral.isWhole && fitsSigned n then .integer n else .real numeral.decimal.toFloat

def numberOfText (text : String) : Cell :=
  let numeral := Numeral.ofText text
  if numeral.isAll then numeral.toCell else .text text

/-! ## Columns -/

inductive Affinity where
  | text
  | numeric
  | real
  deriving Repr, DecidableEq, Inhabited

def Affinity.ofType : Catalog.DataType → Affinity
  | .text => text
  | .real => real
  | .integer | .date | .dateTime => numeric

def wholeOf? (x : Float) : Option Int :=
  if x.isNaN || x.isInf then none
  else
    let binary := Binary.ofFloat x
    let (size, unit) := binary.size
    if size % unit = 0 then
      some (if binary.negative then -(size / unit : Nat) else (size / unit : Nat))
    else none

/-- Reals without a fraction become integers, the two ends of the range excepted. -/
def integerIfWhole : Cell → Cell
  | .real x => match wholeOf? x with
      | some n => if fitsSigned (n - 1) && fitsSigned (n + 1) then .integer n else .real x
      | none => .real x
  | cell => cell

def Cell.toReal : Cell → Cell
  | .integer n => .real (Float.ofInt n)
  | cell => cell

def Cell.toNumber : Cell → Cell
  | .text s => numberOfText s
  | cell => cell

def Cell.toText : Cell → Cell
  | .integer n => .text (toString n)
  | .real x => .text (realText x)
  | cell => cell

def Affinity.store (affinity : Affinity) (cell : Cell) : Cell :=
  match affinity with
  | text => cell.toText
  | numeric => integerIfWhole cell.toNumber
  | real => (integerIfWhole cell.toNumber).toReal

/-! ## Order -/

def compareReal (n : Int) (x : Float) : Ordering :=
  if x.isNaN then .gt
  else if x.isInf then (if x < 0.0 then .gt else .lt)
  else
    let binary := Binary.ofFloat x
    let (size, unit) := binary.size
    compare (n * unit) (if binary.negative then -(size : Int) else size)

def compareBytes : List UInt8 → List UInt8 → Ordering
  | [], [] => .eq
  | [], _ :: _ => .lt
  | _ :: _, [] => .gt
  | a :: as, b :: bs => (compare a.toNat b.toNat).then (compareBytes as bs)

/-- Nothing comes before numbers, numbers before texts, texts before blobs. Texts
are ordered by their characters, which is the order of their UTF-8 bytes. -/
def Cell.compare : Cell → Cell → Ordering
  | .null, .null => .eq
  | .null, _ => .lt
  | _, .null => .gt
  | .integer a, .integer b => Ord.compare a b
  | .integer a, .real y => compareReal a y
  | .real x, .integer b => (compareReal b x).swap
  | .real x, .real y => if x < y then .lt else if y < x then .gt else .eq
  | .integer _, _ => .lt
  | .real _, _ => .lt
  | _, .integer _ => .gt
  | _, .real _ => .gt
  | .text a, .text b => Ord.compare a b
  | .text _, .blob _ => .lt
  | .blob _, .text _ => .gt
  | .blob a, .blob b => compareBytes a b

def Cell.isNull : Cell → Bool
  | .null => true
  | _ => false

/-- Two values as they are compared under an affinity. Texts become numbers for a
numeric one, and numbers that meet a text become texts for a textual one. -/
def Affinity.aligned (affinity : Affinity) (a b : Cell) : Cell × Cell :=
  match affinity with
  | text => match a, b with
      | .text _, _ | _, .text _ => (a.toText, b.toText)
      | _, _ => (a, b)
  | numeric | real => (a.toNumber, b.toNumber)

end TableTalk.Database
