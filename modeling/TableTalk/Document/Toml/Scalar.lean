import TableTalk.Decimal.Basic
import TableTalk.Document.Value
import TableTalk.Text.Digits

/-!
# Plain values in TOML

Truth values, numbers, dates and times stand in a document without quotes. Each
kind has its own form, so that a word has one meaning at most.
-/

namespace TableTalk.Document.Toml

open TableTalk.Text

set_option autoImplicit false

def truth? (word : List Char) : Option Value :=
  if word = "true".toList then some (.bool true)
  else if word = "false".toList then some (.bool false)
  else none

/-! ## Numbers -/

/-- The digits of a number, which single underscores may set off in groups. -/
def ungrouped (isDigit : Char → Bool) : List Char → Option (List Char)
  | [] => none
  | [c] => if isDigit c then some [c] else none
  | c :: '_' :: rest => if isDigit c then (ungrouped isDigit rest).map (c :: ·) else none
  | c :: rest => if isDigit c then (ungrouped isDigit rest).map (c :: ·) else none

def wholeDigits? (word : List Char) : Option (List Char) := do
  let digits ← ungrouped Char.isDigit word
  guard (digits.length = 1 || digits.head? ≠ some '0')
  return digits

def signed : List Char → Bool × List Char
  | '-' :: rest => (true, rest)
  | '+' :: rest => (false, rest)
  | word => (false, word)

/-- Numbers in another base than ten have no sign. -/
def inBase? (base : Nat) (word : List Char) : Option Int := do
  let digits ← ungrouped (fun c => (digit? base c).isSome) word
  return ← number? base digits

def wholeNumber? (word : List Char) : Option Int := do
  let (negative, rest) := signed word
  let size := decimalNumber (← wholeDigits? rest)
  return if negative then -size else size

/-- Whole numbers have up to 128 bits, with or without sign. -/
def integer? (word : List Char) : Option Value := do
  let n ← match word with
    | '0' :: 'x' :: digits => inBase? 16 digits
    | '0' :: 'o' :: digits => inBase? 8 digits
    | '0' :: 'b' :: digits => inBase? 2 digits
    | _ => wholeNumber? word
  guard (-(Nat.pow 2 127 : Int) ≤ n ∧ n < (Nat.pow 2 128 : Int))
  return .integer n

def splitAt (isMark : Char → Bool) (word : List Char) : List Char × Option (List Char) :=
  match word.dropWhile fun c => !isMark c with
  | [] => (word, none)
  | _ :: rest => (word.takeWhile fun c => !isMark c, some rest)

def decimal? (word : List Char) : Option Decimal := do
  let (negative, unsigned) := signed word
  let (coefficient, power) := splitAt (fun c => c = 'e' || c = 'E') unsigned
  let (whole, fraction) := splitAt (· = '.') coefficient
  guard (power.isSome || fraction.isSome)
  let wholeDigits ← wholeDigits? whole
  let fractionDigits ← match fraction with
    | some digits => ungrouped Char.isDigit digits
    | none => some []
  let shift : Int ← match power with
    | some word =>
        let (down, digits) := signed word
        (ungrouped Char.isDigit digits).map fun digits =>
          if down then -(decimalNumber digits : Int) else decimalNumber digits
    | none => some 0
  return {
    negative
    significand := decimalNumber (wholeDigits ++ fractionDigits)
    exponent := shift - fractionDigits.length }

/-- Infinity and what is not a number have names. A decimal must not be too large
for a double. -/
def real? (word : List Char) : Option Value :=
  if [ "inf".toList, "nan".toList ].contains (signed word).2 then
    some (.decimal (String.ofList word))
  else do
    let decimal ← decimal? word
    guard decimal.fitsDouble
    return .decimal (String.ofList word)

/-! ## Dates and times -/

def fixedNumber? (width : Nat) (text : List Char) : Option (Nat × List Char) :=
  let digits := text.take width
  if digits.length = width && digits.all Char.isDigit then
    some (decimalNumber digits, text.drop width)
  else none

def after? (c : Char) : List Char → Option (List Char)
  | [] => none
  | d :: rest => if d = c then some rest else none

def isLeapYear (year : Nat) : Bool :=
  year % 4 = 0 && (year % 100 ≠ 0 || year % 400 = 0)

def daysIn (year month : Nat) : Nat :=
  if month = 2 then (if isLeapYear year then 29 else 28)
  else if [4, 6, 9, 11].contains month then 30
  else 31

def afterDate? (text : List Char) : Option (List Char) := do
  let (year, rest) ← fixedNumber? 4 text
  let (month, rest) ← fixedNumber? 2 (← after? '-' rest)
  let (day, rest) ← fixedNumber? 2 (← after? '-' rest)
  guard (1 ≤ month && month ≤ 12 && 1 ≤ day && day ≤ daysIn year month)
  return rest

/-- What follows the seconds at the front of a text. Fractions of them may be
written, and a minute may end with a leap second. -/
def afterSeconds? (text : List Char) : Option (List Char) := do
  let (second, rest) ← fixedNumber? 2 text
  guard (second ≤ 60)
  match rest with
  | '.' :: fraction => do
      guard (fraction.head?.any Char.isDigit)
      return fraction.dropWhile Char.isDigit
  | _ => return rest

def afterTime? (text : List Char) : Option (List Char) := do
  let (hour, rest) ← fixedNumber? 2 text
  let (minute, rest) ← fixedNumber? 2 (← after? ':' rest)
  guard (hour ≤ 23 && minute ≤ 59)
  match rest with
  | ':' :: seconds => afterSeconds? seconds
  | _ => return rest

def isOffset : List Char → Bool
  | [] => true
  | [c] => c = 'Z' || c = 'z'
  | sign :: rest => (sign = '+' || sign = '-') && (do
      let (hours, rest) ← fixedNumber? 2 rest
      let (minutes, rest) ← fixedNumber? 2 (← after? ':' rest)
      return rest.isEmpty && hours ≤ 23 && minutes ≤ 59 : Option Bool) = some true

def isMoment (word : List Char) : Bool :=
  match afterDate? word with
  | some [] => true
  | some (mark :: time) =>
      (mark = 'T' || mark = 't' || mark = ' ') && (afterTime? time).any isOffset
  | none => (afterTime? word).any List.isEmpty

def moment? (word : List Char) : Option Value :=
  if isMoment word then some (.moment (String.ofList word)) else none

/-! ## All kinds -/

def scalar? (word : List Char) : Option Value :=
  truth? word <|> integer? word <|> real? word <|> moment? word

def isScalarChar (c : Char) : Bool :=
  c.isAlphanum || c = '_' || c = '+' || c = '-' || c = '.' || c = ':'

/-- A plain value at the front, and what follows it. A date may be followed by a
blank and a time. -/
def plainValue? (text : List Char) : Option (Value × List Char) := do
  let word := text.takeWhile isScalarChar
  let rest := text.dropWhile isScalarChar
  let (whole, after) := match rest with
    | ' ' :: c :: _ =>
        if c.isDigit && afterDate? word = some [] then
          (word ++ ' ' :: rest.tail.takeWhile isScalarChar, rest.tail.dropWhile isScalarChar)
        else (word, rest)
    | _ => (word, rest)
  return (← scalar? whole, after)

end TableTalk.Document.Toml
