import TableTalk.Document.Reading
import TableTalk.Text.Digits

/-!
# Reading JSON

Strict JSON: no comments, no trailing commas, no raw control characters. A text
with half of a surrogate pair, and an object with such a key, have the right form
but no meaning. Whole numbers of up to 64 bits are integers, all others decimals.
-/

namespace TableTalk.Document.Json

open TableTalk.Text

set_option autoImplicit false

/-- In JSON a constant may stand beside `null`, and lists have to fit. -/
def conventions : Conventions where
  isUnit
    | .null => true
    | _ => false
  allowsExcess := false

def isBlank (c : Char) : Bool := c = ' ' || c = '\t' || c = '\n' || c = '\r'

def skipBlanks (text : List Char) : List Char := text.dropWhile isBlank

def escaped? : Char → Option Char
  | '"' => some '"'
  | '\\' => some '\\'
  | '/' => some '/'
  | 'b' => some (Char.ofNat 8)
  | 'f' => some (Char.ofNat 12)
  | 'n' => some '\n'
  | 'r' => some '\r'
  | 't' => some '\t'
  | _ => none

/-- The code units of a text after its opening quote, and what follows it. Only
escapes give halves of surrogate pairs. -/
def textUnits : List Char → Option (List Nat × List Char)
  | [] => none
  | '"' :: rest => some ([], rest)
  | '\\' :: 'u' :: a :: b :: c :: d :: rest => do
      let unit ← number? 16 [a, b, c, d]
      let (units, after) ← textUnits rest
      return (unit :: units, after)
  | '\\' :: letter :: rest => do
      let c ← escaped? letter
      let (units, after) ← textUnits rest
      return (c.toNat :: units, after)
  | c :: rest => do
      guard (0x20 ≤ c.toNat)
      let (units, after) ← textUnits rest
      return (c.toNat :: units, after)

def isHighSurrogate (unit : Nat) : Bool := 0xD800 ≤ unit && unit < 0xDC00

def isLowSurrogate (unit : Nat) : Bool := 0xDC00 ≤ unit && unit < 0xE000

/-- Joins the halves of surrogate pairs; a half by itself has no character. -/
def joinUnits : List Nat → Option (List Char)
  | [] => some []
  | [unit] => if isHighSurrogate unit || isLowSurrogate unit then none else some [Char.ofNat unit]
  | unit :: next :: rest =>
      if isHighSurrogate unit then
        if isLowSurrogate next then do
          let others ← joinUnits rest
          return Char.ofNat (0x10000 + (unit - 0xD800) * 0x400 + (next - 0xDC00)) :: others
        else none
      else if isLowSurrogate unit then none
      else do
        let others ← joinUnits (next :: rest)
        return Char.ofNat unit :: others

def someDigits (text : List Char) : Option (List Char × List Char) :=
  let digits := text.takeWhile Char.isDigit
  if digits.isEmpty then none else some (digits, text.dropWhile Char.isDigit)

def wholePart : List Char → Option (List Char × List Char)
  | '0' :: rest => some (['0'], rest)
  | text => someDigits text

def fractionPart : List Char → Option (List Char × List Char)
  | '.' :: rest => do
      let (digits, after) ← someDigits rest
      return ('.' :: digits, after)
  | text => some ([], text)

def exponentDigits (mark : List Char) (text : List Char) : Option (List Char × List Char) := do
  let (digits, after) ← someDigits text
  return (mark ++ digits, after)

def exponentPart : List Char → Option (List Char × List Char)
  | c :: rest =>
      if c = 'e' || c = 'E' then
        match rest with
        | '+' :: after => exponentDigits [c, '+'] after
        | '-' :: after => exponentDigits [c, '-'] after
        | _ => exponentDigits [c] rest
      else some ([], c :: rest)
  | [] => some ([], [])

/-- A whole number within 64 bits, with or without sign, is an integer. A
negative zero is none. -/
def numberValue (negative : Bool) (whole rest : List Char) : Value :=
  let literal := String.ofList ((if negative then ['-'] else []) ++ whole ++ rest)
  let size := decimalNumber whole
  if !rest.isEmpty then .decimal literal
  else if negative then
    if 0 < size && fitsSigned (-size) then .integer (-size) else .decimal literal
  else if fitsUnsigned size then .integer size else .decimal literal

def number (text : List Char) : Option (Value × List Char) := do
  let (negative, unsigned) := match text with
    | '-' :: rest => (true, rest)
    | _ => (false, text)
  let (whole, afterWhole) ← wholePart unsigned
  let (fraction, afterFraction) ← fractionPart afterWhole
  let (exponent, after) ← exponentPart afterFraction
  return (numberValue negative whole (fraction ++ exponent), after)

def textValue (units : List Nat) : Value :=
  match joinUnits units with
  | some chars => .text (String.ofList chars)
  | none => .malformed

/-- An object is without meaning as soon as one of its keys is. -/
def objectValue (entries : List (List Nat × Value)) : Value :=
  match entries.mapM fun entry => (joinUnits entry.1).map fun key =>
      (String.ofList key, entry.2) with
  | some fields => .record fields
  | none => .malformed

mutual

def value : Nat → List Char → Option (Value × List Char)
  | 0, _ => none
  | fuel + 1, text =>
      match skipBlanks text with
      | '"' :: rest => do
          let (units, after) ← textUnits rest
          return (textValue units, after)
      | '[' :: rest =>
          match skipBlanks rest with
          | ']' :: after => some (.list [], after)
          | _ => do
              let (items, after) ← items fuel rest
              return (.list items, after)
      | '{' :: rest =>
          match skipBlanks rest with
          | '}' :: after => some (.record [], after)
          | _ => do
              let (entries, after) ← entries fuel rest
              return (objectValue entries, after)
      | 'n' :: 'u' :: 'l' :: 'l' :: after => some (.null, after)
      | 't' :: 'r' :: 'u' :: 'e' :: after => some (.bool true, after)
      | 'f' :: 'a' :: 'l' :: 's' :: 'e' :: after => some (.bool false, after)
      | other => number other

def items : Nat → List Char → Option (List Value × List Char)
  | 0, _ => none
  | fuel + 1, text => do
      let (item, afterItem) ← value fuel text
      match skipBlanks afterItem with
      | ',' :: rest => do
          let (others, after) ← items fuel rest
          return (item :: others, after)
      | ']' :: after => some ([item], after)
      | _ => none

def entries : Nat → List Char → Option (List (List Nat × Value) × List Char)
  | 0, _ => none
  | fuel + 1, text =>
      match skipBlanks text with
      | '"' :: afterQuote => do
          let (key, afterKey) ← textUnits afterQuote
          match skipBlanks afterKey with
          | ':' :: afterColon => do
              let (item, afterItem) ← value fuel afterColon
              match skipBlanks afterItem with
              | ',' :: rest => do
                  let (others, after) ← entries fuel rest
                  return ((key, item) :: others, after)
              | '}' :: after => some ([(key, item)], after)
              | _ => none
          | _ => none
      | _ => none

end

/-- The value of a whole document. Each step of the reader but one in two
consumes a character, which is why this fuel is enough. -/
def parse? (document : String) : Option Value := do
  let text := document.toList
  let (root, after) ← value (2 * text.length + 2) text
  guard (skipBlanks after).isEmpty
  return root

end TableTalk.Document.Json
