import TableTalk.Text.Digits

/-!
# Quoted texts in TOML

Texts stand between double quotes, with escapes, or between single quotes, as
they are. Three quotes on each side enclose texts of several lines. A line break
stays as it is written; only the one right after the opening quotes is left out.
-/

namespace TableTalk.Document.Toml

open TableTalk.Text

set_option autoImplicit false

def singleQuote : Char := Char.ofNat 39

/-- Whether a character may stand for itself in a text or a comment. -/
def isPlain (c : Char) : Bool := c = '\t' || (0x20 ≤ c.toNat && c.toNat ≠ 0x7F)

def isBlank (c : Char) : Bool := c = ' ' || c = '\t'

def lineBreak? : List Char → Option (List Char)
  | '\n' :: rest => some rest
  | '\r' :: '\n' :: rest => some rest
  | _ => none

def escaped? : Char → Option Char
  | '"' => some '"'
  | '\\' => some '\\'
  | 'b' => some (Char.ofNat 8)
  | 'e' => some (Char.ofNat 27)
  | 'f' => some (Char.ofNat 12)
  | 'n' => some '\n'
  | 'r' => some '\r'
  | 't' => some '\t'
  | _ => none

def codePoint? (digits : List Char) : Option Char := do
  let point ← number? 16 digits
  guard (point < 0xD800 || 0xE000 ≤ point && point < 0x110000)
  return Char.ofNat point

abbrev TextAndRest := List Char × List Char

def before (c : Char) (read : Option TextAndRest) : Option TextAndRest :=
  read.map fun found => (c :: found.1, found.2)

def basicText : List Char → Option TextAndRest
  | [] => none
  | '"' :: rest => some ([], rest)
  | '\\' :: 'x' :: a :: b :: rest => do
      let char ← codePoint? [a, b]
      before char (basicText rest)
  | '\\' :: 'u' :: a :: b :: c :: d :: rest => do
      let char ← codePoint? [a, b, c, d]
      before char (basicText rest)
  | '\\' :: 'U' :: a :: b :: c :: d :: e :: f :: g :: h :: rest => do
      let char ← codePoint? [a, b, c, d, e, f, g, h]
      before char (basicText rest)
  | '\\' :: letter :: rest => do
      let char ← escaped? letter
      before char (basicText rest)
  | c :: rest => if isPlain c then before c (basicText rest) else none

def literalText : List Char → Option TextAndRest
  | [] => none
  | c :: rest =>
      if c = singleQuote then some ([], rest)
      else if isPlain c then before c (literalText rest)
      else none

/-- The end of a text of several lines at a row of quotes: the last three close
it, and up to two before them belong to it. -/
def closing? (quote : Char) (text : List Char) : Option TextAndRest :=
  let row := text.takeWhile (· = quote)
  if 3 ≤ row.length && row.length ≤ 5 then
    some (row.drop 3, text.dropWhile (· = quote))
  else none

def afterSpace : List Char → List Char
  | [] => []
  | '\r' :: '\n' :: rest => afterSpace rest
  | c :: rest => if isBlank c || c = '\n' then afterSpace rest else c :: rest

def afterContinuation? (text : List Char) : Option (List Char) :=
  (lineBreak? (text.dropWhile isBlank)).map afterSpace

/-- Whether a character stands for itself in a text of several lines. A carriage
return has to be part of a line break. -/
def isInLines (c : Char) (rest : List Char) : Bool :=
  isPlain c || c = '\n' || (c = '\r' && rest.head? = some '\n')

def basicLines : Nat → List Char → Option TextAndRest
  | 0, _ => none
  | _, [] => none
  | fuel + 1, '"' :: rest =>
      match closing? '"' ('"' :: rest) with
      | some found => some found
      | none => if rest.take 2 = ['"', '"'] then none else before '"' (basicLines fuel rest)
  | fuel + 1, '\\' :: 'x' :: a :: b :: rest => do
      let char ← codePoint? [a, b]
      before char (basicLines fuel rest)
  | fuel + 1, '\\' :: 'u' :: a :: b :: c :: d :: rest => do
      let char ← codePoint? [a, b, c, d]
      before char (basicLines fuel rest)
  | fuel + 1, '\\' :: 'U' :: a :: b :: c :: d :: e :: f :: g :: h :: rest => do
      let char ← codePoint? [a, b, c, d, e, f, g, h]
      before char (basicLines fuel rest)
  | fuel + 1, '\\' :: rest =>
      match afterContinuation? rest with
      | some next => basicLines fuel next
      | none => do
          let char ← rest.head?.bind escaped?
          before char (basicLines fuel rest.tail)
  | fuel + 1, c :: rest =>
      if isInLines c rest then before c (basicLines fuel rest) else none

def literalLines : List Char → Option TextAndRest
  | [] => none
  | c :: rest =>
      if c = singleQuote then
        match closing? c (c :: rest) with
        | some found => some found
        | none => if rest.take 2 = [c, c] then none else before c (literalLines rest)
      else if isInLines c rest then before c (literalLines rest)
      else none

def afterOpening (text : List Char) : List Char := (lineBreak? text).getD text

/-- A text of one line at the front, if a quote is there. -/
def lineText? : List Char → Option (Option TextAndRest)
  | [] => none
  | c :: rest =>
      if c = '"' then some (basicText rest)
      else if c = singleQuote then some (literalText rest)
      else none

def quotedText? (text : List Char) : Option (Option TextAndRest) :=
  if text.take 3 = ['"', '"', '"'] then
    some (basicLines text.length (afterOpening (text.drop 3)))
  else if text.take 3 = List.replicate 3 singleQuote then
    some (literalLines (afterOpening (text.drop 3)))
  else lineText? text

end TableTalk.Document.Toml
