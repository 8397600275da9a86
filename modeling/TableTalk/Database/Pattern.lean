import TableTalk.Database.Cell

/-!
# Patterns

The patterns of LIKE: a percent sign stands for any text, an underscore for any
one character, and every other character for itself, where the letters `a` to `z`
stand for both of their cases. There is no way to take a wildcard literally.

This is what the documentation of LIKE says. Two things that SQLite does beyond it are
left out: it reads the points U+FFFE and U+FFFF as U+FFFD, and it refuses patterns of
more than 50000 bytes.
-/

namespace TableTalk.Database

set_option autoImplicit false

def sameLetter (a b : Char) : Bool := a.toLower = b.toLower

def fromHereOn : List Bool → List Bool
  | [] => []
  | answer :: later =>
      let rest := fromHereOn later
      (answer || rest.head?.getD false) :: rest

/-- Whether a pattern matches the end of a text, for each of the places where an end
may start. The first place is that of the whole text, the last one is behind it. -/
def matchesAt : List Char → List Char → List Bool
  | [], text => text.map (fun _ => false) ++ [true]
  | c :: pattern, text =>
      let answers := matchesAt pattern text
      if c = '%' then fromHereOn answers
      else
        let fits (d : Char) : Bool := c = '_' || sameLetter c d
        List.zipWith (fun d answer => fits d && answer) text answers.tail ++ [false]

def matchesPattern (pattern text : List Char) : Bool :=
  (matchesAt pattern text).head?.getD false

/-- A code point that may not occur in a text shows as a replacement; U+FFFE and U+FFFF
may occur. -/
def shownPoint (point : Nat) : Char :=
  if point < 0x80 || 0xD800 ≤ point && point < 0xE000 || 0x110000 ≤ point then
    Char.ofNat 0xFFFD
  else Char.ofNat point

def leadingBits (byte : Nat) : Nat :=
  if byte < 0xE0 then byte - 0xC0
  else if byte < 0xF0 then byte - 0xE0
  else if byte < 0xF8 then byte - 0xF0
  else if byte < 0xFC then byte - 0xF8
  else if byte < 0xFE then byte - 0xFC
  else 0

def blobChars : Option Nat → List UInt8 → List Char
  | point, [] => (point.map shownPoint).toList
  | some point, byte :: rest =>
      -- A leading byte takes all the continuation bytes after it, however many it announces.
      if 0x80 ≤ byte.toNat && byte.toNat < 0xC0 then
        blobChars (some (64 * point + (byte.toNat - 0x80))) rest
      else if 0xC0 ≤ byte.toNat then
        shownPoint point :: blobChars (some (leadingBits byte.toNat)) rest
      else shownPoint point :: Char.ofNat byte.toNat :: blobChars none rest
  | none, byte :: rest =>
      if 0xC0 ≤ byte.toNat then blobChars (some (leadingBits byte.toNat)) rest
      else Char.ofNat byte.toNat :: blobChars none rest

/-- The characters that a pattern sees of a value, up to the first null character. Those of
a text stand for themselves, U+FFFE and U+FFFF as well. -/
def Cell.chars? (cell : Cell) : Option (List Char) :=
  let shown := match cell.toText with
    | .text s => some s.toList
    | .blob bytes => some (blobChars none bytes)
    | _ => none
  shown.map fun chars => chars.takeWhile fun c => c.toNat ≠ 0

/-- Whether a value is like a pattern, of any length. Nothing is like nothing. -/
def Cell.like? (cell pattern : Cell) : Option Bool :=
  match cell.chars?, pattern.chars? with
  | some chars, some pattern => some (matchesPattern pattern chars)
  | _, _ => none

end TableTalk.Database
