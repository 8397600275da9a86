import TableTalk.Text.Cased
import TableTalk.Text.CaseMapping

/-!
# Lower and upper case of whole texts

Lower-casing maps each character to its full lower case form. It looks at the
context in one place only: a capital sigma that ends a word becomes a final
sigma. Upper-casing has no context.
-/

namespace TableTalk.Text

set_option autoImplicit false

def lowerChar (c : Char) : List Char :=
  if c = 'İ' then ['i', Char.ofNat 0x307]
  else match shiftedBy lowerRuns c.toNat with
    | some point => [Char.ofNat point]
    | none => [c]

def reachesCased (text : List Char) : Bool :=
  match text.dropWhile isCaseIgnorable with
  | [] => false
  | c :: _ => isCased c

/-- A sigma ends a word if a cased character stands before it and none follows. -/
def endsWord (reversedBefore after : List Char) : Bool :=
  reachesCased reversedBefore && !reachesCased after

/-- The first argument holds the characters already read, the latest first. -/
def lowerAfter (reversedBefore : List Char) : List Char → List Char
  | [] => []
  | c :: rest =>
      (if c = 'Σ' then [if endsWord reversedBefore rest then 'ς' else 'σ'] else lowerChar c) ++
        lowerAfter (c :: reversedBefore) rest

def lowerChars (text : List Char) : List Char := lowerAfter [] text

def lower (text : String) : String := String.ofList (lowerChars text.toList)

def upperChar (c : Char) : List Char :=
  match upperExpansions.find? fun entry => entry.1 == c.toNat with
  | some entry => entry.2.map Char.ofNat
  | none => match shiftedBy upperRuns c.toNat with
    | some point => [Char.ofNat point]
    | none => [c]

def upper (text : String) : String := String.ofList (text.toList.flatMap upperChar)

/-- Equality up to the case of the letters `a` to `z`. -/
def equalAsciiCase (a b : String) : Bool :=
  a.toList.map Char.toLower == b.toList.map Char.toLower

end TableTalk.Text
