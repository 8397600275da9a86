import TableTalk.Text.Letter
import TableTalk.Text.Number
import TableTalk.Text.Search

/-!
# Words of a text

A word is a maximal run of letters and numbers in which single joiners (`-`,
an apostrophe, `.` or `,`) may stand between two such characters. Offsets count
UTF-8 bytes.
-/

namespace TableTalk.Language

open TableTalk.Text

set_option autoImplicit false

def isWordChar (c : Char) : Bool := isLetter c || isNumber c

def isJoiner (c : Char) : Bool := c = '-' || c = '\'' || c = '.' || c = ','

def opensWord : List Char → Bool
  | [] => false
  | c :: _ => isWordChar c

/-- The rest of the word that a text continues; a joiner belongs to it only if
a letter or number follows. -/
def wordPart : List Char → List Char
  | [] => []
  | c :: rest =>
      if isWordChar c || (isJoiner c && opensWord rest) then c :: wordPart rest else []

/-- The words of a text that starts at `offset`, each with its own offset. -/
def wordsFrom (offset : Nat) : List Char → List (Nat × List Char)
  | [] => []
  | c :: rest =>
      if isWordChar c then
        let word := c :: wordPart rest
        (offset, word) ::
          wordsFrom (offset + utf8Length word) (rest.drop (wordPart rest).length)
      else wordsFrom (offset + c.utf8Size) rest
termination_by text => text.length
decreasing_by
  · simp only [List.length_drop, List.length_cons]
    omega
  · simp

end TableTalk.Language
