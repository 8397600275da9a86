import TableTalk.Text.Case
import TableTalk.Text.Number

/-!
# Numerals

A word reads as a number if it is written in decimal digits, possibly grouped
by points or commas, or if it is one of a few English number words.
-/

namespace TableTalk.Language

open TableTalk.Text

set_option autoImplicit false

def numberWords : List String := [
  "zero", "one", "two", "three", "four", "five", "six", "seven", "eight", "nine", "ten",
  "eleven", "twelve", "thirteen", "fourteen", "fifteen", "sixteen", "seventeen", "eighteen",
  "nineteen", "twenty", "thirty", "forty", "fifty", "hundred", "thousand", "dozen"]

/-- Groups of digits with one point or comma between them. The flag says
whether a digit has just been read, so that the text may end or a separator may
follow. -/
def isDigitGroups (afterDigit : Bool) : List Char → Bool
  | [] => afterDigit
  | c :: rest =>
      if isDecimalDigit c then isDigitGroups true rest
      else (c = '.' || c = ',') && afterDigit && isDigitGroups false rest

def isNumeral (word : String) : Bool :=
  isDigitGroups false word.toList || numberWords.contains (lower word)

end TableTalk.Language
