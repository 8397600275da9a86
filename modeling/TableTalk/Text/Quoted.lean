import TableTalk.Text.Unprintable

/-!
# Quoted texts

A text between double quotes, fit for one line of output: quotes and
backslashes are escaped, and so is every character that would not show.
-/

namespace TableTalk.Text

set_option autoImplicit false

def hexadecimal (n : Nat) : List Char := Nat.toDigits 16 n

/-- The written form of one character inside the quotes. -/
def quotedChar (c : Char) : List Char :=
  if c = '"' || c = '\\' then ['\\', c]
  else if c = '\n' then ['\\', 'n']
  else if c = '\r' then ['\\', 'r']
  else if c = '\t' then ['\\', 't']
  else if c.toNat = 0 then ['\\', '0']
  else if isUnprintable c then ['\\', 'u', '{'] ++ hexadecimal c.toNat ++ ['}']
  else [c]

def quoted (text : String) : String :=
  String.ofList (['"'] ++ text.toList.flatMap quotedChar ++ ['"'])

def quotedList (texts : List String) : String :=
  "[" ++ ", ".intercalate (texts.map quoted) ++ "]"

end TableTalk.Text
