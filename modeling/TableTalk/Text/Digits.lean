/-!
# Digits

Numbers as texts of digits, in bases of up to sixteen.
-/

namespace TableTalk.Text

set_option autoImplicit false

/-- What a digit stands for, with letters in either case. -/
def hexDigit? (c : Char) : Option Nat :=
  if c.isDigit then some (c.toNat - '0'.toNat)
  else if 'a' ≤ c && c ≤ 'f' then some (c.toNat - 'a'.toNat + 10)
  else if 'A' ≤ c && c ≤ 'F' then some (c.toNat - 'A'.toNat + 10)
  else none

def digit? (base : Nat) (c : Char) : Option Nat :=
  (hexDigit? c).filter fun value => value < base

def number? (base : Nat) (digits : List Char) : Option Nat := do
  let values ← digits.mapM (digit? base)
  return values.foldl (fun n value => base * n + value) 0

def decimalNumber (digits : List Char) : Nat :=
  digits.foldl (fun n c => 10 * n + (c.toNat - '0'.toNat)) 0

end TableTalk.Text
