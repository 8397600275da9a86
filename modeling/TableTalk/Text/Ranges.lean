/-!
# Code point ranges

A property of characters is held as a list of inclusive code point ranges in
increasing order.
-/

namespace TableTalk.Text

set_option autoImplicit false

/-- Inclusive ranges of code points, in increasing order and disjoint. -/
abbrev Ranges := List (Nat × Nat)

def Ranges.contains : Ranges → Nat → Bool
  | [], _ => false
  | (low, high) :: rest, point =>
      if point < low then false
      else if point ≤ high then true
      else Ranges.contains rest point

def Ranges.has (ranges : Ranges) (c : Char) : Bool := ranges.contains c.toNat

end TableTalk.Text
