/-!
# Numbers in files

Numbers are stored with their most significant byte first.
-/

namespace TableTalk.Database.Storage

set_option autoImplicit false

def byteAt (file : ByteArray) (position : Nat) : Nat := (file[position]?.getD 0).toNat

def numberAt (file : ByteArray) (position width : Nat) : Nat :=
  (List.range width).foldl (fun n offset => 256 * n + byteAt file (position + offset)) 0

def signed (bits n : Nat) : Int :=
  if n < Nat.pow 2 (bits - 1) then n else (n : Int) - Nat.pow 2 bits

/-- The rest of a number of one to nine bytes, and where it ends. Each byte gives
seven bits and tells whether another one follows; the ninth gives all eight. -/
def varintFrom (file : ByteArray) : Nat → Nat → Nat → Nat × Nat
  | 0, sum, position => (256 * sum + byteAt file position, position + 1)
  | left + 1, sum, position =>
      let byte := byteAt file position
      if byte < 128 then (128 * sum + byte, position + 1)
      else varintFrom file left (128 * sum + (byte - 128)) (position + 1)

def varintAt (file : ByteArray) (position : Nat) : Nat × Nat := varintFrom file 8 0 position

end TableTalk.Database.Storage
