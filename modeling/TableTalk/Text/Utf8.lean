/-!
# Texts in UTF-8

The characters that bytes spell. Bytes that spell none show as a replacement: one
for each longest row of bytes that could have been the start of a character.
-/

namespace TableTalk.Text.Utf8

set_option autoImplicit false

structure Pending where
  /-- The bits of the bytes so far. -/
  point : Nat
  /-- How many bytes are still to come. -/
  owed : Nat
  /-- The least byte that may come next. -/
  least : Nat := 0x80
  /-- The greatest byte that may come next. -/
  greatest : Nat := 0xBF
  deriving Repr, DecidableEq, Inhabited

def replacement : Char := Char.ofNat 0xFFFD

/-- What the first byte of a character shows, and what is pending after it. The
bounds of the second byte keep out characters that have a shorter spelling, halves
of surrogate pairs and points beyond the last one. -/
def first (byte : Nat) : List Char × Option Pending :=
  if byte < 0x80 then ([Char.ofNat byte], none)
  else if byte < 0xC2 || 0xF4 < byte then ([replacement], none)
  else if byte < 0xE0 then ([], some { point := byte - 0xC0, owed := 1 })
  else if byte < 0xF0 then
    ([], some {
      point := byte - 0xE0
      owed := 2
      least := if byte = 0xE0 then 0xA0 else 0x80
      greatest := if byte = 0xED then 0x9F else 0xBF })
  else
    ([], some {
      point := byte - 0xF0
      owed := 3
      least := if byte = 0xF0 then 0x90 else 0x80
      greatest := if byte = 0xF4 then 0x8F else 0xBF })

/-- What the next byte shows, and what is pending after it. A byte that does not
belong to the pending character starts anew. -/
def Pending.next (pending : Pending) (byte : Nat) : List Char × Option Pending :=
  if pending.least ≤ byte && byte ≤ pending.greatest then
    let point := 64 * pending.point + (byte - 0x80)
    if pending.owed = 1 then ([Char.ofNat point], none)
    else ([], some { point, owed := pending.owed - 1 })
  else
    let (shown, after) := first byte
    (replacement :: shown, after)

def decodeFrom : Option Pending → List UInt8 → List Char
  | none, [] => []
  | some _, [] => [replacement]
  | pending, byte :: rest =>
      let (shown, after) := match pending with
        | none => first byte.toNat
        | some pending => pending.next byte.toNat
      shown ++ decodeFrom after rest

def decode (bytes : List UInt8) : List Char := decodeFrom none bytes

end TableTalk.Text.Utf8
