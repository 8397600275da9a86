import TableTalk.Database.Cell
import TableTalk.Database.Storage.Bytes
import TableTalk.Text.Utf8

/-!
# Stored rows

The bytes of a row: the kinds of its values, then the values one after another.
-/

namespace TableTalk.Database.Storage

set_option autoImplicit false

def integerWidths : List Nat := [0, 1, 2, 3, 4, 6, 8]

def widthOf (kind : Nat) : Nat :=
  if kind < 7 then integerWidths.getD kind 0
  else if kind = 7 then 8
  else if kind < 12 then 0
  else (kind - 12) / 2

/-- The value of a kind. Zero and one are kinds of their own; from twelve on kinds
tell the length of a blob or a text. -/
def cellAt (row : ByteArray) (position kind : Nat) : Cell :=
  let width := widthOf kind
  if kind = 0 then .null
  else if kind < 7 then .integer (signed (8 * width) (numberAt row position width))
  else if kind = 7 then .real (Float.ofBits (UInt64.ofNat (numberAt row position 8)))
  else if kind = 8 then .integer 0
  else if kind = 9 then .integer 1
  else
    let bytes := (row.extract position (position + width)).toList
    if kind % 2 = 0 then .blob bytes else .text (String.ofList (Text.Utf8.decode bytes))

def kinds (row : ByteArray) (stop : Nat) : Nat → Nat → List Nat
  | 0, _ => []
  | fuel + 1, position =>
      if stop ≤ position then []
      else
        let (kind, next) := varintAt row position
        kind :: kinds row stop fuel next

def cellsFrom (row : ByteArray) : Nat → List Nat → List Cell
  | _, [] => []
  | position, kind :: rest =>
      cellAt row position kind :: cellsFrom row (position + widthOf kind) rest

def cellsOf (row : ByteArray) : List Cell :=
  let (start, first) := varintAt row 0
  -- The kinds end at `start`, and each takes a byte.
  cellsFrom row start (kinds row start start first)

end TableTalk.Database.Storage
