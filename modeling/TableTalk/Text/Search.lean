/-!
# Searching texts

Substring search, by characters.
-/

namespace TableTalk.Text

set_option autoImplicit false

def occursIn (needle : List Char) : List Char → Bool
  | [] => needle.isEmpty
  | c :: rest => needle.isPrefixOf (c :: rest) || occursIn needle rest

def mentions (text needle : String) : Bool := occursIn needle.toList text.toList

def utf8Length (text : List Char) : Nat := text.foldr (fun c size => c.utf8Size + size) 0

/-- The characters whose first bytes lie from `start` up to, but not at, `stop`. -/
def byteSlice (start stop : Nat) : List Char → List Char
  | [] => []
  | c :: rest =>
      if stop = 0 then []
      else (if start = 0 then [c] else []) ++
        byteSlice (start - c.utf8Size) (stop - c.utf8Size) rest

end TableTalk.Text
