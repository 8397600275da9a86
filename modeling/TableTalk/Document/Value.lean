/-!
# Document values

What a JSON or TOML document holds. Field lists keep the order of the document
and may name a field twice; what that means is left to the reader of the value.
-/

namespace TableTalk.Document

set_option autoImplicit false

inductive Value where
  | null
  | bool (b : Bool)
  | integer (n : Int)
  /-- A number that is not held as an integer, as it is written. -/
  | decimal (literal : String)
  /-- A date, a time or both, as written. -/
  | moment (literal : String)
  | text (s : String)
  | list (items : List Value)
  | record (fields : List (String × Value))
  /-- A value of correct form without a meaning, such as half of a surrogate
  pair. It may be skipped but not read. -/
  | malformed
  deriving Repr, Inhabited

def Value.texts (texts : List String) : Value := .list (texts.map .text)

def Value.optional {α : Type} (write : α → Value) : Option α → Value
  | none => .null
  | some a => write a

end TableTalk.Document
