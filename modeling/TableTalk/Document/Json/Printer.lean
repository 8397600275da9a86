import TableTalk.Document.Value
import TableTalk.Text.Quoted

/-!
# Writing JSON

Two layouts of the same values: on one line without blanks, and indented by two
blanks for each level.
-/

namespace TableTalk.Document.Json

set_option autoImplicit false

def writtenChar (c : Char) : List Char :=
  if c = '"' || c = '\\' then ['\\', c]
  else if c.toNat = 8 then ['\\', 'b']
  else if c = '\t' then ['\\', 't']
  else if c = '\n' then ['\\', 'n']
  else if c.toNat = 12 then ['\\', 'f']
  else if c = '\r' then ['\\', 'r']
  else if c.toNat < 0x20 then
    ['\\', 'u', '0', '0'] ++ (if c.toNat < 0x10 then ['0'] else []) ++
      Text.hexadecimal c.toNat
  else [c]

def writtenText (text : String) : String :=
  String.ofList (['"'] ++ text.toList.flatMap writtenChar ++ ['"'])

/-- Values that are written in one piece. What has no meaning is written as
`null`. -/
def writtenScalar : Value → String
  | .bool true => "true"
  | .bool false => "false"
  | .integer n => toString n
  | .decimal literal => literal
  | .moment literal => writtenText literal
  | .text s => writtenText s
  | _ => "null"

def openBrace : String := "\x7b"

def closeBrace : String := "\x7d"

mutual

def compact : Value → String
  | .list items => "[" ++ ",".intercalate (compactItems items) ++ "]"
  | .record fields => openBrace ++ ",".intercalate (compactFields fields) ++ closeBrace
  | other => writtenScalar other

def compactItems : List Value → List String
  | [] => []
  | item :: rest => compact item :: compactItems rest

def compactFields : List (String × Value) → List String
  | [] => []
  | (key, value) :: rest => (writtenText key ++ ":" ++ compact value) :: compactFields rest

end

def lineBreak (level : Nat) : String := "\n" ++ String.ofList (List.replicate (2 * level) ' ')

/-- Parts between brackets, each on a line of its own. -/
def block (level : Nat) (opening closing : String) (parts : List String) : String :=
  if parts.isEmpty then opening ++ closing
  else opening ++ lineBreak (level + 1) ++ ("," ++ lineBreak (level + 1)).intercalate parts ++
    lineBreak level ++ closing

mutual

def indented (level : Nat) : Value → String
  | .list items => block level "[" "]" (indentedItems (level + 1) items)
  | .record fields => block level openBrace closeBrace (indentedFields (level + 1) fields)
  | other => writtenScalar other

def indentedItems (level : Nat) : List Value → List String
  | [] => []
  | item :: rest => indented level item :: indentedItems level rest

def indentedFields (level : Nat) : List (String × Value) → List String
  | [] => []
  | (key, value) :: rest =>
      (writtenText key ++ ": " ++ indented level value) :: indentedFields level rest

end

def pretty (value : Value) : String := indented 0 value

end TableTalk.Document.Json
