import TableTalk.Document.Reading
import TableTalk.Document.Toml.Scalar
import TableTalk.Document.Toml.Text
import TableTalk.Document.Toml.Tree

/-!
# Reading TOML

TOML 1.1. A document is a row of lines: headers, assignments, comments. Arrays and
inline tables may go over several lines. Values nest up to 80 deep, and keys have up
to 80 parts.
-/

namespace TableTalk.Document.Toml

set_option autoImplicit false

/-- In TOML a constant may stand beside something empty, and lists may be longer
than the fields that they give. -/
def conventions : Conventions where
  isUnit
    | .list items => items.isEmpty
    | .record fields => fields.isEmpty
    | _ => false
  allowsExcess := true

def skipBlanks (text : List Char) : List Char := text.dropWhile isBlank

def skipComment : List Char → List Char
  | '#' :: rest => rest.dropWhile isPlain
  | text => text

/-- The next line, if the rest of this one is empty or a comment. -/
def endOfLine? (text : List Char) : Option (List Char) :=
  match skipComment (skipBlanks text) with
  | [] => some []
  | rest => lineBreak? rest

/-- Skips blanks, comments and line breaks, at first the rest of a comment if the text
starts inside one. -/
def skipSpaceFrom : Bool → List Char → List Char
  | _, [] => []
  | _, '\r' :: '\n' :: rest => skipSpaceFrom false rest
  | isComment, c :: rest =>
      if c = '\n' then skipSpaceFrom false rest
      else if isComment && isPlain c then skipSpaceFrom true rest
      else if !isComment && isBlank c then skipSpaceFrom false rest
      else if !isComment && c = '#' then skipSpaceFrom true rest
      else c :: rest

def skipSpace (text : List Char) : List Char := skipSpaceFrom false text

/-! ## Keys -/

def isBareChar (c : Char) : Bool := c.isAlphanum || c = '_' || c = '-'

def simpleKey (text : List Char) : Option (String × List Char) :=
  match lineText? text with
  | some read => read.map fun found => (String.ofList found.1, found.2)
  | none =>
      let name := text.takeWhile isBareChar
      if name.isEmpty then none else some (String.ofList name, text.dropWhile isBareChar)

/-- A key with the tables before it, its parts between points. The first argument
is how many parts there may be. -/
def dottedKey : Nat → List Char → Option (List String × String × List Char)
  | 0, _ => none
  | count + 1, text => do
      let (name, after) ← simpleKey (skipBlanks text)
      match skipBlanks after with
      | '.' :: rest => do
          let (path, key, after) ← dottedKey count rest
          return (name :: path, key, after)
      | rest => return ([], name, rest)

def maxParts : Nat := 80

def key (text : List Char) : Option (List String × String × List Char) :=
  dottedKey maxParts text

/-! ## Values -/

mutual

/-- A value at the front, and what follows it. The first argument is how deep
values may nest, the second bounds the number of steps. -/
def value : Nat → Nat → List Char → Option (Value × List Char)
  | _, 0, _ => none
  | depth, fuel + 1, text =>
      match quotedText? text with
      | some read => read.map fun found => (.text (String.ofList found.1), found.2)
      | none => match depth, text with
        | 0, '[' :: _ => none
        | depth + 1, '[' :: rest => do
            let (items, after) ← items depth fuel (skipSpace rest)
            return (.list items, after)
        | 0, '{' :: _ => none
        | depth + 1, '{' :: rest => do
            let (entries, after) ← entries depth fuel [] (skipSpace rest)
            return (.record (fieldsOf entries), after)
        | _, _ => plainValue? text

def items : Nat → Nat → List Char → Option (List Value × List Char)
  | _, 0, _ => none
  | _, _, ']' :: after => some ([], after)
  | depth, fuel + 1, text => do
      let (item, after) ← value depth fuel text
      match skipSpace after with
      | ',' :: rest => do
          let (others, after) ← items depth fuel (skipSpace rest)
          return (item :: others, after)
      | ']' :: after => return ([item], after)
      | _ => none

/-- The assignments of an inline table up to its brace, after those before; a comma
may follow the last one. -/
def entries : Nat → Nat → Entries → List Char → Option (Entries × List Char)
  | _, 0, _, _ => none
  | _, _, earlier, '}' :: after => some (earlier, after)
  | depth, fuel + 1, earlier, text => do
      let (path, name, after) ← key text
      match skipSpace after with
      | '=' :: rest => do
          let (item, after) ← value depth fuel (skipSpace rest)
          let all ← assign path name item earlier
          match skipSpace after with
          | ',' :: rest => entries depth fuel all (skipSpace rest)
          | '}' :: after => return (all, after)
          | _ => none
      | _ => none

end

def maxDepth : Nat := 80

/-! ## Lines -/

inductive Line where
  | blank
  | tableHeader (path : List String) (key : String)
  | arrayHeader (path : List String) (key : String)
  | assignment (path : List String) (key : String) (value : Value)
  deriving Inhabited

def lineContent (steps : Nat) (text : List Char) : Option (Line × List Char) :=
  match skipBlanks text with
  | [] => some (.blank, [])
  | '[' :: '[' :: rest => do
      let (path, name, after) ← key rest
      match after with
      | ']' :: ']' :: rest => return (.arrayHeader path name, rest)
      | _ => none
  | '[' :: rest => do
      let (path, name, after) ← key rest
      match after with
      | ']' :: rest => return (.tableHeader path name, rest)
      | _ => none
  | c :: rest =>
      if c = '#' || c = '\n' || c = '\r' then some (.blank, c :: rest)
      else do
        let (path, name, after) ← key (c :: rest)
        match after with
        | '=' :: rest => do
            let (item, after) ← value maxDepth steps (skipBlanks rest)
            return (.assignment path name item, after)
        | _ => none

def documentLines (steps : Nat) : Nat → List Char → Option (List Line)
  | 0, _ => none
  | _, [] => some []
  | fuel + 1, text => do
      let (line, after) ← lineContent steps text
      let others ← documentLines steps fuel (← endOfLine? after)
      return line :: others

/-! ## Documents -/

def assignments : List Line → List (List String × String × Value) × List Line
  | .blank :: rest => assignments rest
  | .assignment path key value :: rest =>
      let (others, after) := assignments rest
      ((path, key, value) :: others, after)
  | rest => ([], rest)

def fill (all : List (List String × String × Value)) (entries : Entries) : Option Entries :=
  all.foldlM (fun entries item => assign item.1 item.2.1 item.2.2 entries) entries

def enterTables : Nat → List Line → Entries → Option Entries
  | _, [], entries => some entries
  | fuel + 1, .tableHeader path key :: rest, entries => do
      let (own, others) := assignments rest
      enterTables fuel others (← fillTable path key (fill own) entries)
  | fuel + 1, .arrayHeader path key :: rest, entries => do
      let (own, others) := assignments rest
      enterTables fuel others (← addTable path key (fill own) entries)
  | _, _, _ => none

def withoutMark : List Char → List Char
  | c :: rest => if c = Char.ofNat 0xFEFF then rest else c :: rest
  | [] => []

def parse? (document : String) : Option Value := do
  let text := withoutMark document.toList
  -- A line takes a character at least, and so does one of two steps of a value.
  let lines ← documentLines (2 * text.length + 2) (text.length + 1) text
  let (own, others) := assignments lines
  let entries ← enterTables lines.length others (← fill own [])
  return .record (fieldsOf entries)

end TableTalk.Document.Toml
