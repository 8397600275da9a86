import TableTalk.Database.Table
import TableTalk.Text.Search

/-!
# Declared columns

A database file keeps each table with the statement that made it. The columns are
read off this statement: their names, what they prefer to hold, and which of them
is another name for the number of the row.
-/

namespace TableTalk.Database.Storage

set_option autoImplicit false

inductive Lexeme where
  | word (text : String)
  /-- A name between quotes, which is never a keyword. -/
  | quoted (name : String)
  | mark (c : Char)
  deriving Repr, DecidableEq, Inhabited

/-- What stands up to a closing quote, and what follows it. Two quotes stand for
one. -/
def quotedUpTo (close : Char) : List Char → List Char × List Char
  | [] => ([], [])
  | [_] => ([], [])
  | c :: d :: rest =>
      if c ≠ close then
        let (name, after) := quotedUpTo close (d :: rest)
        (c :: name, after)
      else if d = close then
        let (name, after) := quotedUpTo close rest
        (c :: name, after)
      else ([], d :: rest)

def afterComment : List Char → List Char
  | [] => []
  | '*' :: '/' :: rest => rest
  | _ :: rest => afterComment rest

def isWordChar (c : Char) : Bool := c.isAlphanum || c = '_' || c = '$' || 128 ≤ c.toNat

/-- The quote that closes a name opened by a character: a double quote, a single
one (39), a grave accent (96) or a bracket. -/
def closing? (c : Char) : Option Char :=
  if c = '"' || c.toNat = 39 || c.toNat = 96 then some c
  else if c = '[' then some ']'
  else none

def lexemes : Nat → List Char → List Lexeme
  | 0, _ => []
  | _, [] => []
  | fuel + 1, '-' :: '-' :: rest => lexemes fuel (rest.dropWhile (· ≠ '\n'))
  | fuel + 1, '/' :: '*' :: rest => lexemes fuel (afterComment rest)
  | fuel + 1, c :: rest =>
      match closing? c with
      | some close =>
          let (name, after) := quotedUpTo close rest
          .quoted (String.ofList name) :: lexemes fuel after
      | none =>
          if isSpace c then lexemes fuel rest
          else if isWordChar c then
            .word (String.ofList (c :: rest.takeWhile isWordChar)) ::
              lexemes fuel (rest.dropWhile isWordChar)
          else .mark c :: lexemes fuel rest

/-- The parts between the outer parentheses of a declaration, split at the commas
that stand in no others. The first argument counts the open parentheses. -/
def clauses : Nat → List Lexeme → List Lexeme → List (List Lexeme)
  | _, clause, [] => [clause]
  | depth, clause, .mark '(' :: rest =>
      clauses (depth + 1) (if depth = 0 then [] else clause ++ [.mark '(']) rest
  | depth, clause, .mark ')' :: rest =>
      if depth ≤ 1 then [clause] else clauses (depth - 1) (clause ++ [.mark ')']) rest
  | depth, clause, lexeme :: rest =>
      if depth = 1 && lexeme = .mark ',' then clause :: clauses depth [] rest
      else if depth = 0 then clauses depth [] rest
      else clauses depth (clause ++ [lexeme]) rest

def Lexeme.isKeyword (keywords : List String) : Lexeme → Bool
  | word text => keywords.any fun keyword => Text.equalAsciiCase keyword text
  | _ => false

def tableKeywords : List String := ["CONSTRAINT", "PRIMARY", "UNIQUE", "CHECK", "FOREIGN"]

def columnKeywords : List String := [
  "CONSTRAINT", "PRIMARY", "NOT", "NULL", "UNIQUE", "CHECK", "DEFAULT", "COLLATE",
  "REFERENCES", "GENERATED", "AS"]

def typeWords : List Lexeme → List String
  | .word text :: rest =>
      if Lexeme.isKeyword columnKeywords (.word text) then [] else text :: typeWords rest
  | .quoted name :: rest => name :: typeWords rest
  | _ => []

/-- What a column of a declared type prefers to hold, by the first of the words that
occurs in the type. A column without a type keeps values as they are. -/
def affinityOfWords (words : List String) : Option Affinity :=
  let name := Text.upper (" ".intercalate words)
  let has (parts : List String) : Bool := parts.any (Text.mentions name)
  if has ["INT"] then some .numeric
  else if has ["CHAR", "CLOB", "TEXT"] then some .text
  else if name.isEmpty || has ["BLOB"] then none
  else if has ["REAL", "FLOA", "DOUB"] then some .real
  else some .numeric

structure DeclaredColumn where
  column : StoredColumn
  /-- Whether the type is just `INTEGER`. -/
  isInteger : Bool
  /-- Whether the column is declared as a key that counts upwards. -/
  isKey : Bool
  deriving Repr, DecidableEq, Inhabited

def declaresKey : List Lexeme → Bool
  | .word first :: .word second :: rest =>
      if Text.equalAsciiCase first "PRIMARY" && Text.equalAsciiCase second "KEY" then
        !(rest.head?.any (Lexeme.isKeyword ["DESC"]))
      else declaresKey (.word second :: rest)
  | _ :: rest => declaresKey rest
  | [] => false

def columnOfClause? : List Lexeme → Option DeclaredColumn
  | [] => none
  | first :: rest =>
      let name? := match first with
        | .word text =>
            if Lexeme.isKeyword tableKeywords first then none else some text
        | .quoted name => some name
        | .mark _ => none
      name?.map fun name =>
        let words := typeWords rest
        { column := { name, affinity := affinityOfWords words }
          isInteger := words.length = 1 && words.all (Text.equalAsciiCase "INTEGER")
          isKey := declaresKey rest }

/-- The column that a clause about the whole table declares as the only key. -/
def tableKey? : List Lexeme → Option String
  | .word _ :: .word second :: .mark '(' :: name :: .mark ')' :: _ =>
      if Text.equalAsciiCase second "KEY" then
        match name with
        | .word text | .quoted text => some text
        | .mark _ => none
      else none
  | .word first :: _ :: rest =>
      if Text.equalAsciiCase first "CONSTRAINT" then
        match rest with
        | .word _ :: .word second :: .mark '(' :: .word text :: .mark ')' :: _
        | .word _ :: .word second :: .mark '(' :: .quoted text :: .mark ')' :: _ =>
            if Text.equalAsciiCase second "KEY" then some text else none
        | _ => none
      else none
  | _ => none

structure Declaration where
  columns : List StoredColumn
  rowNumber? : Option Nat
  deriving Repr, DecidableEq, Inhabited

def Declaration.ofStatement (statement : String) : Declaration :=
  let chars := statement.toList
  -- Each step takes a character, so there are enough steps.
  let parts := clauses 0 [] (lexemes chars.length chars)
  let columns := parts.filterMap columnOfClause?
  let key? := parts.findSome? tableKey?
  { columns := columns.map DeclaredColumn.column
    rowNumber? := columns.findIdx? fun declared =>
      declared.isInteger &&
        (declared.isKey || key?.any (Text.equalAsciiCase declared.column.name)) }

end TableTalk.Database.Storage
