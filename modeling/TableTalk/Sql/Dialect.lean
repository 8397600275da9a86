import TableTalk.Text.Case

/-!
# Dialects

Two things differ between the databases that statements are written for: the
quotes around identifiers and the markers of bound parameters.
-/

namespace TableTalk.Sql

set_option autoImplicit false

inductive Dialect where
  | sqlite
  | duckdb
  | postgres
  | mysql
  deriving Repr, DecidableEq, Inhabited

def Dialect.all : List Dialect := [sqlite, duckdb, postgres, mysql]

def Dialect.name : Dialect → String
  | sqlite => "sqlite"
  | duckdb => "duckdb"
  | postgres => "postgres"
  | mysql => "mysql"

def Dialect.parse? (name : String) : Option Dialect :=
  all.find? fun dialect => Text.equalAsciiCase dialect.name name

/-- The character on both sides of a quoted identifier: a grave accent (96) for
MySQL, a double quote for all others. -/
def Dialect.quoteChar : Dialect → Char
  | mysql => Char.ofNat 96
  | _ => '"'

/-- Quotes inside an identifier are doubled. -/
def doubled (quote : Char) : List Char → List Char
  | [] => []
  | c :: rest => if c = quote then c :: c :: doubled quote rest else c :: doubled quote rest

def quoteChars (quote : Char) (name : List Char) : List Char :=
  quote :: (doubled quote name ++ [quote])

def Dialect.quote (dialect : Dialect) (name : String) : String :=
  String.ofList (quoteChars dialect.quoteChar name.toList)

def Dialect.marker (dialect : Dialect) (index : Nat) : String :=
  match dialect with
  | postgres => "$" ++ toString index
  | _ => "?"

end TableTalk.Sql
