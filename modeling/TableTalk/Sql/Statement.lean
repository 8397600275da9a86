import TableTalk.Sql.Select
import TableTalk.Text.Quoted

/-!
# Parameterized statements

A SELECT together with the values bound to its parameter markers.
-/

namespace TableTalk.Sql

set_option autoImplicit false

inductive Value where
  | integer (n : Int)
  | text (s : String)
  deriving Repr, DecidableEq, Inhabited

def Value.display : Value → String
  | integer n => toString n
  | text s => Text.quoted s

structure Statement where
  select : Select
  dialect : Dialect
  /-- One value for each marker, in the order of the text. -/
  parameters : List Value
  deriving Repr, Inhabited

def Statement.text (statement : Statement) : String :=
  statement.select.render statement.dialect

/-- Words that cannot be read back as the name of a result when they stand
without quotes. -/
def reservedResultNames : Dialect → List String
  | .mysql => ["EXISTS", "TRIM", "INTERVAL"]
  | _ => ["EXISTS", "TRIM"]

def isReservedResultName (dialect : Dialect) (name : String) : Bool :=
  (reservedResultNames dialect).any fun word => Text.equalAsciiCase word name

/-- Whether the statement can be read back in its dialect: no result is sorted
by under a reserved name. -/
def Statement.isReadable (statement : Statement) : Bool :=
  statement.select.orderBy.all fun item => match item.expr with
    | .resultName name => !isReservedResultName statement.dialect name
    | _ => true

end TableTalk.Sql
