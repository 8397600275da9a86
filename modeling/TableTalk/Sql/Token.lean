import TableTalk.Sql.Dialect

/-!
# SQL tokens

The smallest parts of a statement. There is no token for a literal: values reach
a statement as parameter markers only.
-/

namespace TableTalk.Sql

set_option autoImplicit false

inductive Token where
  | select
  | source
  | condition
  | conjunction
  | naming
  | groupBy
  | orderBy
  | ascending
  | descending
  | limit
  | like
  | comma
  | star
  | leftParen
  | rightParen
  | semicolon
  | equal
  | less
  | greater
  | space
  /-- An identifier between quotes. -/
  | identifier (name : String)
  /-- A plain identifier without quotes, for a result name defined elsewhere. -/
  | plain (name : String)
  /-- The marker of a bound parameter. -/
  | parameter (index : Nat)
  /-- A function name, in upper case. -/
  | function (name : String)
  deriving Repr, DecidableEq, Inhabited

def Token.render (dialect : Dialect) : Token → String
  | select => "SELECT"
  | source => "FROM"
  | condition => "WHERE"
  | conjunction => "AND"
  | naming => "AS"
  | groupBy => "GROUP BY"
  | orderBy => "ORDER BY"
  | ascending => "ASC"
  | descending => "DESC"
  | limit => "LIMIT"
  | like => "LIKE"
  | comma => ","
  | star => "*"
  | leftParen => "("
  | rightParen => ")"
  | semicolon => ";"
  | equal => "="
  | less => "<"
  | greater => ">"
  | space => " "
  | identifier name => dialect.quote name
  | plain name => name
  | parameter index => dialect.marker index
  | function name => Text.upper name

def Token.isParameter : Token → Bool
  | parameter _ => true
  | _ => false

/-- The text of a sequence of tokens; blanks are tokens of their own. -/
def render (dialect : Dialect) (tokens : List Token) : String :=
  String.ofList (tokens.flatMap fun token => (token.render dialect).toList)

def parameterCount (tokens : List Token) : Nat := tokens.countP Token.isParameter

end TableTalk.Sql
