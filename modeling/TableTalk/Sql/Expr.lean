import TableTalk.Sql.Token

/-!
# SQL expressions

The expressions of single-table queries, and how they are written.
-/

namespace TableTalk.Sql

set_option autoImplicit false

inductive BinaryOperator where
  | equal
  | less
  | greater
  | like
  | and
  deriving Repr, DecidableEq, Inhabited

def BinaryOperator.token : BinaryOperator → Token
  | equal => .equal
  | less => .less
  | greater => .greater
  | like => .like
  | and => .conjunction

inductive Expr where
  /-- A column, written between quotes. -/
  | column (name : String)
  /-- The name of a projected expression, written without quotes. -/
  | resultName (name : String)
  /-- A bound parameter, counted from 1. -/
  | parameter (index : Nat)
  | binary (operator : BinaryOperator) (left right : Expr)
  | call (function : String) (arguments : List Expr)
  | star
  deriving Repr, Inhabited

def Expr.count (argument : Expr) : Expr := .call "COUNT" [argument]

/-- Parts with a comma and a blank between them. -/
def separated : List (List Token) → List Token
  | [] => []
  | [part] => part
  | part :: next :: rest => part ++ [.comma, .space] ++ separated (next :: rest)

mutual

def Expr.tokens : Expr → List Token
  | .column name => [.identifier name]
  | .resultName name => [.plain name]
  | .parameter index => [.parameter index]
  | .binary operator left right =>
      left.tokens ++ [.space, operator.token, .space] ++ right.tokens
  | .call function arguments =>
      [.function function, .leftParen] ++ separated (listTokens arguments) ++ [.rightParen]
  | .star => [.star]

def listTokens : List Expr → List (List Token)
  | [] => []
  | expr :: rest => expr.tokens :: listTokens rest

end

end TableTalk.Sql
