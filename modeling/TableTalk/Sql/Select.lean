import TableTalk.Sql.Expr

/-!
# SELECT statements

A query over one table, clause by clause. Its text is one line with single
blanks between the clauses.
-/

namespace TableTalk.Sql

set_option autoImplicit false

structure SelectItem where
  expr : Expr
  resultName : Option String := none
  deriving Repr, Inhabited

def SelectItem.tokens (item : SelectItem) : List Token :=
  item.expr.tokens ++ match item.resultName with
    | some name => [.space, .naming, .space, .identifier name]
    | none => []

structure SortItem where
  expr : Expr
  descending : Bool := false
  deriving Repr, Inhabited

def SortItem.tokens (item : SortItem) : List Token :=
  item.expr.tokens ++ [.space, if item.descending then .descending else .ascending]

structure Select where
  items : List SelectItem := []
  source : Option String := none
  condition : Option Expr := none
  groupBy : List Expr := []
  orderBy : List SortItem := []
  limit : Option Expr := none
  deriving Repr, Inhabited

/-- Adds a condition; rows have to meet it as well as the earlier ones. -/
def Select.filter (select : Select) (condition : Expr) : Select :=
  { select with condition := some <| match select.condition with
      | some earlier => .binary .and earlier condition
      | none => condition }

def clause (keyword : Token) (operands : List Token) : List Token :=
  [.space, keyword, .space] ++ operands

def Select.tokens (select : Select) : List Token :=
  let projection := separated (select.items.map SelectItem.tokens)
  [.select] ++ (if select.items.isEmpty then [] else .space :: projection) ++
    (match select.source with
      | some name => clause .source [.identifier name]
      | none => []) ++
    (match select.condition with
      | some condition => clause .condition condition.tokens
      | none => []) ++
    (if select.groupBy.isEmpty then []
      else clause .groupBy (separated (select.groupBy.map Expr.tokens))) ++
    (if select.orderBy.isEmpty then []
      else clause .orderBy (separated (select.orderBy.map SortItem.tokens))) ++
    (match select.limit with
      | some limit => clause .limit limit.tokens
      | none => [])

def Select.parameterCount (select : Select) : Nat := Sql.parameterCount select.tokens

/-- The text of the statement, with its terminator. -/
def Select.render (select : Select) (dialect : Dialect) : String :=
  Sql.render dialect (select.tokens ++ [.semicolon])

end TableTalk.Sql
