import Mathlib.Data.List.Basic
import TableTalk.Proofs.Sql.Select

/-!
# The parameters of a SELECT

The parameters of an expression are its leaves, read from left to right, and those of a SELECT
are the ones of its clauses in the order in which these are written. The parameter markers among
the tokens are these and no others.
-/

namespace TableTalk.Sql

set_option autoImplicit false

/-! ## Markers among tokens -/

/-- The parameter that a token marks. -/
def Token.parameterIndex : Token → Option Nat
  | .parameter index => some index
  | _ => none

theorem eq_parameter {token : Token} {index : Nat} (marks : token.parameterIndex = some index) :
    token = .parameter index := by
  cases token with
  | parameter other =>
      cases marks
      rfl
  | _ => cases marks

theorem parameter_count_eq (tokens : List Token) :
    parameterCount tokens = (tokens.filterMap Token.parameterIndex).length := by
  rw [List.length_filterMap_eq_countP, parameterCount]
  congr 1
  funext token
  cases token <;> rfl

/-! ## Parameters of expressions -/

mutual

/-- The parameters of an expression, from left to right. -/
def Expr.parameters : Expr → List Nat
  | .parameter index => [index]
  | .binary _ left right => left.parameters ++ right.parameters
  | .call _ arguments => listParameters arguments
  | .column _ => []
  | .resultName _ => []
  | .star => []

def listParameters : List Expr → List Nat
  | [] => []
  | expr :: rest => expr.parameters ++ listParameters rest

end

/-- The parameters of a SELECT, clause by clause. -/
def Select.parameters (select : Select) : List Nat :=
  select.items.flatMap (fun item => item.expr.parameters) ++
    select.condition.toList.flatMap Expr.parameters ++
    select.groupBy.flatMap Expr.parameters ++
    select.orderBy.flatMap (fun item => item.expr.parameters) ++
    select.limit.toList.flatMap Expr.parameters

theorem separated_parameters (parts : List (List Token)) :
    (separated parts).filterMap Token.parameterIndex =
      parts.flatMap (List.filterMap Token.parameterIndex) := by
  fun_induction separated parts with
  | case1 => rfl
  | case2 part => simp
  | case3 part next rest ih =>
      rw [List.filterMap_append, List.filterMap_append, ih, List.flatMap_cons]
      simp [Token.parameterIndex]

mutual

theorem expr_tokens_parameters :
    (expr : Expr) → expr.tokens.filterMap Token.parameterIndex = expr.parameters
  | .column name => by simp [Expr.tokens, Expr.parameters, Token.parameterIndex]
  | .resultName name => by simp [Expr.tokens, Expr.parameters, Token.parameterIndex]
  | .parameter index => by simp [Expr.tokens, Expr.parameters, Token.parameterIndex]
  | .star => by simp [Expr.tokens, Expr.parameters, Token.parameterIndex]
  | .binary operator left right => by
      have sign : operator.token.parameterIndex = none := by cases operator <;> rfl
      have between : [.space, operator.token, .space].filterMap Token.parameterIndex = [] := by
        rw [List.filterMap_cons_none rfl, List.filterMap_cons_none sign]
        rfl
      rw [Expr.tokens, Expr.parameters, List.filterMap_append, List.filterMap_append,
        expr_tokens_parameters left, between, expr_tokens_parameters right, List.append_nil]
  | .call function arguments => by
      rw [Expr.tokens, Expr.parameters, List.filterMap_append, List.filterMap_append,
        separated_parameters, list_tokens_parameters arguments]
      exact List.append_nil _

theorem list_tokens_parameters : (exprs : List Expr) →
    (listTokens exprs).flatMap (List.filterMap Token.parameterIndex) = listParameters exprs
  | [] => by simp [listTokens, listParameters]
  | expr :: rest => by
      rw [listTokens, listParameters, List.flatMap_cons, expr_tokens_parameters expr,
        list_tokens_parameters rest]

end

theorem item_tokens_parameters (item : SelectItem) :
    item.tokens.filterMap Token.parameterIndex = item.expr.parameters := by
  rw [SelectItem.tokens, List.filterMap_append, expr_tokens_parameters]
  cases item.resultName <;> simp [Token.parameterIndex]

theorem sort_item_tokens_parameters (item : SortItem) :
    item.tokens.filterMap Token.parameterIndex = item.expr.parameters := by
  rw [SortItem.tokens, List.filterMap_append, expr_tokens_parameters]
  cases item.descending <;> simp [Token.parameterIndex]

/-! ## Parameters of clauses -/

theorem optional_clause_parameters {keyword : Token} (word : keyword.parameterIndex = none)
    (operands : Option (List Token)) :
    (optionalClause keyword operands).filterMap Token.parameterIndex =
      operands.toList.flatMap (List.filterMap Token.parameterIndex) := by
  cases operands with
  | none => rfl
  | some tokens =>
      rw [optionalClause, Option.elim_some, clause, List.filterMap_append,
        List.filterMap_cons_none rfl, List.filterMap_cons_none word, Option.toList_some,
        List.flatMap_singleton]
      rfl

theorem listed_parameters {Part : Type} {write : Part → List Token}
    {parameters : Part → List Nat}
    (each : ∀ part, (write part).filterMap Token.parameterIndex = parameters part)
    (parts : List Part) :
    (listed write parts).toList.flatMap (List.filterMap Token.parameterIndex) =
      parts.flatMap parameters := by
  cases parts with
  | nil => rfl
  | cons part others =>
      rw [listed, List.isEmpty_cons, if_neg Bool.false_ne_true, Option.toList_some,
        List.flatMap_singleton, separated_parameters, List.flatMap_map]
      simp only [each]

theorem mapped_parameters (optional : Option Expr) :
    (optional.map Expr.tokens).toList.flatMap (List.filterMap Token.parameterIndex) =
      optional.toList.flatMap Expr.parameters := by
  cases optional with
  | none => rfl
  | some expr => simp [expr_tokens_parameters]

/-- The markers of a SELECT stand for its parameters, clause by clause. -/
theorem select_tokens_parameters (select : Select) :
    select.tokens.filterMap Token.parameterIndex = select.parameters := by
  have projection : ((listed SelectItem.tokens select.items).elim [] (.space :: ·)).filterMap
      Token.parameterIndex = select.items.flatMap fun item => item.expr.parameters := by
    rw [← listed_parameters item_tokens_parameters select.items]
    cases listed SelectItem.tokens select.items with
    | none => rfl
    | some tokens => rw [Option.toList_some, List.flatMap_singleton]; rfl
  have source : (select.source.map fun name => [Token.identifier name]).toList.flatMap
      (List.filterMap Token.parameterIndex) = [] := by
    cases select.source <;> simp [Token.parameterIndex]
  rw [select_tokens_eq, List.filterMap_cons_none rfl]
  simp only [List.filterMap_append]
  rw [projection, optional_clause_parameters rfl, source, optional_clause_parameters rfl,
    mapped_parameters, optional_clause_parameters rfl, listed_parameters expr_tokens_parameters,
    optional_clause_parameters rfl, listed_parameters sort_item_tokens_parameters,
    optional_clause_parameters rfl, mapped_parameters, List.nil_append, Select.parameters]
  simp only [List.append_assoc]

theorem filter_parameters (condition : Expr) (select : Select) :
    (select.filter condition).condition.toList.flatMap Expr.parameters =
      (select.condition.toList ++ [condition]).flatMap Expr.parameters := by
  cases earlier : select.condition with
  | none => simp [Select.filter, earlier]
  | some first => simp [Select.filter, earlier, Expr.parameters]

/-- The parameters of conditions that are added come behind those of the earlier ones. -/
theorem filter_fold_parameters (conditions : List Expr) (select : Select) :
    (conditions.foldl Select.filter select).parameters =
      select.items.flatMap (fun item => item.expr.parameters) ++
        (select.condition.toList ++ conditions).flatMap Expr.parameters ++
        select.groupBy.flatMap Expr.parameters ++
        select.orderBy.flatMap (fun item => item.expr.parameters) ++
        select.limit.toList.flatMap Expr.parameters := by
  induction conditions generalizing select with
  | nil => rw [List.foldl_nil, Select.parameters, List.append_nil]
  | cons condition conditions ih =>
      have added := filter_parameters condition select
      rw [List.foldl_cons, ih, List.flatMap_append, added, ← List.flatMap_append,
        List.append_assoc select.condition.toList, List.singleton_append]
      rfl

end TableTalk.Sql
