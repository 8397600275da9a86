import TableTalk.Proofs.Sql.Parameters

/-!
# How a SELECT is written

The parentheses of a SELECT pair up, whatever expressions it is built from. Conditions that are
added to it one by one are written in this order with `AND` between them, behind the source and
before the grouping, and nothing else of the statement changes.
-/

namespace TableTalk.Sql

set_option autoImplicit false

/-! ## Parentheses -/

/-- As many parentheses are closed as are opened, and none before it is opened. -/
structure Balanced (tokens : List Token) : Prop where
  opened : ∀ size, (tokens.take size).count .rightParen ≤ (tokens.take size).count .leftParen
  closed : tokens.count .rightParen = tokens.count .leftParen

def Token.isParenthesis : Token → Bool
  | .leftParen | .rightParen => true
  | _ => false

theorem balanced_nil : Balanced [] where
  opened size := by simp
  closed := rfl

theorem balanced_append {left right : List Token} (first : Balanced left)
    (second : Balanced right) : Balanced (left ++ right) where
  opened size := by
    have before := first.opened size
    have after := second.opened (size - left.length)
    rw [List.take_append, List.count_append, List.count_append]
    omega
  closed := by rw [List.count_append, List.count_append, first.closed, second.closed]

theorem balanced_enclosed {inner : List Token} (balanced : Balanced inner) :
    Balanced (.leftParen :: (inner ++ [.rightParen])) where
  opened size := by
    cases size with
    | zero => simp
    | succ size =>
        have inside := balanced.opened size
        have last : ([Token.rightParen].take (size - inner.length)).count .rightParen ≤ 1 :=
          List.count_le_length.trans (List.length_take_le' _ _)
        rw [List.take_succ_cons, List.take_append, List.count_cons_self,
          List.count_cons_of_ne (by decide), List.count_append, List.count_append]
        omega
  closed := by
    have inside := balanced.closed
    simp [List.count_append, inside]

theorem balanced_singleton {token : Token} (plain : token.isParenthesis = false) :
    Balanced [token] := by
  have opens : [token].count .leftParen = 0 := by
    apply List.count_eq_zero_of_not_mem
    rintro (_ | ⟨_, none⟩)
    · cases plain
    · cases none
  have closes : [token].count .rightParen = 0 := by
    apply List.count_eq_zero_of_not_mem
    rintro (_ | ⟨_, none⟩)
    · cases plain
    · cases none
  refine ⟨fun size => ?_, closes.trans opens.symm⟩
  have fewer := (List.take_sublist size [token]).count_le Token.rightParen
  omega

theorem balanced_cons {token : Token} {rest : List Token} (plain : token.isParenthesis = false)
    (balanced : Balanced rest) : Balanced (token :: rest) :=
  balanced_append (balanced_singleton plain) balanced

theorem separated_balanced {parts : List (List Token)} (each : ∀ part ∈ parts, Balanced part) :
    Balanced (separated parts) := by
  fun_induction separated parts with
  | case1 => exact balanced_nil
  | case2 part => exact each part List.mem_cons_self
  | case3 part next rest ih =>
      obtain ⟨own, others⟩ := List.forall_mem_cons.mp each
      rw [List.append_assoc]
      exact balanced_append own (balanced_cons rfl (balanced_cons rfl (ih others)))

mutual

theorem expr_tokens_balanced : (expr : Expr) → Balanced expr.tokens
  | .column name => by
      rw [Expr.tokens]
      exact balanced_singleton rfl
  | .resultName name => by
      rw [Expr.tokens]
      exact balanced_singleton rfl
  | .parameter index => by
      rw [Expr.tokens]
      exact balanced_singleton rfl
  | .star => by
      rw [Expr.tokens]
      exact balanced_singleton rfl
  | .binary operator left right => by
      have plain : operator.token.isParenthesis = false := by cases operator <;> rfl
      rw [Expr.tokens, List.append_assoc]
      exact balanced_append (expr_tokens_balanced left)
        (balanced_cons rfl (balanced_cons plain (balanced_cons rfl (expr_tokens_balanced right))))
  | .call function arguments => by
      have inner := separated_balanced (list_tokens_balanced arguments)
      rw [Expr.tokens, List.append_assoc]
      exact balanced_cons rfl (balanced_enclosed inner)

theorem list_tokens_balanced : (exprs : List Expr) → ∀ part ∈ listTokens exprs, Balanced part
  | [] => by simp [listTokens]
  | expr :: rest => by
      rw [listTokens]
      exact List.forall_mem_cons.mpr ⟨expr_tokens_balanced expr, list_tokens_balanced rest⟩

end

theorem item_tokens_balanced (item : SelectItem) : Balanced item.tokens := by
  unfold SelectItem.tokens
  refine balanced_append (expr_tokens_balanced item.expr) ?_
  cases item.resultName with
  | none => exact balanced_nil
  | some name =>
      exact balanced_cons rfl (balanced_cons rfl (balanced_cons rfl (balanced_singleton rfl)))

theorem sort_item_tokens_balanced (item : SortItem) : Balanced item.tokens := by
  unfold SortItem.tokens
  refine balanced_append (expr_tokens_balanced item.expr) (balanced_cons rfl ?_)
  cases item.descending with
  | true => exact balanced_singleton rfl
  | false => exact balanced_singleton rfl

theorem listed_balanced {Part : Type} {write : Part → List Token}
    (balanced : ∀ part, Balanced (write part)) (parts : List Part) :
    ∀ tokens ∈ listed write parts, Balanced tokens := by
  intro tokens member
  unfold listed at member
  split at member
  · cases member
  · cases member
    apply separated_balanced
    exact List.forall_mem_map.mpr fun part _ => balanced part

theorem optional_clause_balanced {keyword : Token} {operands : Option (List Token)}
    (plain : keyword.isParenthesis = false) (each : ∀ tokens ∈ operands, Balanced tokens) :
    Balanced (optionalClause keyword operands) := by
  cases operands with
  | none => exact balanced_nil
  | some tokens =>
      exact balanced_cons rfl (balanced_cons plain (balanced_cons rfl (each tokens rfl)))

theorem select_tokens_balanced (select : Select) : Balanced select.tokens := by
  have projection : Balanced ((listed SelectItem.tokens select.items).elim [] (.space :: ·)) := by
    cases items : listed SelectItem.tokens select.items with
    | none => exact balanced_nil
    | some tokens =>
        exact balanced_cons rfl (listed_balanced item_tokens_balanced select.items tokens items)
  have source : ∀ tokens ∈ select.source.map fun name => [.identifier name], Balanced tokens := by
    intro tokens member
    obtain ⟨name, _, rfl⟩ := Option.map_eq_some_iff.mp member
    exact balanced_singleton rfl
  have mapped : ∀ optional : Option Expr, ∀ tokens ∈ optional.map Expr.tokens,
      Balanced tokens := by
    intro optional tokens member
    obtain ⟨expr, _, rfl⟩ := Option.map_eq_some_iff.mp member
    exact expr_tokens_balanced expr
  rw [select_tokens_eq]
  apply balanced_cons rfl
  apply balanced_append projection
  apply balanced_append (optional_clause_balanced rfl source)
  apply balanced_append (optional_clause_balanced rfl (mapped select.condition))
  apply balanced_append
    (optional_clause_balanced rfl (listed_balanced expr_tokens_balanced select.groupBy))
  apply balanced_append
    (optional_clause_balanced rfl (listed_balanced sort_item_tokens_balanced select.orderBy))
  exact optional_clause_balanced rfl (mapped select.limit)

/-! ## Conditions -/

/-- The clauses before the condition. -/
def Select.opening (select : Select) : List Token :=
  .select :: ((listed SelectItem.tokens select.items).elim [] (.space :: ·) ++
    optionalClause .source (select.source.map fun name => [.identifier name]))

/-- The clauses behind the condition. -/
def Select.closing (select : Select) : List Token :=
  optionalClause .groupBy (listed Expr.tokens select.groupBy) ++
    (optionalClause .orderBy (listed SortItem.tokens select.orderBy) ++
      optionalClause .limit (select.limit.map Expr.tokens))

theorem select_tokens_split (select : Select) :
    select.tokens = select.opening ++
      (optionalClause .condition (select.condition.map Expr.tokens) ++ select.closing) := by
  rw [select_tokens_eq, Select.opening, Select.closing, List.cons_append, List.append_assoc]

/-- Conditions that are added stand behind those that were there, all of them in their order. -/
theorem filter_fold_conjunction (conditions : List Expr) (select : Select) :
    ∃ condition, conditions.foldl Select.filter select = { select with condition } ∧
      condition.map Expr.tokens = conjunction (select.condition.toList ++ conditions) := by
  cases earlier : select.condition with
  | none => exact filter_fold_condition conditions select earlier
  | some first =>
      obtain ⟨whole, folded, tokens⟩ := filter_onto_condition conditions select first earlier
      exact ⟨some whole, folded, congrArg some tokens⟩

/-- The text of conditions that all have to be met. -/
def conditionText (dialect : Dialect) : List Expr → String
  | [] => ""
  | conditions =>
      " WHERE " ++ " AND ".intercalate (conditions.map fun condition =>
        render dialect condition.tokens)

theorem render_append (dialect : Dialect) (left right : List Token) :
    render dialect (left ++ right) = render dialect left ++ render dialect right := by
  simp [render]

theorem render_conjoined (dialect : Dialect) (first : Expr) (others : List Expr) :
    render dialect (first.tokens ++ conjoined others) =
      " AND ".intercalate ((first :: others).map fun condition =>
        render dialect condition.tokens) := by
  induction others generalizing first with
  | nil => simp [conjoined]
  | cons next others ih =>
      have between : conjoined (next :: others) =
          [.space, .conjunction, .space] ++ (next.tokens ++ conjoined others) := by
        simp [conjoined]
      have sign : render dialect [.space, .conjunction, .space] = " AND " := by
        cases dialect <;> rfl
      rw [between, render_append, render_append, ih next, sign, List.map_cons, List.map_cons,
        List.map_cons, String.intercalate_cons_cons, String.append_assoc]

theorem render_conjunction (dialect : Dialect) (conditions : List Expr) :
    render dialect (optionalClause .condition (conjunction conditions)) =
      conditionText dialect conditions := by
  cases conditions with
  | nil => rfl
  | cons first others =>
      have keyword : render dialect [.space, .condition, .space] = " WHERE " := by
        cases dialect <;> rfl
      have text : conditionText dialect (first :: others) = " WHERE " ++ " AND ".intercalate
          ((first :: others).map fun condition => render dialect condition.tokens) := rfl
      rw [conjunction, optionalClause, Option.elim_some, clause, render_append, keyword,
        render_conjoined, text]

/-- The parameter markers of a SELECT stand for its parameters, clause by clause and from left
to right, each for its own; its parentheses pair up; and conditions that are added to it one by
one are written in this order, behind those that it had. -/
theorem select_written_in_order (select : Select) :
    select.tokens.filterMap Token.parameterIndex = select.parameters ∧
    select.parameterCount = select.parameters.length ∧
    Balanced select.tokens ∧
    ∀ (dialect : Dialect) (conditions : List Expr),
      (conditions.foldl Select.filter select).render dialect =
        render dialect select.opening ++
          conditionText dialect (select.condition.toList ++ conditions) ++
          render dialect (select.closing ++ [.semicolon]) := by
  have marked := select_tokens_parameters select
  refine ⟨marked, ?_, select_tokens_balanced select, ?_⟩
  · rw [Select.parameterCount, parameter_count_eq, marked]
  · intro dialect conditions
    obtain ⟨condition, folded, tokens⟩ := filter_fold_conjunction conditions select
    rw [Select.render, folded, select_tokens_split]
    dsimp only
    rw [tokens, List.append_assoc, List.append_assoc, render_append, render_append,
      render_conjunction, String.append_assoc]
    rfl

end TableTalk.Sql
