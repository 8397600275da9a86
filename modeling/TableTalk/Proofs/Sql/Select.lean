import TableTalk.Proofs.Sql.Lexeme
import TableTalk.Sql.Select

/-!
# The tokens of a SELECT

Whatever expressions a SELECT is built from, no two of its identifiers touch, so its
text can be read back. Conditions that are added one by one stand in the order in
which they were added, with `AND` between them.
-/

namespace TableTalk.Sql

set_option autoImplicit false

/-! ## Identifiers never touch -/

theorem apart_nil : Apart [] := List.isChain_nil

/-- A token that is no identifier keeps what stands before it from what follows. -/
theorem apart_gap {before after : List Token} {gap : Token} (bare : gap.isIdentifier = false)
    (left : Apart before) (right : Apart after) : Apart (before ++ gap :: after) := by
  refine List.isChain_append.mpr ⟨left, ?_, ?_⟩
  · refine List.isChain_cons.mpr ⟨?_, right⟩
    intro token _ both
    rw [bare] at both
    exact Bool.false_ne_true both.1
  · intro first _ second head both
    obtain rfl : gap = second := by simpa using head
    rw [bare] at both
    exact Bool.false_ne_true both.2

theorem apart_cons {after : List Token} {gap : Token} (bare : gap.isIdentifier = false)
    (right : Apart after) : Apart (gap :: after) :=
  apart_gap bare apart_nil right

theorem apart_singleton (token : Token) : Apart [token] := List.isChain_singleton token

theorem apart_separated (parts : List (List Token)) (each : ∀ part ∈ parts, Apart part) :
    Apart (separated parts) := by
  fun_induction separated parts with
  | case1 => exact apart_nil
  | case2 part => exact each part (by simp)
  | case3 part next rest ih =>
      have later := ih fun other member => each other (List.mem_cons_of_mem _ member)
      rw [List.append_assoc]
      exact apart_gap rfl (each part (by simp)) (apart_cons rfl later)

mutual

theorem expr_tokens_apart : (expr : Expr) → Apart expr.tokens
  | .column name => by
      rw [Expr.tokens]
      exact apart_singleton _
  | .resultName name => by
      rw [Expr.tokens]
      exact apart_singleton _
  | .parameter index => by
      rw [Expr.tokens]
      exact apart_singleton _
  | .star => by
      rw [Expr.tokens]
      exact apart_singleton _
  | .binary operator left right => by
      have operatorBare : operator.token.isIdentifier = false := by cases operator <;> rfl
      rw [Expr.tokens, List.append_assoc]
      exact apart_gap rfl (expr_tokens_apart left)
        (apart_cons operatorBare (apart_cons rfl (expr_tokens_apart right)))
  | .call function arguments => by
      have inner := apart_separated _ (list_tokens_apart arguments)
      rw [Expr.tokens, List.append_assoc]
      exact apart_cons rfl (apart_cons rfl (apart_gap rfl inner apart_nil))

theorem list_tokens_apart : (exprs : List Expr) → ∀ part ∈ listTokens exprs, Apart part
  | [] => by simp [listTokens]
  | expr :: rest => by
      rw [listTokens]
      intro part member
      cases member with
      | head => exact expr_tokens_apart expr
      | tail _ later => exact list_tokens_apart rest part later

end

theorem item_tokens_apart (item : SelectItem) : Apart item.tokens := by
  unfold SelectItem.tokens
  split
  · exact apart_gap rfl (expr_tokens_apart item.expr)
      (apart_cons rfl (apart_cons rfl (apart_singleton _)))
  · rw [List.append_nil]
    exact expr_tokens_apart item.expr

theorem sort_item_tokens_apart (item : SortItem) : Apart item.tokens := by
  have directionBare : (if item.descending then Token.descending else .ascending).isIdentifier =
      false := by
    split <;> rfl
  exact apart_gap rfl (expr_tokens_apart item.expr) (apart_cons directionBare apart_nil)

theorem mapped_tokens_apart {Part : Type} (write : Part → List Token)
    (apart : ∀ part, Apart (write part)) (parts : List Part) :
    Apart (separated (parts.map write)) := by
  apply apart_separated
  intro tokens member
  obtain ⟨part, _, rfl⟩ := List.mem_map.mp member
  exact apart part

/-! ## Clauses -/

/-- A clause, if there is anything to say in it. -/
def optionalClause (keyword : Token) (operands : Option (List Token)) : List Token :=
  operands.elim [] (clause keyword)

def listed {Part : Type} (write : Part → List Token) (parts : List Part) : Option (List Token) :=
  if parts.isEmpty then none else some (separated (parts.map write))

theorem all_separated (Holds : Token → Prop) (comma : Holds .comma) (space : Holds .space)
    {parts : List (List Token)} (each : ∀ part ∈ parts, ∀ token ∈ part, Holds token) :
    ∀ token ∈ separated parts, Holds token := by
  fun_induction separated parts with
  | case1 => exact nofun
  | case2 part => exact each part List.mem_cons_self
  | case3 part next rest ih =>
      obtain ⟨own, others⟩ := List.forall_mem_cons.mp each
      simp only [List.append_assoc, List.forall_mem_append, List.forall_mem_cons]
      exact ⟨own, ⟨comma, space, nofun⟩, ih others⟩

theorem all_optional_clause (Holds : Token → Prop) (space : Holds .space) {keyword : Token}
    (stands : Holds keyword) {operands : Option (List Token)}
    (each : ∀ tokens ∈ operands, ∀ token ∈ tokens, Holds token) :
    ∀ token ∈ optionalClause keyword operands, Holds token := by
  cases operands with
  | none => exact nofun
  | some tokens =>
      simp only [optionalClause, Option.elim_some, clause, List.forall_mem_append,
        List.forall_mem_cons]
      exact ⟨⟨space, stands, space, nofun⟩, each tokens rfl⟩

theorem select_tokens_eq (select : Select) :
    select.tokens = .select :: ((listed SelectItem.tokens select.items).elim [] (.space :: ·) ++
      (optionalClause .source (select.source.map fun name => [.identifier name]) ++
      (optionalClause .condition (select.condition.map Expr.tokens) ++
      (optionalClause .groupBy (listed Expr.tokens select.groupBy) ++
      (optionalClause .orderBy (listed SortItem.tokens select.orderBy) ++
      optionalClause .limit (select.limit.map Expr.tokens)))))) := by
  unfold Select.tokens optionalClause listed
  simp only [List.append_assoc, List.cons_append, List.nil_append]
  congr 2
  · split <;> rfl
  congr 1
  · cases select.source <;> rfl
  congr 1
  · cases select.condition <;> rfl
  congr 1
  · split <;> rfl
  congr 1
  · split <;> rfl
  · cases select.limit <;> rfl

theorem apart_optional_clause {before : List Token} {keyword : Token}
    {operands : Option (List Token)} (bare : keyword.isIdentifier = false)
    (each : ∀ tokens ∈ operands, Apart tokens) (left : Apart before) :
    Apart (before ++ optionalClause keyword operands) := by
  cases operands with
  | none => simpa [optionalClause] using left
  | some tokens => exact apart_gap rfl left (apart_cons bare (apart_cons rfl (each tokens rfl)))

theorem listed_apart {Part : Type} (write : Part → List Token)
    (apart : ∀ part, Apart (write part)) (parts : List Part) :
    ∀ tokens ∈ listed write parts, Apart tokens := by
  intro tokens member
  unfold listed at member
  split at member
  · cases member
  · cases member
    exact mapped_tokens_apart write apart parts

theorem select_tokens_apart (select : Select) : Apart (select.tokens ++ [.semicolon]) := by
  have projection : Apart (.select :: (listed SelectItem.tokens select.items).elim []
      (.space :: ·)) := by
    cases items : listed SelectItem.tokens select.items with
    | none => exact apart_singleton _
    | some tokens =>
        exact apart_cons rfl (apart_cons rfl (listed_apart _ item_tokens_apart _ tokens items))
  have source : ∀ tokens ∈ select.source.map fun name => [.identifier name], Apart tokens := by
    intro tokens member
    obtain ⟨name, _, rfl⟩ := Option.map_eq_some_iff.mp member
    exact apart_singleton _
  have mapped : ∀ optional : Option Expr, ∀ tokens ∈ optional.map Expr.tokens, Apart tokens := by
    intro optional tokens member
    obtain ⟨expr, _, rfl⟩ := Option.map_eq_some_iff.mp member
    exact expr_tokens_apart expr
  rw [select_tokens_eq]
  simp only [← List.cons_append, ← List.append_assoc]
  refine apart_gap rfl ?_ apart_nil
  apply apart_optional_clause rfl (mapped select.limit)
  apply apart_optional_clause rfl (listed_apart _ sort_item_tokens_apart select.orderBy)
  apply apart_optional_clause rfl (listed_apart _ expr_tokens_apart select.groupBy)
  apply apart_optional_clause rfl (mapped select.condition)
  exact apart_optional_clause rfl source projection

/-! ## Conditions -/

def conjoined (conditions : List Expr) : List Token :=
  conditions.flatMap fun condition => [.space, .conjunction, .space] ++ condition.tokens

/-- Conditions that hold together, one after the other with `AND` between them. -/
def conjunction : List Expr → Option (List Token)
  | [] => none
  | first :: others => some (first.tokens ++ conjoined others)

/-- Conditions that are added to a first one stand after it, in their order. -/
theorem filter_onto_condition (conditions : List Expr) (select : Select) (first : Expr)
    (present : select.condition = some first) :
    ∃ whole, conditions.foldl Select.filter select = { select with condition := some whole } ∧
      whole.tokens = first.tokens ++ conjoined conditions := by
  induction conditions generalizing select first with
  | nil =>
      refine ⟨first, ?_, by simp [conjoined]⟩
      simp [← present]
  | cons condition conditions ih =>
      have step : select.filter condition =
          { select with condition := some (.binary .and first condition) } := by
        simp [Select.filter, present]
      obtain ⟨whole, folded, tokens⟩ := ih (select.filter condition) (.binary .and first condition)
        (by rw [step])
      refine ⟨whole, ?_, ?_⟩
      · rw [List.foldl_cons, folded, step]
      · rw [tokens, Expr.tokens]
        simp [BinaryOperator.token, conjoined]

/-- Adding conditions changes the condition of a SELECT and nothing else. -/
theorem filter_fold_frame (conditions : List Expr) (select : Select) :
    ∃ condition, conditions.foldl Select.filter select = { select with condition } := by
  induction conditions generalizing select with
  | nil => exact ⟨select.condition, rfl⟩
  | cons first others ih =>
      obtain ⟨condition, folded⟩ := ih (select.filter first)
      exact ⟨condition, folded⟩

/-- Conditions that are added to none stand in their order. -/
theorem filter_fold_condition (conditions : List Expr) (select : Select)
    (unconditional : select.condition = none) :
    ∃ condition, conditions.foldl Select.filter select = { select with condition } ∧
      condition.map Expr.tokens = conjunction conditions := by
  cases conditions with
  | nil => exact ⟨none, by simp [← unconditional], rfl⟩
  | cons first others =>
      have step : select.filter first = { select with condition := some first } := by
        simp [Select.filter, unconditional]
      obtain ⟨whole, folded, tokens⟩ := filter_onto_condition others (select.filter first) first
        (by rw [step])
      refine ⟨some whole, ?_, ?_⟩
      · rw [List.foldl_cons, folded, step]
      · rw [Option.map_some, tokens, conjunction]

end TableTalk.Sql
