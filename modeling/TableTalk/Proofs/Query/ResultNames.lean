import TableTalk.Proofs.Query.Emitted
import TableTalk.Proofs.Text.AsciiCase

/-!
# Result names with and without quotes

The name of a result is defined between quotes and referred to without them. Databases fold names
without quotes before they look them up, PostgreSQL to lower case and the others by ignoring case;
so a result whose name has capital letters is not found in PostgreSQL, unless there is another one
of the folded name.
-/

namespace TableTalk

open TableTalk.Catalog
open TableTalk.Sql
open TableTalk.Text

set_option autoImplicit false

namespace Sql

/-- The letters `A` to `Z` in lower case, and all else as it is. -/
def foldedName (name : String) : String := String.ofList (name.toList.map Char.toLower)

/-- Whether a name without quotes stands for the one that is defined between quotes. -/
def Dialect.Finds (dialect : Dialect) (plain quoted : String) : Prop :=
  match dialect with
  | .postgres => foldedName plain = quoted
  | .sqlite | .duckdb | .mysql => equalAsciiCase plain quoted

/-- The names that are defined between quotes: the identifiers after `AS`. -/
def definedNames : List Token → List String
  | .naming :: .space :: .identifier name :: rest => name :: definedNames rest
  | _ :: rest => definedNames rest
  | [] => []

/-! ## Names that are defined -/

theorem defined_names_skip {before : List Token} (nameless : .naming ∉ before)
    (rest : List Token) : definedNames (before ++ rest) = definedNames rest := by
  induction before with
  | nil => rfl
  | cons token before ih =>
      rw [List.mem_cons, not_or] at nameless
      have skipped : definedNames (token :: (before ++ rest)) = definedNames (before ++ rest) := by
        rw [definedNames]
        rintro name after rfl
        exact absurd rfl nameless.1
      rw [List.cons_append, skipped, ih nameless.2]

theorem defined_names_of_nameless {tokens : List Token} (nameless : .naming ∉ tokens) :
    definedNames tokens = [] := by
  have skipped := defined_names_skip nameless []
  rwa [List.append_nil] at skipped

theorem separated_nameless {parts : List (List Token)}
    (each : ∀ part ∈ parts, Token.naming ∉ part) : Token.naming ∉ separated parts := by
  intro member
  exact all_separated (· ≠ .naming) nofun nofun
    (fun part listed token inside same => each part listed (same ▸ inside)) _ member rfl

mutual

theorem expr_tokens_nameless : (expr : Expr) → Token.naming ∉ expr.tokens
  | .column name | .resultName name | .parameter index | .star => by simp [Expr.tokens]
  | .binary operator left right => by
      have bare : operator.token ≠ .naming := by cases operator <;> nofun
      simp [Expr.tokens, expr_tokens_nameless left, expr_tokens_nameless right, bare.symm]
  | .call function arguments => by
      have inner := separated_nameless (list_tokens_nameless arguments)
      simp [Expr.tokens, inner]

theorem list_tokens_nameless : (exprs : List Expr) → ∀ part ∈ listTokens exprs, Token.naming ∉ part
  | [] => by simp [listTokens]
  | expr :: rest => by
      rw [listTokens]
      intro part member
      cases member with
      | head => exact expr_tokens_nameless expr
      | tail _ later => exact list_tokens_nameless rest part later

end

theorem item_defines (item : SelectItem) (rest : List Token) :
    definedNames (item.tokens ++ rest) = item.resultName.toList ++ definedNames rest := by
  unfold SelectItem.tokens
  rw [List.append_assoc, defined_names_skip (expr_tokens_nameless item.expr)]
  cases item.resultName with
  | none => rfl
  | some name => rfl

theorem items_define (items : List SelectItem) (rest : List Token) :
    definedNames (separated (items.map SelectItem.tokens) ++ rest) =
      items.filterMap SelectItem.resultName ++ definedNames rest := by
  induction items with
  | nil => rfl
  | cons first items ih =>
      have whole : (first :: items).filterMap SelectItem.resultName =
          first.resultName.toList ++ items.filterMap SelectItem.resultName := by
        cases named : first.resultName <;> simp [named]
      cases items with
      | nil => simp [separated, item_defines, whole]
      | cons second items =>
          have between : Token.naming ∉ [Token.comma, .space] := by decide
          rw [List.map_cons, List.map_cons, separated, List.append_assoc, List.append_assoc,
            item_defines, defined_names_skip between, ← List.map_cons, ih, whole, List.append_assoc]

theorem optional_clause_nameless {keyword : Token} {operands : Option (List Token)}
    (other : keyword ≠ .naming) (each : ∀ tokens ∈ operands, Token.naming ∉ tokens) :
    Token.naming ∉ optionalClause keyword operands := by
  intro member
  exact all_optional_clause (· ≠ .naming) nofun other
    (fun tokens present token inside same => each tokens present (same ▸ inside)) _ member rfl

theorem listed_nameless {Part : Type} {write : Part → List Token}
    (nameless : ∀ part, Token.naming ∉ write part) (parts : List Part) :
    ∀ tokens ∈ listed write parts, Token.naming ∉ tokens := by
  intro tokens member
  unfold listed at member
  split at member
  · cases member
  · cases member
    apply separated_nameless
    intro written part
    obtain ⟨source, _, rfl⟩ := List.mem_map.mp part
    exact nameless source

theorem projection_defines (items : List SelectItem) {rest : List Token}
    (nameless : .naming ∉ rest) :
    definedNames ((listed SelectItem.tokens items).elim [] (.space :: ·) ++ rest) =
      items.filterMap SelectItem.resultName := by
  cases items with
  | nil => exact defined_names_of_nameless nameless
  | cons first others =>
      have defined := items_define (first :: others) rest
      rw [defined_names_of_nameless nameless, List.append_nil] at defined
      exact defined

/-- A SELECT defines the names of its projection, in its order, and no others. -/
theorem select_defines (select : Select) :
    definedNames select.tokens = select.items.filterMap SelectItem.resultName := by
  have sort : ∀ item : SortItem, Token.naming ∉ item.tokens := by
    intro item
    cases descending : item.descending <;>
      simp [SortItem.tokens, descending, expr_tokens_nameless item.expr]
  have mapped : ∀ optional : Option Expr, ∀ tokens ∈ optional.map Expr.tokens,
      Token.naming ∉ tokens := by
    intro optional tokens member
    obtain ⟨expr, _, rfl⟩ := Option.map_eq_some_iff.mp member
    exact expr_tokens_nameless expr
  have source : ∀ tokens ∈ select.source.map fun name => [Token.identifier name],
      Token.naming ∉ tokens := by
    intro tokens member
    obtain ⟨name, _, rfl⟩ := Option.map_eq_some_iff.mp member
    simp
  have clauses : Token.naming ∉
      optionalClause .source (select.source.map fun name => [.identifier name]) ++
      (optionalClause .condition (select.condition.map Expr.tokens) ++
      (optionalClause .groupBy (listed Expr.tokens select.groupBy) ++
      (optionalClause .orderBy (listed SortItem.tokens select.orderBy) ++
      optionalClause .limit (select.limit.map Expr.tokens)))) := by
    simp only [List.mem_append, not_or]
    exact ⟨optional_clause_nameless (by decide) source,
      optional_clause_nameless (by decide) (mapped select.condition),
      optional_clause_nameless (by decide) (listed_nameless expr_tokens_nameless select.groupBy),
      optional_clause_nameless (by decide) (listed_nameless sort select.orderBy),
      optional_clause_nameless (by decide) (mapped select.limit)⟩
  have opening : Token.naming ∉ [Token.select] := by decide
  rw [select_tokens_eq, ← List.singleton_append, defined_names_skip opening]
  exact projection_defines select.items clauses

/-! ## Names that are referred to -/

theorem order_clause_infix (select : Select) :
    optionalClause .orderBy (listed SortItem.tokens select.orderBy) <:+: select.tokens := by
  rw [select_tokens_eq]
  refine List.infix_cons (List.IsInfix.trans ?_ (List.suffix_append _ _).isInfix)
  refine List.IsInfix.trans ?_ (List.suffix_append _ _).isInfix
  refine List.IsInfix.trans ?_ (List.suffix_append _ _).isInfix
  refine List.IsInfix.trans ?_ (List.suffix_append _ _).isInfix
  exact (List.prefix_append _ _).isInfix

/-- A name without quotes finds a defined one, if it is itself defined, in all databases but
PostgreSQL; there it finds one if its folded form is defined. -/
theorem finds_defined_iff (dialect : Dialect) {name : String} {defined : List String}
    (listed : name ∈ defined) :
    (∃ found ∈ defined, dialect.Finds name found) ↔
      (dialect = .postgres → foldedName name ∈ defined) := by
  cases dialect with
  | postgres => simp [Dialect.Finds]
  | sqlite | duckdb | mysql =>
      simp only [reduceCtorEq, false_imp_iff, iff_true]
      exact ⟨name, listed, equal_ascii_case_refl name⟩

theorem finds_itself_iff (dialect : Dialect) (name : String) :
    dialect.Finds name name ↔ (dialect = .postgres → foldedName name = name) := by
  cases dialect with
  | postgres => simp [Dialect.Finds]
  | sqlite | duckdb | mysql => simp [Dialect.Finds, equal_ascii_case_refl]

end Sql

section

variable {table : Table} {options : CompileOptions} {query : Query} {statement : Statement}

theorem projected_named_iff (entry : Projected) (name : String) :
    entry.item.resultName = some name ↔ entry.isNamed name := by
  cases entry with
  | _ => simp [Projected.item, Projected.isNamed]

/-- The names that a compiled statement defines are the result names of its query. -/
theorem compiled_defines (compiled : compile table options query = .ok statement) (name : String) :
    name ∈ definedNames statement.select.tokens ↔ query.isResultName name := by
  obtain ⟨_, _, rfl⟩ := compile_eq_ok compiled
  obtain ⟨_, folded⟩ := filter_fold_frame (conditionsFrom 1 (query.normalForm table).filters) _
  rw [NormalForm.statement, select_defines, NormalForm.select, folded,
    ← normal_form_is_result_name table]
  simp [NormalForm.isResultName, projected_named_iff]

theorem compiled_sorts_by {key : SortKey} (compiled : compile table options query = .ok statement)
    (sorted : query.orderBy = some key) (named : query.isResultName key.column) :
    [.orderBy, .space, .plain key.column] <:+: statement.select.tokens := by
  obtain ⟨_, _, rfl⟩ := compile_eq_ok compiled
  obtain ⟨_, folded⟩ := filter_fold_frame (conditionsFrom 1 (query.normalForm table).filters) _
  have known : (query.normalForm table).isResultName key.column := by
    rwa [normal_form_is_result_name]
  have order : (query.normalForm table).orderBy.toList.map (query.normalForm table).sortItem =
      [⟨.resultName key.column, key.direction == .descending⟩] := by
    simp [Query.normalForm, sorted, NormalForm.sortItem] at known ⊢
    exact known
  have written := order_clause_infix ((query.normalForm table).select table.name)
  rw [NormalForm.select, folded, order] at written
  rw [NormalForm.statement, NormalForm.select, folded, order]
  exact List.IsInfix.trans ⟨[.space], _, rfl⟩ written

/-- The name that rows are sorted by is written without quotes, the names of results are defined
between quotes. In PostgreSQL the first finds one of the others just if its folded form is among
them, and itself just if it is folded already; elsewhere it always finds itself. -/
theorem sorted_result_found_iff {key : SortKey}
    (compiled : compile table options query = .ok statement) (sorted : query.orderBy = some key)
    (named : query.isResultName key.column) :
    [.orderBy, .space, .plain key.column] <:+: statement.select.tokens ∧
      statement.dialect = options.dialect ∧
      (∀ name, name ∈ definedNames statement.select.tokens ↔ query.isResultName name) ∧
      ((∃ name ∈ definedNames statement.select.tokens,
          options.dialect.Finds key.column name) ↔
        (options.dialect = .postgres → query.isResultName (foldedName key.column))) ∧
      (options.dialect.Finds key.column key.column ↔
        (options.dialect = .postgres → foldedName key.column = key.column)) := by
  have defined := compiled_defines compiled
  have dialect : statement.dialect = options.dialect := by
    obtain ⟨_, _, rfl⟩ := compile_eq_ok compiled
    rfl
  refine ⟨compiled_sorts_by compiled sorted named, dialect, defined, ?_, finds_itself_iff _ _⟩
  rw [finds_defined_iff _ ((defined key.column).mpr named), defined]

def countedUnder (name : String) : Query where
  intent := .findMostFrequent
  selectColumns := ["provider"]
  aggregations := [.count "id" name]
  groupBy := some "provider"
  orderBy := some (.descending name)
  targetTable := "update"

theorem capital_result_found_in_mysql :
    ∃ statement, compile ⟨"update", []⟩ { dialect := .mysql } (countedUnder "TotalCount") =
        .ok statement ∧
      (countedUnder "TotalCount").orderBy = some (.descending "TotalCount") ∧
      (countedUnder "TotalCount").isResultName "TotalCount" ∧
      [.orderBy, .space, .plain "TotalCount"] <:+: statement.select.tokens ∧
      ∃ name ∈ definedNames statement.select.tokens, Dialect.mysql.Finds "TotalCount" name := by
  have compiled : compile ⟨"update", []⟩ { dialect := .mysql } (countedUnder "TotalCount") =
    .ok _ := rfl
  have named : (countedUnder "TotalCount").isResultName "TotalCount" := by decide
  obtain ⟨written, _, _, found, _⟩ := sorted_result_found_iff compiled rfl named
  exact ⟨_, compiled, rfl, named, written, found.mpr nofun⟩

theorem capital_result_lost_in_postgres :
    ∃ statement, compile ⟨"update", []⟩ { dialect := .postgres } (countedUnder "TotalCount") =
        .ok statement ∧
      (countedUnder "TotalCount").orderBy = some (.descending "TotalCount") ∧
      (countedUnder "TotalCount").isResultName "TotalCount" ∧
      statement.dialect = .postgres ∧
      [.orderBy, .space, .plain "TotalCount"] <:+: statement.select.tokens ∧
      definedNames statement.select.tokens = ["TotalCount"] ∧
      ¬∃ name ∈ definedNames statement.select.tokens,
        Dialect.postgres.Finds "TotalCount" name := by
  have compiled : compile ⟨"update", []⟩ { dialect := .postgres } (countedUnder "TotalCount") =
    .ok _ := rfl
  refine ⟨_, compiled, rfl, by decide, rfl, by decide, by decide, ?_⟩
  rintro ⟨name, defined, found⟩
  have folded : foldedName "TotalCount" = name := found
  rw [← folded] at defined
  exact absurd defined (by decide)

end

end TableTalk
