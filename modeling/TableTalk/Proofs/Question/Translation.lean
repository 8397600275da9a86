import TableTalk.Proofs.Query.Refusal
import TableTalk.Proofs.Question.DecisionTable
import TableTalk.Proofs.Question.Provenance

/-!
# How translations fail

A question about a table with a name and columns always parses, and what it parses to
meets all checks of the compiler but one: limits are read and configured as 64 bits
without sign, and bound as 64 bits with sign.
-/

namespace TableTalk

open TableTalk.Catalog
open TableTalk.Language
open TableTalk.Sql

set_option autoImplicit false

/-! ## Orders -/

/-- Rows are sorted by a count of one of these names, if they are sorted. -/
def Outline.SortsByCount (outline : Outline) : Prop :=
  ∀ key ∈ outline.orderBy, key.column ∈ ["mention_count", "update_count"]

theorem tally_sorts_by_count (intent : Intent) (column key group : String) (limit : UInt64)
    {resultName : String} (known : resultName ∈ ["mention_count", "update_count"]) :
    (Outline.tally intent column key resultName group limit).SortsByCount := by
  intro sortKey sorted
  cases sorted
  exact known

theorem unsorted_sorts_by_count {outline : Outline} (unsorted : outline.orderBy = none) :
    outline.SortsByCount := by
  intro key sorted
  rw [unsorted] at sorted
  cases sorted

namespace Question

theorem decision_table_sorts_by_count (first : Column) (others : List Column)
    (context : Context) : (decisionTable first others context).SortsByCount := by
  unfold decisionTable
  dsimp only
  split
  · exact tally_sorts_by_count _ _ _ _ _ (by decide)
  · split_ifs
    · exact tally_sorts_by_count _ _ _ _ _ (by decide)
    · exact tally_sorts_by_count _ _ _ _ _ (by decide)
    · exact unsorted_sorts_by_count rfl
    · exact unsorted_sorts_by_count rfl

theorem count_names_plain {name : String} (known : name ∈ ["mention_count", "update_count"])
    (dialect : Dialect) : isPlainName name ∧ isReservedResultName dialect name = false := by
  simp only [List.mem_cons, List.not_mem_nil, or_false] at known
  rcases known with rfl | rfl
  · cases dialect <;> decide
  · cases dialect <;> decide

/-! ## Parsed queries and the checks of the compiler -/

def parsedQuery (context : Context) : Query :=
  (runCascade context).finish context.table.name

theorem parsed_filters_supported (context : Context) (strict : Bool) :
    (parsedQuery context).filters.findSome? (Filter.refusal strict) = none := by
  apply List.findSome?_eq_none_iff.mpr
  intro filter member
  have equals := (run_cascade_sourced context filter member).1
  simp [Filter.refusal, equals]

theorem parsed_order_accepted (context : Context) (listed : context.table.columns ≠ [])
    (dialect : Dialect) :
    (parsedQuery context).orderBy.bind (SortKey.refusal (parsedQuery context)) = none ∧
      (parsedQuery context).sortsByReserved dialect = false := by
  obtain ⟨first, others, columns⟩ := List.exists_cons_of_ne_nil listed
  have sorts := decision_table_sorts_by_count first others context
  rw [← run_cascade_outline columns] at sorts
  unfold Query.sortsByReserved
  cases order : (parsedQuery context).orderBy with
  | none => exact ⟨rfl, rfl⟩
  | some key =>
      obtain ⟨plain, unreserved⟩ := count_names_plain (sorts key order) dialect
      simp [SortKey.refusal, plain, unreserved]

theorem parsed_query_refusal (context : Context) (options : CompileOptions)
    (named : context.table.name ≠ "") (listed : context.table.columns ≠ []) :
    (parsedQuery context).refusal context.table options =
      (parsedQuery context).limit.bind limitRefusal := by
  have target : (parsedQuery context).targetTable = context.table.name := rfl
  obtain ⟨accepted, readable⟩ := parsed_order_accepted context listed options.dialect
  unfold Query.refusal Query.refusalWith
  rw [normal_form_readable, target, if_neg named, if_neg (not_not.mpr rfl),
    parsed_filters_supported, accepted, readable]
  simp

/-! ## Translating -/

theorem translate_of_parse {engine : Engine} {question : String} {query : Query}
    (parsed : parse engine.table engine.parser question = .ok query) :
    engine.translate question =
      match compile engine.table engine.compiler query with
      | .error error => .error (.compile error)
      | .ok statement => .ok ⟨query, statement⟩ := by
  unfold Engine.translate
  rw [parsed]
  change ((compile engine.table engine.compiler query).mapError TranslateError.compile >>=
    fun statement => pure (Translation.mk query statement)) = _
  cases compile engine.table engine.compiler query with
  | error error => rfl
  | ok statement => rfl

theorem translate_of_parse_error {engine : Engine} {question : String} {error : ParseError}
    (failed : parse engine.table engine.parser question = .error error) :
    engine.translate question = .error (.parse error) := by
  unfold Engine.translate
  rw [failed]
  rfl

theorem translate_available (engine : Engine) (question : String)
    (named : engine.table.name ≠ "") (listed : engine.table.columns ≠ []) :
    ∃ query, parse engine.table engine.parser question = .ok query ∧
      ((∀ limit ∈ query.limit, Bindable limit) →
        ∃ statement, compile engine.table engine.compiler query = .ok statement ∧
          engine.translate question = .ok ⟨query, statement⟩) ∧
      ∀ limit ∈ query.limit, ¬Bindable limit →
        compile engine.table engine.compiler query = .error (.limitOutOfRange limit) ∧
        engine.translate question = .error (.compile (.limitOutOfRange limit)) := by
  let context := Context.ofQuestion (Gazetteer.ofTable engine.table organizationNames).analyze
    engine.table engine.parser question
  let query := parsedQuery context
  have parsed : parse engine.table engine.parser question = .ok query :=
    parse_with_available _ engine.parser question named listed
  have refused : query.refusal engine.table engine.compiler = query.limit.bind limitRefusal :=
    parsed_query_refusal context engine.compiler named listed
  refine ⟨query, parsed, ?_, ?_⟩
  · intro bindable
    have passed : query.limit.bind limitRefusal = none := by
      apply Option.bind_eq_none_iff.mpr
      intro limit given
      exact if_pos (bindable limit given)
    have compiled := compile_eq engine.table engine.compiler query
    rw [refused, passed] at compiled
    refine ⟨_, compiled, ?_⟩
    rw [translate_of_parse parsed, compiled]
  · intro limit given unbindable
    have failed : query.limit.bind limitRefusal = some (.limitOutOfRange limit) := by
      rw [given, Option.bind_some]
      exact if_neg unbindable
    have compiled := compile_eq engine.table engine.compiler query
    rw [refused, failed] at compiled
    refine ⟨compiled, ?_⟩
    rw [translate_of_parse parsed, compiled]

/-- A translation fails for want of a schema or for a limit that cannot be bound, and for
nothing else. -/
theorem translation_fails_on_schema_or_limit (engine : Engine) (question : String) :
    ((∃ error, engine.translate question = .error (.parse error)) ↔
      engine.table.name = "" ∨ engine.table.columns = []) ∧
    (engine.table.name ≠ "" → engine.table.columns ≠ [] →
      ∃ query, parse engine.table engine.parser question = .ok query ∧
        ((∃ statement, compile engine.table engine.compiler query = .ok statement ∧
          engine.translate question = .ok ⟨query, statement⟩) ↔
            ∀ limit ∈ query.limit, Bindable limit) ∧
        ∀ limit ∈ query.limit, ¬Bindable limit →
          compile engine.table engine.compiler query = .error (.limitOutOfRange limit) ∧
          engine.translate question = .error (.compile (.limitOutOfRange limit))) ∧
    ∀ error, engine.translate question = .error (.compile error) →
      ∃ limit, error = .limitOutOfRange limit := by
  by_cases lacking : engine.table.name = "" ∨ engine.table.columns = []
  · obtain ⟨error, failed⟩ := parse_with_unavailable
      (Gazetteer.ofTable engine.table organizationNames).analyze engine.parser question lacking
    have untranslated := translate_of_parse_error failed
    refine ⟨⟨fun _ => lacking, fun _ => ⟨error, untranslated⟩⟩, ?_, ?_⟩
    · intro named listed
      exact absurd lacking (not_or.mpr ⟨named, listed⟩)
    · intro other compiled
      rw [untranslated] at compiled
      cases compiled
  · obtain ⟨named, listed⟩ := not_or.mp lacking
    obtain ⟨query, parsed, passes, fails⟩ := translate_available engine question named listed
    refine ⟨⟨?_, fun absent => absurd absent lacking⟩, fun _ _ => ⟨query, parsed, ?_, fails⟩, ?_⟩
    · rintro ⟨error, failed⟩
      rw [translate_of_parse parsed] at failed
      split at failed
      · cases failed
      · cases failed
    · refine ⟨?_, passes⟩
      rintro ⟨statement, compiled, _⟩ limit given
      by_contra unbindable
      rw [(fails limit given unbindable).1] at compiled
      cases compiled
    · intro error failed
      by_cases bindable : ∀ limit ∈ query.limit, Bindable limit
      · obtain ⟨statement, _, translated⟩ := passes bindable
        rw [translated] at failed
        cases failed
      · obtain ⟨limit, given, unbindable⟩ : ∃ limit ∈ query.limit, ¬Bindable limit := by
          simpa using bindable
        rw [(fails limit given unbindable).2] at failed
        cases failed
        exact ⟨limit, rfl⟩

/-- The least number that a ranking reads and no database takes. -/
theorem ranking_beyond_signed_limit_fails :
    cloudUpdates.name ≠ "" ∧ cloudUpdates.columns ≠ [] ∧ ¬Bindable 9223372036854775808 ∧
      Engine.translate ⟨cloudUpdates, {}, {}⟩ "top 9,223,372,036,854,775,808 services" =
        .error (.compile (.limitOutOfRange 9223372036854775808)) := by
  have outcome := translation_fails_on_schema_or_limit ⟨cloudUpdates, {}, {}⟩
    "top 9,223,372,036,854,775,808 services"
  have unbindable : ¬Bindable 9223372036854775808 := by decide
  obtain ⟨query, parsed, _, fails⟩ := outcome.2.1 (by decide) (by decide)
  have read : (parse cloudUpdates {} "top 9,223,372,036,854,775,808 services").toOption.bind
      Query.limit = some 9223372036854775808 := by decide +kernel
  rw [parsed] at read
  exact ⟨by decide, by decide, unbindable, (fails _ read unbindable).2⟩

end Question

end TableTalk
