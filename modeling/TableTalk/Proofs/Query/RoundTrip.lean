import Mathlib.Data.List.Nodup
import TableTalk.Document.Json.Parser
import TableTalk.Proofs.Question.Provenance
import TableTalk.Query.Document

/-!
# Queries written and read back

A query that is written as a document value and read again is the same query, except
that the names of unknown operators are read for what they say. What comes out of a
question or out of a document has no such name left, so it comes back as it was and
compiles as before.
-/

namespace TableTalk

open TableTalk.Document

set_option autoImplicit false

/-! ## Reading what has been written -/

theorem read_record {Read : Type} (conventions : Conventions) (names : List String)
    {entries : List (String × Value)} (distinct : (entries.map Prod.fst).Nodup)
    (read : (String → Option Value) → Option Read) :
    (do let field ← conventions.fields names (.record entries); read field) =
      read fun name => entries.lookup name := by
  have once : ¬(names.any fun name => 1 < entries.countP fun entry => entry.1 == name) := by
    intro repeated
    obtain ⟨name, _, twice⟩ := List.any_eq_true.mp repeated
    have counted := List.nodup_iff_count_le_one.mp distinct name
    rw [List.count_eq_countP, List.countP_map] at counted
    exact absurd (of_decide_eq_true twice) (Nat.not_lt.mpr counted)
  have fields : conventions.fields names (.record entries) =
      some fun name => entries.lookup name := if_neg once
  rw [fields, Option.bind_eq_bind, Option.bind_some]

theorem read_list_of_written {Item Written : Type} {read : Value → Option Written}
    {write : Item → Value} {result : Item → Written}
    (each : ∀ item, read (write item) = some (result item)) (items : List Item) :
    readList read (.list (items.map write)) = some (items.map result) := by
  change (items.map write).mapM read = _
  induction items with
  | nil => rfl
  | cons item items ih =>
      rw [List.map_cons, List.mapM_cons, each, ih]
      rfl

theorem read_nullable_of_written {Item Written : Type} {read : Value → Option Written}
    {write : Item → Value} {result : Item → Written}
    (each : ∀ item, read (write item) = some (result item))
    (present : ∀ item, write item ≠ .null) (item : Option Item) :
    readNullable read (.optional write item) = some (item.map result) := by
  cases item with
  | none => rfl
  | some item =>
      have value : readNullable read (write item) = (read (write item)).map some := by
        unfold readNullable
        split
        · rename_i null
          exact absurd null (present item)
        · rfl
      rw [Value.optional, value, each]
      rfl

theorem read_texts (texts : List String) : readList readText (.texts texts) = some texts := by
  have each : ∀ text, readText (.text text) = some text := fun _ => rfl
  rw [Value.texts, read_list_of_written each, List.map_id']

theorem read_optional_text (text : Option String) :
    readNullable readText (.optional .text text) = some text := by
  have each : ∀ text, readText (.text text) = some text := fun _ => rfl
  have present : ∀ text, Value.text text ≠ .null := nofun
  rw [read_nullable_of_written each present, Option.map_id']

theorem read_limit (limit : UInt64) : readUInt64 (limitToValue limit) = some limit := by
  have bound : limit.toNat < 18446744073709551616 := limit.toNat_lt
  have fits : fitsUnsigned limit.toNat := by
    simp only [fitsUnsigned, Bool.and_eq_true, decide_eq_true_eq]
    omega
  rw [limitToValue, readUInt64, if_pos fits, Int.toNat_natCast, UInt64.ofNat_toNat]

/-! ## Operators -/

/-- An operator as its name is read. -/
def Operator.recognized : Operator → Operator
  | .other name => .ofName name
  | operator => operator

theorem read_operator (operator : Operator) :
    Operator.ofValue? operator.toValue = some operator.recognized := by
  have read : Operator.ofValue? operator.toValue = some (.ofName operator.name) := rfl
  rw [read]
  cases operator with
  | other name => rfl
  | _ => decide +kernel

/-- A name that stands for no operator is kept, so reading it once more changes nothing. -/
theorem of_name_recognized (name : String) :
    (Operator.ofName name).recognized = .ofName name := by
  cases found : Operator.known.find? fun operator => operator.name == Text.upper name with
  | none =>
      have kept : Operator.ofName name = .other name := by rw [Operator.ofName, found]; rfl
      rw [kept, Operator.recognized, kept]
  | some operator =>
      have meant : Operator.ofName name = operator := by rw [Operator.ofName, found]; rfl
      have known : ∀ operator ∈ Operator.known, operator.recognized = operator := by decide
      rw [meant]
      exact known operator (List.mem_of_find?_eq_some found)

/-! ## Parts of queries -/

section

variable (conventions : Conventions)

theorem read_intent (intent : Intent) :
    Intent.ofValue? conventions intent.toValue = some intent := by
  cases intent <;> rfl

theorem read_aggregate (aggregate : Aggregate) :
    Aggregate.ofValue? conventions aggregate.toValue = some aggregate := by
  cases aggregate <;> rfl

theorem read_direction (direction : Direction) :
    Direction.ofValue? conventions direction.toValue = some direction := by
  cases direction <;> rfl

def Filter.recognized (filter : Filter) : Filter :=
  { filter with operator := filter.operator.recognized }

theorem read_filter (filter : Filter) :
    Filter.ofValue? conventions filter.toValue = some filter.recognized := by
  have operator := read_operator filter.operator
  unfold Filter.ofValue? Filter.toValue
  rw [read_record conventions _ (by simp)]
  simp only [List.lookup_cons, String.reduceBEq]
  simp only [Option.bind_eq_bind, Option.bind_some, readField, readText, operator]
  rfl

theorem read_aggregation (aggregation : Aggregation) :
    Aggregation.ofValue? conventions aggregation.toValue = some aggregation := by
  unfold Aggregation.ofValue? Aggregation.toValue
  rw [read_record conventions _ (by simp)]
  simp only [List.lookup_cons, String.reduceBEq]
  simp only [Option.bind_eq_bind, Option.bind_some, readField, readText, read_aggregate,
    read_optional_text]
  rfl

theorem read_sort_key (key : SortKey) :
    SortKey.ofValue? conventions key.toValue = some key := by
  unfold SortKey.ofValue? SortKey.toValue
  rw [read_record conventions _ (by simp)]
  simp only [List.lookup_cons, String.reduceBEq]
  simp only [Option.bind_eq_bind, Option.bind_some, readField, readText, read_direction]
  rfl

end

/-! ## Queries -/

/-- A query with the names of its operators read for what they say. -/
def Query.recognized (query : Query) : Query :=
  { query with filters := query.filters.map Filter.recognized }

theorem read_query (conventions : Conventions) (query : Query) :
    Query.ofValue? conventions query.toValue = some query.recognized := by
  have filters := read_list_of_written (read_filter conventions) query.filters
  have aggregations := read_list_of_written (read_aggregation conventions) query.aggregations
  have order := read_nullable_of_written (read_sort_key conventions) (fun _ => nofun) query.orderBy
  have limit := read_nullable_of_written read_limit (fun _ => nofun) query.limit
  rw [List.map_id'] at aggregations
  rw [Option.map_id'] at order limit
  unfold Query.ofValue? Query.toValue
  -- The names are looked up before anything is read, or each reader evaluates the lookup.
  rw [read_record conventions _ (by simp)]
  simp only [List.lookup_cons, String.reduceBEq]
  simp only [Option.bind_eq_bind, Option.bind_some, readField, readText, read_intent, read_texts,
    read_optional_text, filters, aggregations, order, limit]
  rfl

/-! ## Queries without unread names -/

theorem read_field_eq_some {Read : Type} {default : Read} {read : Value → Option Read}
    {field : Option Value} {result : Read} (done : readField default read field = some result) :
    result = default ∨ ∃ value, read value = some result := by
  cases field with
  | none => exact .inl (Option.some.inj done).symm
  | some value => exact .inr ⟨value, done⟩

theorem read_list_member {Read : Type} {read : Value → Option Read} {value : Value}
    {items : List Read} (done : readList read value = some items) {item : Read}
    (member : item ∈ items) : ∃ written, read written = some item := by
  cases value with
  | list values =>
      change values.mapM read = some items at done
      induction values generalizing items with
      | nil =>
          cases done
          cases member
      | cons value values ih =>
          rw [List.mapM_cons] at done
          obtain ⟨first, here, done⟩ := Option.bind_eq_some_iff.mp done
          obtain ⟨others, later, done⟩ := Option.bind_eq_some_iff.mp done
          cases done
          rcases List.mem_cons.mp member with rfl | further
          · exact ⟨value, here⟩
          · exact ih further later
  | _ => cases done

theorem query_recognized {query : Query}
    (each : ∀ filter ∈ query.filters, filter.operator.recognized = filter.operator) :
    query.recognized = query := by
  have filters : query.filters.map Filter.recognized = query.filters := by
    apply (List.map_congr_left _).trans (List.map_id query.filters)
    intro filter member
    rw [Filter.recognized, each filter member, id]
  rw [Query.recognized, filters]

theorem read_filter_recognized {conventions : Conventions} {value : Value} {filter : Filter}
    (read : Filter.ofValue? conventions value = some filter) :
    filter.operator.recognized = filter.operator := by
  obtain ⟨field, _, read⟩ := Option.bind_eq_some_iff.mp read
  obtain ⟨column, _, read⟩ := Option.bind_eq_some_iff.mp read
  obtain ⟨operator, named, read⟩ := Option.bind_eq_some_iff.mp read
  obtain ⟨restricted, _, read⟩ := Option.bind_eq_some_iff.mp read
  cases read
  rcases read_field_eq_some named with rfl | ⟨written, spelled⟩
  · rfl
  · obtain ⟨name, _, rfl⟩ := Option.map_eq_some_iff.mp spelled
    exact of_name_recognized name

theorem read_query_recognized {conventions : Conventions} {value : Value} {query : Query}
    (read : Query.ofValue? conventions value = some query) : query.recognized = query := by
  obtain ⟨field, _, read⟩ := Option.bind_eq_some_iff.mp read
  obtain ⟨intent, _, read⟩ := Option.bind_eq_some_iff.mp read
  obtain ⟨columns, _, read⟩ := Option.bind_eq_some_iff.mp read
  obtain ⟨filters, listed, read⟩ := Option.bind_eq_some_iff.mp read
  have same : query.filters = filters := by
    obtain ⟨aggregations, _, read⟩ := Option.bind_eq_some_iff.mp read
    obtain ⟨groupBy, _, read⟩ := Option.bind_eq_some_iff.mp read
    obtain ⟨orderBy, _, read⟩ := Option.bind_eq_some_iff.mp read
    obtain ⟨limit, _, read⟩ := Option.bind_eq_some_iff.mp read
    obtain ⟨target, _, read⟩ := Option.bind_eq_some_iff.mp read
    cases read
    rfl
  apply query_recognized
  intro filter member
  rw [same] at member
  rcases read_field_eq_some listed with rfl | ⟨written, items⟩
  · cases member
  · obtain ⟨entry, readEntry⟩ := read_list_member items member
    exact read_filter_recognized readEntry

theorem parsed_query_recognized {analyze : String → Language.Analysis} {table : Catalog.Table}
    {options : Question.Options} {question : String} {query : Query}
    (parsed : Question.parseWith analyze table options question = .ok query) :
    query.recognized = query := by
  apply query_recognized
  intro filter member
  rw [Question.parse_with_eq_ok parsed] at member
  rw [(Question.run_cascade_sourced _ filter member).1]
  rfl

/-- What is written is read back with only the names of its operators read anew. Nothing is
left to read anew in what a question or a document has given. -/
theorem query_survives_round_trip (conventions : Conventions) :
    (∀ query : Query, Query.ofValue? conventions query.toValue = some query.recognized) ∧
    ∀ query : Query,
      ((∃ analyze table options question,
          Question.parseWith analyze table options question = .ok query) ∨
        ∃ source value, Query.ofValue? source value = some query) →
      Query.ofValue? conventions query.toValue = some query ∧
        ∀ table options, (Query.ofValue? conventions query.toValue).map (compile table options) =
          some (compile table options query) := by
  refine ⟨read_query conventions, ?_⟩
  intro query origin
  have settled : query.recognized = query := by
    rcases origin with ⟨analyze, table, options, question, parsed⟩ | ⟨source, value, read⟩
    · exact parsed_query_recognized parsed
    · exact read_query_recognized read
  have same : Query.ofValue? conventions query.toValue = some query := by
    rw [read_query, settled]
  refine ⟨same, ?_⟩
  intro table options
  rw [same, Option.map_some]

/-- A record that leaves out all it may, with an operator that is spelled with a dotless `i`
and one that nothing stands for. -/
def dotlessDocument : Value := .record [
  ("target_table", .text "update"),
  ("filters", .list [
    .record [("column", .text "title"), ("operator", .text "lıke"), ("value", .text "gpu")],
    .record [("column", .text "id"), ("operator", .text "between"), ("value", .text "1")]]),
  ("order_by", .record [("column", .text "title")])]

def dotlessQuery : Query where
  targetTable := "update"
  filters := [⟨"title", .like, "gpu"⟩, ⟨"id", .other "between", "1"⟩]
  orderBy := some { column := "title" }

theorem dotless_operator_survives_round_trip :
    Query.ofValue? Json.conventions dotlessDocument = some dotlessQuery ∧
      Query.ofValue? Json.conventions dotlessQuery.toValue = some dotlessQuery ∧
      (Query.ofValue? Json.conventions dotlessQuery.toValue).map
          (compile ⟨"update", []⟩ { strictOperators := true }) =
        some (compile ⟨"update", []⟩ { strictOperators := true } dotlessQuery) := by
  have read : Query.ofValue? Json.conventions dotlessDocument = some dotlessQuery := by
    decide +kernel
  obtain ⟨same, compiled⟩ := (query_survives_round_trip Json.conventions).2 dotlessQuery
    (.inr ⟨Json.conventions, dotlessDocument, read⟩)
  exact ⟨read, same, compiled _ _⟩

end TableTalk
