import TableTalk.Catalog.Validation
import TableTalk.Proofs.Question.Rules

/-!
# Which table is selected

What a schema answers for a name, fault by fault: the first table of that name is all that is
looked at, and its first fault is what is reported. A table that is selected has columns that are
told apart by their names and one key, and questions about it can be parsed.
-/

namespace TableTalk.Catalog

open TableTalk.Language
open TableTalk.Question

set_option autoImplicit false

def Table.flaggedKeys (table : Table) : List String :=
  (table.columns.filter Column.isPrimaryKey).map Column.name

/-- What every table that is selected has. -/
structure Table.Valid (table : Table) : Prop where
  listed : table.columns ≠ []
  distinct : (table.columns.map Column.name).Nodup
  keyed : table.flaggedKeys.length ≤ 1

/-- What is found of a table by itself: its first fault, or the table. -/
inductive Table.Judged (table : Table) : Except SchemaError Table → Prop where
  | noColumns (bare : table.columns = []) : table.Judged (.error (.emptyTable table.name))
  /-- The first column with the name of one before it. -/
  | repeated {earlier later : List Column} {column : Column}
      (split : table.columns = earlier ++ column :: later)
      (distinct : (earlier.map Column.name).Nodup)
      (again : column.name ∈ earlier.map Column.name) :
      table.Judged (.error (.duplicateColumn table.name column.name))
  | severalKeys (distinct : (table.columns.map Column.name).Nodup)
      (several : 1 < table.flaggedKeys.length) :
      table.Judged (.error (.multiplePrimaryKeys table.name table.flaggedKeys))
  | valid (valid : table.Valid) : table.Judged (.ok table)

/-- What a schema answers for the name of a table. -/
inductive Schema.Answers (schema : Schema) (name : String) : Except SchemaError Table → Prop where
  | noTables (bare : schema.tables = []) : schema.Answers name (.error .noTables)
  | notFound (present : schema.tables ≠ []) (unnamed : ∀ table ∈ schema.tables, table.name ≠ name) :
      schema.Answers name (.error (.tableNotFound name))
  /-- Only the first table of the name is judged. -/
  | found {before after : List Table} {table : Table} {verdict : Except SchemaError Table}
      (split : schema.tables = before ++ table :: after) (named : table.name = name)
      (first : ∀ other ∈ before, other.name ≠ name) (judged : table.Judged verdict) :
      schema.Answers name verdict

/-! ## Names that are repeated -/

theorem first_repeated_eq_some_iff (seen names : List String) (name : String) :
    firstRepeated seen names = some name ↔
      ∃ earlier later, names = earlier ++ name :: later ∧ earlier.Nodup ∧
        (∀ other ∈ earlier, other ∉ seen) ∧ (name ∈ seen ∨ name ∈ earlier) := by
  -- The walk adds what it passes to `seen`, so the names before count as seen from there on.
  induction names generalizing seen with
  | nil => simp [firstRepeated]
  | cons first rest ih =>
      by_cases known : first ∈ seen
      · have found : firstRepeated seen (first :: rest) = some first := by
          simp [firstRepeated, known]
        rw [found]
        constructor
        · intro same
          cases same
          exact ⟨[], rest, rfl, List.nodup_nil, by simp, .inl known⟩
        · rintro ⟨earlier, later, split, _, unseen, _⟩
          cases earlier with
          | nil =>
              cases split
              rfl
          | cons other earlier =>
              cases split
              exact absurd known (unseen first List.mem_cons_self)
      · have skipped : firstRepeated seen (first :: rest) = firstRepeated (first :: seen) rest := by
          simp [firstRepeated, known]
        rw [skipped, ih]
        constructor
        · rintro ⟨earlier, later, rfl, distinct, unseen, again⟩
          simp only [List.mem_cons, not_or] at unseen again
          have fresh : first ∉ earlier := fun member => (unseen first member).1 rfl
          refine ⟨first :: earlier, later, rfl, List.nodup_cons.mpr ⟨fresh, distinct⟩, ?_, ?_⟩
          · exact List.forall_mem_cons.mpr ⟨known, fun other member => (unseen other member).2⟩
          · rw [List.mem_cons]
            tauto
        · rintro ⟨earlier, later, split, distinct, unseen, again⟩
          cases earlier with
          | nil =>
              cases split
              simp [known] at again
          | cons other earlier =>
              cases split
              obtain ⟨fresh, distinct⟩ := List.nodup_cons.mp distinct
              obtain ⟨_, unseen⟩ := List.forall_mem_cons.mp unseen
              refine ⟨earlier, later, rfl, distinct, ?_, ?_⟩
              · intro other member
                rw [List.mem_cons, not_or]
                exact ⟨fun same => fresh (same ▸ member), unseen other member⟩
              · rw [List.mem_cons] at again ⊢
                tauto

theorem first_repeated_eq_none_iff (seen names : List String) :
    firstRepeated seen names = none ↔ names.Nodup ∧ ∀ name ∈ names, name ∉ seen := by
  induction names generalizing seen with
  | nil => simp [firstRepeated]
  | cons first rest ih =>
      by_cases known : first ∈ seen
      · simp [firstRepeated, known]
      · have skipped : firstRepeated seen (first :: rest) = firstRepeated (first :: seen) rest := by
          simp [firstRepeated, known]
        rw [skipped, ih, List.nodup_cons, List.forall_mem_cons]
        simp only [List.mem_cons, not_or]
        constructor
        · rintro ⟨distinct, unseen⟩
          exact ⟨⟨fun member => (unseen first member).1 rfl, distinct⟩, known,
            fun name member => (unseen name member).2⟩
        · rintro ⟨⟨fresh, distinct⟩, _, unseen⟩
          exact ⟨distinct, fun name member =>
            ⟨fun same => fresh (same ▸ member), unseen name member⟩⟩

/-! ## Judging one table -/

section

variable {table : Table}

theorem validate_without_columns (bare : table.columns = []) :
    table.validate = .error (.emptyTable table.name) := by
  simp [Table.validate, bare]

theorem validate_repeated {name : String} (listed : table.columns ≠ [])
    (repeated : firstRepeated [] (table.columns.map Column.name) = some name) :
    table.validate = .error (.duplicateColumn table.name name) := by
  simp [Table.validate, listed, repeated]

theorem validate_unrepeated (listed : table.columns ≠ [])
    (distinct : (table.columns.map Column.name).Nodup) :
    table.validate = if 1 < table.flaggedKeys.length then
        .error (.multiplePrimaryKeys table.name table.flaggedKeys)
      else .ok () := by
  have unrepeated : firstRepeated [] (table.columns.map Column.name) = none :=
    (first_repeated_eq_none_iff [] _).mpr ⟨distinct, by simp⟩
  simp [Table.validate, Table.flaggedKeys, listed, unrepeated]

theorem validate_judged (table : Table) :
    table.Judged (do
      table.validate
      return table) := by
  by_cases bare : table.columns = []
  · rw [validate_without_columns bare]
    exact .noColumns bare
  cases repeated : firstRepeated [] (table.columns.map Column.name) with
  | some name =>
      rw [validate_repeated bare repeated]
      obtain ⟨earlierNames, laterNames, split, distinct, _, again⟩ :=
        (first_repeated_eq_some_iff _ _ _).mp repeated
      obtain ⟨earlier, others, columns, rfl, rest⟩ := List.map_eq_append_iff.mp split
      obtain ⟨column, later, rfl, rfl, _⟩ := List.map_eq_cons_iff.mp rest
      exact .repeated columns distinct (again.resolve_left List.not_mem_nil)
  | none =>
      obtain ⟨distinct, _⟩ := (first_repeated_eq_none_iff _ _).mp repeated
      rw [validate_unrepeated bare distinct]
      by_cases several : 1 < table.flaggedKeys.length
      · rw [if_pos several]
        exact .severalKeys distinct several
      · rw [if_neg several]
        exact .valid ⟨bare, distinct, not_lt.mp several⟩

/-- A table has one verdict, which is what checking it gives. -/
theorem judged_iff (verdict : Except SchemaError Table) :
    table.Judged verdict ↔ (do
      table.validate
      return table) = verdict := by
  constructor
  · intro judged
    cases judged with
    | noColumns bare =>
        rw [validate_without_columns bare]
        rfl
    | @repeated earlier later column split distinct again =>
        have listed : table.columns ≠ [] := by simp [split]
        have repeated : firstRepeated [] (table.columns.map Column.name) = some column.name :=
          (first_repeated_eq_some_iff _ _ _).mpr ⟨earlier.map Column.name, later.map Column.name,
            by simp [split], distinct, by simp, .inr again⟩
        rw [validate_repeated listed repeated]
        rfl
    | severalKeys distinct several =>
        have listed : table.columns ≠ [] := by
          intro bare
          simp [Table.flaggedKeys, bare] at several
        rw [validate_unrepeated listed distinct, if_pos several]
        rfl
    | valid valid =>
        rw [validate_unrepeated valid.listed valid.distinct, if_neg (not_lt.mpr valid.keyed)]
        rfl
  · rintro rfl
    exact validate_judged table

/-! ## Tables that pass -/

theorem judged_valid {other : Table} (judged : other.Judged (.ok table)) : table.Valid := by
  cases judged with
  | valid valid => exact valid

theorem valid_column_found (valid : table.Valid) {column : Column}
    (listed : column ∈ table.columns) : table.column? column.name = some column := by
  obtain ⟨before, after, columns⟩ := List.append_of_mem listed
  have distinct := valid.distinct
  rw [columns, List.map_append, List.map_cons, List.nodup_append] at distinct
  have others : ∀ other ∈ before, other.name ≠ column.name := fun other member =>
    distinct.2.2 _ (List.mem_map_of_mem member) _ List.mem_cons_self
  unfold Table.column?
  exact List.find?_eq_some_iff_append.mpr
    ⟨beq_self_eq_true _, before, after, columns, by simpa using others⟩

theorem valid_primary_key (valid : table.Valid) :
    ∃ key ∈ table.columns, table.primaryKey? = some key.name ∧
      ((key.isPrimaryKey ∧ ∀ other ∈ table.columns, other.isPrimaryKey → other = key) ∨
        ((∀ other ∈ table.columns, ¬other.isPrimaryKey) ∧ table.columns.head? = some key)) := by
  unfold Table.primaryKey?
  cases flagged : table.columns.find? Column.isPrimaryKey with
  | some key =>
      have present := List.mem_of_find?_eq_some flagged
      have isKey := List.find?_some flagged
      refine ⟨key, present, rfl, .inl ⟨isKey, ?_⟩⟩
      intro other member otherIsKey
      have keyListed := List.mem_filter.mpr ⟨present, isKey⟩
      have otherListed := List.mem_filter.mpr ⟨member, otherIsKey⟩
      have keyed := valid.keyed
      rw [Table.flaggedKeys, List.length_map] at keyed
      obtain ⟨only, keys⟩ := List.length_eq_one_iff.mp
        (keyed.antisymm (List.length_pos_of_mem keyListed))
      rw [keys, List.mem_singleton] at keyListed otherListed
      rw [keyListed, otherListed]
  | none =>
      obtain ⟨first, others, columns⟩ := List.exists_cons_of_ne_nil valid.listed
      have unflagged : ∀ other ∈ table.columns, ¬other.isPrimaryKey := List.find?_eq_none.mp flagged
      exact ⟨first, by simp [columns], by simp [Table.firstColumn?, columns],
        .inr ⟨unflagged, by simp [columns]⟩⟩

end

/-! ## Selecting a table -/

theorem table_found_iff (schema : Schema) (name : String) (table : Table) :
    schema.table? name = some table ↔
      ∃ before after, schema.tables = before ++ table :: after ∧ table.name = name ∧
        ∀ other ∈ before, other.name ≠ name := by
  rw [Schema.table?, List.find?_eq_some_iff_append]
  constructor
  · rintro ⟨named, before, after, split, first⟩
    exact ⟨before, after, split, beq_iff_eq.mp named, by simpa using first⟩
  · rintro ⟨before, after, split, named, first⟩
    exact ⟨beq_iff_eq.mpr named, before, after, split, by simpa using first⟩

theorem table_missing_iff (schema : Schema) (name : String) :
    schema.table? name = none ↔ ∀ table ∈ schema.tables, table.name ≠ name := by
  simp [Schema.table?]

theorem select_of_found {schema : Schema} {name : String} {table : Table}
    (found : schema.table? name = some table) :
    schema.select name = do
      table.validate
      return table := by
  have present : schema.tables ≠ [] := by
    intro bare
    rw [Schema.table?, bare] at found
    cases found
  simp [Schema.select, present, found]

theorem select_answers (schema : Schema) (name : String) (answer : Except SchemaError Table) :
    schema.select name = answer ↔ schema.Answers name answer := by
  constructor
  · rintro rfl
    by_cases bare : schema.tables = []
    · have none : schema.select name = .error .noTables := by simp [Schema.select, bare]
      rw [none]
      exact .noTables bare
    cases found : schema.table? name with
    | none =>
        have missing : schema.select name = .error (.tableNotFound name) := by
          simp [Schema.select, bare, found]
        rw [missing]
        exact .notFound bare ((table_missing_iff schema name).mp found)
    | some table =>
        obtain ⟨before, after, split, named, first⟩ := (table_found_iff schema name table).mp found
        rw [select_of_found found]
        exact .found split named first (validate_judged table)
  · intro answers
    cases answers with
    | noTables bare => simp [Schema.select, bare]
    | notFound present unnamed =>
        have missing := (table_missing_iff schema name).mpr unnamed
        simp [Schema.select, present, missing]
    | found split named first judged =>
        rw [select_of_found ((table_found_iff schema name _).mpr ⟨_, _, split, named, first⟩)]
        exact (judged_iff _).mp judged

/-- A schema answers for a name with the first fault that it has there, or with the first table of
the name. That table finds each of its columns by name, has a key, and lets every question be
parsed if it has a name at all. -/
theorem first_table_selected_or_faulted (schema : Schema) (name : String) :
    (∀ answer, schema.select name = answer ↔ schema.Answers name answer) ∧
    ∀ table, schema.select name = .ok table →
      (table.columns.map Column.name).Nodup ∧
      (∀ column ∈ table.columns, table.column? column.name = some column) ∧
      (∃ key ∈ table.columns, table.primaryKey? = some key.name ∧
        ((key.isPrimaryKey ∧ ∀ other ∈ table.columns, other.isPrimaryKey → other = key) ∨
          ((∀ other ∈ table.columns, ¬other.isPrimaryKey) ∧ table.columns.head? = some key))) ∧
      (table.name ≠ "" → ∀ (analyze : String → Analysis) (options : Options) (question : String),
        ∃ query, parseWith analyze table options question = .ok query) := by
  refine ⟨select_answers schema name, ?_⟩
  intro table selected
  have valid : table.Valid := by
    cases (select_answers schema name _).mp selected with
    | found split named first judged => exact judged_valid judged
  refine ⟨valid.distinct, fun column listed => valid_column_found valid listed,
    valid_primary_key valid, ?_⟩
  intro named analyze options question
  exact ⟨_, parse_with_available analyze options question named valid.listed⟩

def twiceListed : Schema where
  tables := [
    ⟨"update", [⟨"title", .text, false, []⟩, ⟨"id", .integer, true, []⟩]⟩,
    ⟨"update", [⟨"id", .integer, true, []⟩, ⟨"id", .text, true, []⟩]⟩]

theorem second_table_of_name_ignored :
    ∃ table, twiceListed.select "update" = .ok table ∧ table.name ≠ "" ∧
      table.column? "title" = some ⟨"title", .text, false, []⟩ ∧
      (∃ key, table.primaryKey? = some key) ∧
      ∃ query, parse table {} "most updates" = .ok query := by
  obtain ⟨_, guarantees⟩ := first_table_selected_or_faulted twiceListed "update"
  have selected : twiceListed.select "update" = .ok (twiceListed.tables.headI) := rfl
  obtain ⟨_, found, ⟨key, _, primary, _⟩, parsed⟩ := guarantees _ selected
  refine ⟨_, selected, by decide, found ⟨"title", .text, false, []⟩ (by decide),
    ⟨key.name, primary⟩, ?_⟩
  exact parsed (by decide) _ {} "most updates"

end TableTalk.Catalog
