import Mathlib.Data.List.Dedup
import Mathlib.Data.List.Forall2
import TableTalk.Database.Outcome
import TableTalk.Proofs.Database.Order
import TableTalk.Proofs.Outcome
import TableTalk.Query.Compiler

/-!
# Rows and their records

A row of an answer has one value for each projected expression. Its record has one field for each
name among the columns, and in it the last value of that name; so a value is lost if and only if
a later column has the name of its column.
-/

namespace TableTalk.Database

open TableTalk.Sql

set_option autoImplicit false

section

variable {fields : List (String × Document.Value)} {name other : String}
variable {value found : Document.Value}

/-! ## Fields -/

theorem insert_field_names :
    other ∈ (insertField name value fields).map Prod.fst ↔
      other = name ∨ other ∈ fields.map Prod.fst := by
  induction fields with
  | nil => simp [insertField]
  | cons field rest ih =>
      rw [insertField]
      split_ifs with before same
      · simp
      · simp [← same]
      · simp only [List.map_cons, List.mem_cons, ih]
        exact or_left_comm

theorem insert_field_ordered (ordered : (fields.map Prod.fst).Pairwise (· < ·)) :
    ((insertField name value fields).map Prod.fst).Pairwise (· < ·) := by
  induction fields with
  | nil => simp [insertField]
  | cons field rest ih =>
      obtain ⟨least, later⟩ := List.pairwise_cons.mp ordered
      rw [insertField]
      split_ifs with before same
      · refine List.pairwise_cons.mpr ⟨?_, ordered⟩
        intro key listed
        cases listed with
        | head => exact before
        | tail _ listed => exact String.lt_trans before (least key listed)
      · rw [List.map_cons, same]
        exact ordered
      · have after : field.1 < name :=
          Decidable.byContradiction fun unlike => same (String.le_antisymm unlike before)
        refine List.pairwise_cons.mpr ⟨?_, ih later⟩
        intro key listed
        rcases insert_field_names.mp listed with rfl | listed
        · exact after
        · exact least key listed

theorem lookup_cons_if (field : String × Document.Value) :
    (field :: fields).lookup other =
      if other = field.1 then some field.2 else fields.lookup other := by
  rw [List.lookup_cons]
  by_cases same : other = field.1
  · rw [if_pos same, beq_iff_eq.mpr same]
  · rw [if_neg same, beq_false_of_ne same]

/-- An inserted value takes the place of the one under its name; all others stay. -/
theorem insert_field_lookup :
    (insertField name value fields).lookup other =
      if other = name then some value else fields.lookup other := by
  induction fields with
  | nil => exact lookup_cons_if (name, value)
  | cons field rest ih =>
      rw [insertField, lookup_cons_if field]
      by_cases before : name < field.1
      · rw [if_pos before, lookup_cons_if, lookup_cons_if]
      · rw [if_neg before]
        by_cases equal : name = field.1
        · rw [if_pos equal, lookup_cons_if, ← equal]
          split_ifs <;> rfl
        · rw [if_neg equal, lookup_cons_if, ih]
          split_ifs with first same
          · exact absurd (same.symm.trans first) equal
          · rfl
          · rfl
          · rfl

end

/-! ## Records -/

def LastUnder (columns : List String) (row : Row) (name : String) (value : Document.Value) :
    Prop :=
  ∃ i cell, columns[i]? = some name ∧ row[i]? = some cell ∧ name ∉ columns.drop (i + 1) ∧
    value = cell.toDocument

/-- The fields are the record of the row: there is one for each name, in the order of the names,
with the last value under it. -/
structure Recorded (columns : List String) (row : Row)
    (fields : List (String × Document.Value)) : Prop where
  width : row.length = columns.length
  ordered : (fields.map Prod.fst).Pairwise (· < ·)
  size : fields.length = columns.dedup.length
  held : ∀ name value, fields.lookup name = some value ↔ LastUnder columns row name value

section

variable {columns : List String} {row : Row} {start : List (String × Document.Value)}

theorem fold_ordered (entries : List (String × Cell))
    (ordered : (start.map Prod.fst).Pairwise (· < ·)) :
    ((entries.foldl (fun fields entry => insertField entry.1 entry.2.toDocument fields)
      start).map Prod.fst).Pairwise (· < ·) := by
  induction entries generalizing start with
  | nil => exact ordered
  | cons entry entries ih => exact ih (insert_field_ordered ordered)

theorem fold_names (entries : List (String × Cell)) (name : String) :
    name ∈ (entries.foldl (fun fields entry => insertField entry.1 entry.2.toDocument fields)
      start).map Prod.fst ↔ name ∈ entries.map Prod.fst ∨ name ∈ start.map Prod.fst := by
  induction entries generalizing start with
  | nil => simp
  | cons entry entries ih =>
      rw [List.foldl_cons, ih, insert_field_names, List.map_cons, List.mem_cons, or_left_comm,
        or_assoc]

theorem last_under_cons {column : String} {cell : Cell} (name : String)
    (value : Document.Value) :
    LastUnder (column :: columns) (cell :: row) name value ↔
      (name = column ∧ name ∉ columns ∧ value = cell.toDocument) ∨
        LastUnder columns row name value := by
  unfold LastUnder
  rw [← Nat.or_exists_add_one]
  simp [eq_comm]

/-- The values under a name replace each other; a name that is no column keeps its value. -/
theorem fold_held (width : row.length = columns.length) (name : String)
    (value : Document.Value) :
    ((columns.zip row).foldl (fun fields entry => insertField entry.1 entry.2.toDocument fields)
        start).lookup name = some value ↔
      LastUnder columns row name value ∨ name ∉ columns ∧ start.lookup name = some value := by
  induction columns generalizing row start with
  | nil => simp [LastUnder]
  | cons column columns ih =>
      cases row with
      | nil => cases width
      | cons cell row =>
          rw [List.zip_cons_cons, List.foldl_cons, ih (Nat.succ.inj width), insert_field_lookup,
            last_under_cons]
          by_cases same : name = column
          · simp [same, or_comm, eq_comm]
          · simp [same]

theorem record_recorded (width : row.length = columns.length) :
    Recorded columns row (record columns row) := by
  have ordered : ((record columns row).map Prod.fst).Pairwise (· < ·) :=
    fold_ordered (columns.zip row) .nil
  have names : ∀ name, name ∈ (record columns row).map Prod.fst ↔ name ∈ columns.dedup := by
    intro name
    rw [record, fold_names, List.map_fst_zip (Nat.le_of_eq width.symm)]
    simp
  have distinct : ((record columns row).map Prod.fst).Nodup := ordered.imp String.ne_of_lt
  refine ⟨width, ordered, ?_, ?_⟩
  · rw [← List.length_map Prod.fst]
    exact ((List.perm_ext_iff_of_nodup distinct columns.nodup_dedup).mpr names).length_eq
  · intro name value
    rw [record, fold_held width]
    simp

theorem Recorded.full_iff {fields : List (String × Document.Value)}
    (recorded : Recorded columns row fields) :
    fields.length = columns.length ↔ columns.Nodup := by
  rw [recorded.size, ← List.dedup_eq_self]
  constructor
  · exact (List.dedup_sublist columns).eq_of_length
  · exact congrArg List.length

end

/-! ## Answers -/

/-- The rows come back as records, which are complete just if no two columns have the same name. -/
structure Answer.Kept (answer : Answer) : Prop where
  recorded : List.Forall₂ (Recorded answer.columns) answer.rows answer.records
  complete : ∀ fields ∈ answer.records,
    fields.length = answer.columns.length ↔ answer.columns.Nodup

theorem answer_kept {answer : Answer}
    (widths : ∀ row ∈ answer.rows, row.length = answer.columns.length) : answer.Kept := by
  have recorded : ∀ row ∈ answer.rows, Recorded answer.columns row (record answer.columns row) :=
    fun row listed => record_recorded (widths row listed)
  refine ⟨List.forall₂_map_right_iff.mpr (List.forall₂_same.mpr recorded), ?_⟩
  intro fields listed
  obtain ⟨row, present, rfl⟩ := List.mem_map.mp listed
  exact (recorded row present).full_iff

/-- The values of the row are those of the expressions over a group, in their order. -/
def Scope.Projects (scope : Scope) (items : List SelectItem) (group : Group) (row : Row) : Prop :=
  List.Forall₂ (fun item cell => scope.grouped group item.expr = .ok cell) items row

theorem answer_projects {scope : Scope} {select : Select} {answer : Answer}
    (answered : scope.answer select = .ok answer) :
    answer.columns = (scope.items select).map scope.resultName ∧
      ∀ row ∈ answer.rows, ∃ group, scope.Projects (scope.items select) group row := by
  obtain ⟨limit, _, evaluated⟩ := except_bind_eq_ok answered
  split at evaluated
  · cases evaluated
    exact ⟨rfl, nofun⟩
  · obtain ⟨rows, _, selected⟩ := except_bind_eq_ok evaluated
    obtain ⟨groups, _, grouped⟩ := except_bind_eq_ok selected
    obtain ⟨sorted, _, ordered⟩ := except_bind_eq_ok grouped
    obtain ⟨projected, shown, whole⟩ := except_bind_eq_ok ordered
    cases whole
    refine ⟨rfl, ?_⟩
    intro row listed
    obtain ⟨group, _, computed⟩ := computed_of_mem shown listed
    exact ⟨group, related_of_map_all computed⟩

def Scope.ofStatement (table : StoredTable) (statement : Statement) : Scope :=
  ⟨table, statement.dialect, statement.parameters.map Cell.ofValue⟩

theorem execute_eq_ok {contents : Contents} {statement : Statement} {answer : Answer}
    (executed : contents.execute statement = .ok answer) :
    ∃ table, contents.table? (statement.select.source.getD "") = some table ∧
      statement.select.parameterCount = statement.parameters.length ∧
      (Scope.ofStatement table statement).answer statement.select = .ok answer := by
  unfold Contents.execute at executed
  dsimp only at executed
  split at executed
  · cases executed
  · next table found =>
      obtain ⟨_, _, counted⟩ := except_bind_eq_ok executed
      split at counted
      · cases counted
      · next count => exact ⟨table, found, not_not.mp count, counted⟩

/-- Any rows under any columns come back as their records. The answer to a statement is such
rows: the columns and the values are those of the projection, in its order. -/
theorem executed_rows_recorded :
    (∀ answer : Answer, (∀ row ∈ answer.rows, row.length = answer.columns.length) →
      answer.Kept) ∧
    ∀ (contents : Contents) (statement : Statement) (answer : Answer),
      contents.execute statement = .ok answer →
      ∃ table, contents.table? (statement.select.source.getD "") = some table ∧
        statement.select.parameterCount = statement.parameters.length ∧
        let scope := Scope.ofStatement table statement
        let items := scope.items statement.select
        answer.columns = items.map scope.resultName ∧
          (∀ row ∈ answer.rows, row.length = answer.columns.length ∧
            ∃ group, scope.Projects items group row) ∧
          answer.Kept := by
  refine ⟨fun _ widths => answer_kept widths, ?_⟩
  intro contents statement answer executed
  obtain ⟨table, found, count, answered⟩ := execute_eq_ok executed
  obtain ⟨columns, projected⟩ := answer_projects answered
  have widths : ∀ row ∈ answer.rows, row.length = answer.columns.length := by
    intro row listed
    obtain ⟨_, projects⟩ := projected row listed
    rw [columns, List.length_map, projects.length_eq]
  exact ⟨table, found, count, columns, fun row listed => ⟨widths row listed, projected row listed⟩,
    answer_kept widths⟩

def numbered : Catalog.Table := ⟨"update", [⟨"id", .integer, true, []⟩]⟩

def leastAndGreatest (least greatest : String) : Query where
  aggregations := [⟨.minimum, "id", some least⟩, ⟨.maximum, "id", some greatest⟩]
  targetTable := "update"

def numbers : Contents := ⟨[.ofRows numbered [[.integer 1], [.integer 3]]]⟩

theorem least_and_greatest_recorded :
    (Answer.mk ["note", "id", "note"] [[.null, .integer 1, .blob [0, 255]]]).Kept ∧
    ∃ statement answer, compile numbered {} (leastAndGreatest "least" "greatest") = .ok statement ∧
      numbers.execute statement = .ok answer ∧
      List.Forall₂ (Recorded ["least", "greatest"]) [[.integer 1, .integer 3]] answer.records ∧
      ∀ fields ∈ answer.records, fields.length = 2 := by
  obtain ⟨any, ofStatement⟩ := executed_rows_recorded
  refine ⟨any _ (by simp), ?_⟩
  have run : ((compile numbered {} (leastAndGreatest "least" "greatest")).toOption.bind
      fun statement => (numbers.execute statement).toOption.map fun answer =>
        (answer.columns, answer.rows)) =
          some (["least", "greatest"], [[.integer 1, .integer 3]]) := by
    decide +kernel
  obtain ⟨statement, compiled, executed⟩ := Option.bind_eq_some_iff.mp run
  obtain ⟨answer, answered, fields⟩ := Option.map_eq_some_iff.mp executed
  obtain ⟨columns, rows⟩ := Prod.mk.inj fields
  obtain ⟨_, _, _, _, _, recorded, complete⟩ := ofStatement _ _ _ (eq_ok_of_to_option answered)
  rw [columns, rows] at recorded
  rw [columns] at complete
  exact ⟨statement, answer, eq_ok_of_to_option compiled, eq_ok_of_to_option answered, recorded,
    fun fields listed => (complete fields listed).mpr (by decide)⟩

/-- Of two values under the same name, the record has the second one only. -/
theorem value_under_repeated_name_lost :
    ∃ statement answer, compile numbered {} (leastAndGreatest "n" "n") = .ok statement ∧
      statement.select.parameterCount = statement.parameters.length ∧
      numbers.execute statement = .ok answer ∧
      answer.columns = ["n", "n"] ∧ answer.rows = [[.integer 1, .integer 3]] ∧
      answer.records = [[("n", .integer 3)]] := by
  have run : ((compile numbered {} (leastAndGreatest "n" "n")).toOption.bind
      fun statement => (numbers.execute statement).toOption.map fun answer =>
        (statement.select.parameterCount, statement.parameters, answer.columns, answer.rows)) =
          some (0, [], ["n", "n"], [[.integer 1, .integer 3]]) := by
    decide +kernel
  obtain ⟨statement, compiled, executed⟩ := Option.bind_eq_some_iff.mp run
  obtain ⟨answer, answered, fields⟩ := Option.map_eq_some_iff.mp executed
  obtain ⟨count, parameters, columns, rows⟩ := by simpa only [Prod.mk.injEq] using fields
  refine ⟨statement, answer, eq_ok_of_to_option compiled, ?_, eq_ok_of_to_option answered, columns,
    rows, ?_⟩
  · rw [count, parameters]
    rfl
  · rw [Answer.records, columns, rows]
    rfl

end TableTalk.Database
