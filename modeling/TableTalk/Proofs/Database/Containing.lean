import Mathlib.Data.List.TakeWhile
import TableTalk.Proofs.Database.Patterns
import TableTalk.Proofs.Database.Selecting

/-!
# Columns that contain a value

What the value of a CONTAINS filter means. It is bound between two percent signs and read as a
pattern: the wildcards in it are wildcards, and its first null character ends it. A text that
contains the value is always found, and values without wildcards find nothing else.
-/

namespace TableTalk.Sql

set_option autoImplicit false

/-! ## Conditions joined by AND -/

def Expr.conjuncts : Expr → List Expr
  | .binary .and earlier last => earlier.conjuncts ++ [last]
  | condition => [condition]

def Select.conjuncts (select : Select) : List Expr :=
  select.condition.toList.flatMap Expr.conjuncts

end TableTalk.Sql

namespace TableTalk.Database

open TableTalk.Sql
open TableTalk.Text

set_option autoImplicit false

theorem filtered_conjuncts (select : Select) {condition : Expr}
    (single : condition.conjuncts = [condition]) :
    (select.filter condition).conjuncts = select.conjuncts ++ [condition] := by
  cases earlier : select.condition with
  | none => simp [Select.conjuncts, Select.filter, earlier, single]
  | some first => simp [Select.conjuncts, Select.filter, earlier, Expr.conjuncts]

theorem folded_conjuncts {conditions : List Expr} (select : Select)
    (single : ∀ condition ∈ conditions, condition.conjuncts = [condition]) :
    (conditions.foldl Select.filter select).conjuncts = select.conjuncts ++ conditions := by
  induction conditions generalizing select with
  | nil => simp
  | cons condition conditions ih =>
      rw [List.forall_mem_cons] at single
      rw [List.foldl_cons, ih _ single.2, filtered_conjuncts select single.1, List.append_assoc,
        List.singleton_append]

theorem bound_condition_single (filter : Filter) (index : Nat) :
    (filter.bound.condition index).conjuncts = [filter.bound.condition index] := by
  unfold Filter.bound
  cases filter.operator with
  | _ => rfl

/-- Each filter has its own condition and its own parameter in a compiled statement. -/
theorem compiled_filter {table : Catalog.Table} {options : CompileOptions} {query : Query}
    {statement : Statement} {place : Nat} {filter : Filter}
    (compiled : compile table options query = .ok statement)
    (filtered : query.filters[place]? = some filter) :
    statement.select.conjuncts[place]? = some (filter.bound.condition (place + 1)) ∧
      statement.parameters[place]? = some (.text filter.bound.value) := by
  obtain ⟨_, _, rfl⟩ := compile_eq_ok compiled
  have bound : (query.normalForm table).filters[place]? = some filter.bound := by
    simp [Query.normalForm, filtered]
  constructor
  · have single : ∀ condition ∈ conditionsFrom 1 (query.normalForm table).filters,
        condition.conjuncts = [condition] := by
      intro condition member
      obtain ⟨⟨other, index⟩, listed, rfl⟩ := List.mem_map.mp member
      obtain ⟨source, _, rfl⟩ := List.mem_map.mp (List.fst_mem_of_mem_zipIdx listed)
      exact bound_condition_single source index
    rw [NormalForm.statement, NormalForm.select, folded_conjuncts _ single]
    simp [Select.conjuncts, conditionsFrom, List.getElem?_zipIdx, bound, Nat.add_comm]
  · exact filter_parameter bound

/-! ## Texts as patterns see them -/

/-- A text without null characters. -/
def IsWhole (text : String) : Prop := ∀ c ∈ text.toList, c.toNat ≠ 0

instance (text : String) : Decidable (IsWhole text) :=
  inferInstanceAs (Decidable (∀ c ∈ text.toList, c.toNat ≠ 0))

/-- The characters up to the first null character. -/
def visible (text : String) : List Char := text.toList.takeWhile fun c => c.toNat ≠ 0

/-- A text contains a value, up to the case of the letters `a` to `z`. -/
def Contains (value text : String) : Prop :=
  value.toList.map Char.toLower <:+: text.toList.map Char.toLower

/-- Some part of a text is like a value, or its end if the value is cut off. -/
def HasPartLike (value text : String) : Prop :=
  ∃ part, part <:+: visible text ∧ (¬IsWhole value → part <:+ visible text) ∧
    Like (visible value) part

theorem visible_eq_iff {text : String} : visible text = text.toList ↔ IsWhole text := by
  unfold visible IsWhole
  simp only [List.takeWhile_eq_self_iff, decide_eq_true_eq]

/-- The last percent sign is behind the first null character, if there is one. -/
theorem visible_between_percents (value : String) :
    visible ("%" ++ value ++ "%") =
      '%' :: (visible value ++ if IsWhole value then ['%'] else []) := by
  have whole : (visible value).length = value.toList.length ↔ IsWhole value := by
    rw [← visible_eq_iff]
    exact ⟨(List.takeWhile_prefix _).eq_of_length, congrArg List.length⟩
  have chars : ("%" ++ value ++ "%").toList = '%' :: (value.toList ++ ['%']) := by simp
  rw [visible, chars, List.takeWhile_cons_of_pos rfl, List.takeWhile_append]
  congr 1
  rw [← visible, if_congr whole rfl rfl]
  split
  · rename_i cut
    rw [visible_eq_iff.mpr cut]
    rfl
  · rw [List.append_nil]

theorem like_shown_iff (value text : String) :
    Like (visible ("%" ++ value ++ "%")) (visible text) ↔ HasPartLike value text := by
  rw [visible_between_percents]
  by_cases whole : IsWhole value
  · simp [whole, like_between_percents_iff, HasPartLike]
  · rw [if_neg whole, List.append_nil, like_percent_iff]
    constructor
    · rintro ⟨rest, last, like⟩
      exact ⟨rest, last.isInfix, fun _ => last, like⟩
    · rintro ⟨part, _, last, like⟩
      exact ⟨part, last whole, like⟩

/-! ## Values without wildcards -/

theorem sign_of_contained {value text : String} {c : Char} (contained : Contains value text)
    (fixed : c.toLower = c) (before : c.toNat < 97) (member : c ∈ value.toList) :
    c ∈ text.toList := by
  have lowered : c.toLower ∈ text.toList.map Char.toLower :=
    contained.subset (List.mem_map_of_mem member)
  obtain ⟨d, listed, same⟩ := List.mem_map.mp lowered
  rwa [← eq_of_to_lower_eq before (same.trans fixed)]

theorem whole_of_contained {value text : String} (contained : Contains value text)
    (whole : IsWhole text) : IsWhole value := by
  intro c member null
  have fixed : c.toLower = c := to_lower_unmoved (by omega)
  exact whole c (sign_of_contained contained fixed (by omega) member) null

theorem has_part_like_of_contains {value text : String} (whole : IsWhole text)
    (contained : Contains value text) : HasPartLike value text := by
  have wholeValue := whole_of_contained contained whole
  obtain ⟨part, inside, same⟩ := List.infix_map_iff.mp contained
  refine ⟨part, ?_, fun cut => absurd wholeValue cut, ?_⟩
  · rwa [visible_eq_iff.mpr whole]
  · rw [visible_eq_iff.mpr wholeValue]
    exact like_of_same_letters same

theorem contains_of_has_part_like {value text : String} (wholeValue : IsWhole value)
    (noPercent : '%' ∉ value.toList) (noUnderscore : '_' ∉ value.toList) (whole : IsWhole text)
    (found : HasPartLike value text) : Contains value text := by
  obtain ⟨part, inside, _, like⟩ := found
  rw [visible_eq_iff.mpr whole] at inside
  rw [visible_eq_iff.mpr wholeValue] at like
  exact List.infix_map_iff.mpr ⟨part, inside, same_letters_of_like noPercent noUnderscore like⟩

/-- A text without wildcards and null characters that the value finds. -/
def exemplarText (value : String) : String := String.ofList (exemplar (visible value))

theorem exemplar_text_member {value : String} {c : Char}
    (member : c ∈ (exemplarText value).toList) :
    (c ≠ '%' ∧ c ≠ '_') ∧ (c = 'x' ∨ c ∈ visible value) := by
  rw [exemplarText, String.toList_ofList] at member
  exact exemplar_member member

theorem exemplar_text_whole (value : String) : IsWhole (exemplarText value) := by
  intro c member
  rcases (exemplar_text_member member).2 with rfl | shown
  · decide
  · simpa using List.mem_takeWhile_imp shown

theorem exemplar_text_found (value : String) : HasPartLike value (exemplarText value) := by
  refine ⟨exemplar (visible value), ?_⟩
  rw [visible_eq_iff.mpr (exemplar_text_whole value), exemplarText, String.toList_ofList]
  exact ⟨List.infix_rfl, fun _ => List.suffix_rfl, like_exemplar _⟩

theorem finds_containing_iff (value : String) :
    (∀ text, IsWhole text → (HasPartLike value text ↔ Contains value text)) ↔
      IsWhole value ∧ '%' ∉ value.toList ∧ '_' ∉ value.toList := by
  constructor
  · intro agree
    have whole := exemplar_text_whole value
    have contained := (agree (exemplarText value) whole).mp (exemplar_text_found value)
    refine ⟨whole_of_contained contained whole, fun percent => ?_, fun underscore => ?_⟩
    · have listed := sign_of_contained contained rfl (by decide) percent
      exact (exemplar_text_member listed).1.1 rfl
    · have listed := sign_of_contained contained rfl (by decide) underscore
      exact (exemplar_text_member listed).1.2 rfl
  · rintro ⟨wholeValue, noPercent, noUnderscore⟩ text whole
    exact ⟨contains_of_has_part_like wholeValue noPercent noUnderscore whole,
      has_part_like_of_contains whole⟩

/-! ## Evaluating the condition -/

theorem meets_like {scope : Scope} {row : Row} {name pattern text : String} {index : Nat}
    {column : StoredColumn} (found : scope.table.column? name = some column)
    (stored : scope.table.value name row = .text text)
    (bound : scope.parameters.getD (index - 1) .null = .text pattern) :
    scope.meets row (.binary .like (.column name) (.parameter index)) =
      .ok (matchesPattern (visible pattern) (visible text)) := by
  have value : scope.scalar row (.binary .like (.column name) (.parameter index)) =
      .ok (ofTruth (some (matchesPattern (visible pattern) (visible text)))) := by
    rw [Scope.scalar, scalar_column found, Scope.scalar, bound, stored]
    rfl
  rw [meets_of_truth value]
  simp

/-- The condition of a CONTAINS filter holds of the texts with a part that the value matches as a
pattern. Among the texts without null characters, it holds of all that contain the value, and of no
others just if the value has no null characters and no wildcards. -/
theorem contains_filter_reads_wildcards {table : Catalog.Table} {options : CompileOptions}
    {query : Query} {statement : Statement} {place : Nat} {filter : Filter}
    (compiled : compile table options query = .ok statement)
    (filtered : query.filters[place]? = some filter) (contains : filter.operator = .contains) :
    ∃ condition, statement.select.conjuncts[place]? = some condition ∧
      condition = .binary .like (.column filter.column) (.parameter (place + 1)) ∧
      statement.parameters[place]? = some (.text ("%" ++ filter.value ++ "%")) ∧
      (∀ (scope : Scope) (row : Row) (column : StoredColumn) (text : String),
        scope.parameters = statement.parameters.map Cell.ofValue →
        scope.table.column? filter.column = some column →
        scope.table.value filter.column row = .text text →
        ∃ met, scope.meets row condition = .ok met ∧
          (met = true ↔ HasPartLike filter.value text) ∧
          (IsWhole text → Contains filter.value text → met = true)) ∧
      ((∀ text, IsWhole text → (HasPartLike filter.value text ↔ Contains filter.value text)) ↔
        IsWhole filter.value ∧ '%' ∉ filter.value.toList ∧ '_' ∉ filter.value.toList) := by
  have form : filter.bound = ⟨filter.column, .like, "%" ++ filter.value ++ "%"⟩ := by
    rw [Filter.bound, contains]
  obtain ⟨listed, bound⟩ := compiled_filter compiled filtered
  rw [form] at listed bound
  refine ⟨_, listed, rfl, bound, ?_, finds_containing_iff filter.value⟩
  intro scope row column text parameters found stored
  have pattern : scope.parameters.getD (place + 1 - 1) .null =
      .text ("%" ++ filter.value ++ "%") := by
    rw [parameters, List.getD_eq_getElem?_getD, Nat.add_sub_cancel, List.getElem?_map, bound]
    rfl
  have exactly : matchesPattern (visible ("%" ++ filter.value ++ "%")) (visible text) = true ↔
      HasPartLike filter.value text := matches_iff_like.trans (like_shown_iff filter.value text)
  exact ⟨_, meets_like found stored pattern, exactly, fun whole contained =>
    exactly.mpr (has_part_like_of_contains whole contained)⟩

def titles : Catalog.Table where
  name := "update"
  columns := [{ name := "title", type := .text }]

def titlesContaining (value : String) : Query where
  selectColumns := ["title"]
  filters := [{ column := "title", operator := .contains, value }]
  targetTable := "update"

def titlesStatement (value : String) : Statement :=
  ((titlesContaining value).normalForm titles).statement "update" .sqlite

def titleScope (value title : String) : Scope where
  table := .ofRows titles [[.text title]]
  dialect := .sqlite
  parameters := (titlesStatement value).parameters.map Cell.ofValue

theorem titles_compiled (value : String) :
    compile titles {} (titlesContaining value) = .ok (titlesStatement value) := rfl

theorem wildcards_skip_and_stand_in :
    compile titles {} (titlesContaining "100%_done") = .ok (titlesStatement "100%_done") ∧
      (titlesContaining "100%_done").filters[0]? = some ⟨"title", .contains, "100%_done"⟩ ∧
      ∃ condition, (titlesStatement "100%_done").select.conjuncts[0]? = some condition ∧
        (titleScope "100%_done" "100 of 120 done").meets [.text "100 of 120 done"] condition =
          .ok true ∧
        HasPartLike "100%_done" "100 of 120 done" ∧
        ¬∀ text, IsWhole text → (HasPartLike "100%_done" text ↔ Contains "100%_done" text) := by
  have compiled := titles_compiled "100%_done"
  have filtered : (titlesContaining "100%_done").filters[0]? =
      some ⟨"title", .contains, "100%_done"⟩ := rfl
  obtain ⟨_, listed, rfl, _, each, only⟩ := contains_filter_reads_wildcards compiled filtered rfl
  obtain ⟨_, met, like, _⟩ := each (titleScope "100%_done" "100 of 120 done")
    [.text "100 of 120 done"] ⟨"title", some .text⟩ "100 of 120 done" rfl rfl rfl
  cases met
  refine ⟨compiled, filtered, _, listed, rfl, like.mp rfl, fun agree => ?_⟩
  exact absurd (only.mp agree).2.1 (by decide)

/-- The percent sign of a value skips text, and so the value is found where it does not stand. -/
theorem percent_sign_not_literal :
    compile titles {} (titlesContaining "100%") = .ok (titlesStatement "100%") ∧
      (titleScope "100%" "1000 users").selectRows (titlesStatement "100%").select.condition =
        .ok [[.text "1000 users"]] ∧
      ¬Contains "100%" "1000 users" := by
  refine ⟨titles_compiled "100%", rfl, ?_⟩
  unfold Contains
  decide

end TableTalk.Database
