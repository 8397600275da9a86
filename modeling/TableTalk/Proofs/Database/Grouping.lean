import Mathlib.Data.List.SplitBy
import TableTalk.Proofs.Database.Order
import TableTalk.Proofs.Outcome

/-!
# Sorting and grouping

Rows that are sorted by a column fall into runs of one value each. Grouping by the column keeps
these runs, so each group holds all the rows of its value.
-/

namespace TableTalk.Database

open TableTalk.Sql

set_option autoImplicit false

/-- Groups of some items by their cells: each item is in one group, with all items of its cell. -/
structure Grouped {α : Type} (cell : α → Cell) (items : List α) (groups : List (List α)) :
    Prop where
  complete : groups.flatten.Perm items
  nonempty : [] ∉ groups
  alike : ∀ group ∈ groups, ∀ first ∈ group, ∀ second ∈ group, cell first = cell second
  apart : groups.Pairwise fun earlier later =>
    ∀ first ∈ earlier, ∀ second ∈ later, cell first ≠ cell second

section

variable {α β : Type} {cell : α → Cell} {items : List α} {groups : List (List α)}

/-! ## Sorting by one cell -/

def sortedDown (cell : α → Cell) (items : List α) : List α :=
  items.mergeSort fun first second => ((cell second).compareExact (cell first)).isLE

theorem sorted_down_perm (cell : α → Cell) (items : List α) :
    (sortedDown cell items).Perm items :=
  List.mergeSort_perm _ _

theorem sorted_down_pairwise (cell : α → Cell) (items : List α) :
    (sortedDown cell items).Pairwise fun earlier later =>
      ((cell later).compareExact (cell earlier)).isLE := by
  apply List.pairwise_mergeSort
  · intro first second third above below
    exact Std.TransCmp.isLE_trans below above
  · intro first second
    have swapped : (cell first).compareExact (cell second) =
        ((cell second).compareExact (cell first)).swap := Std.OrientedCmp.eq_swap
    rw [swapped]
    cases (cell second).compareExact (cell first) with
    | _ => rfl

theorem compare_single_keys {first second : Cell} (firstExact : ¬first.isReal)
    (secondExact : ¬second.isReal) :
    compareKeys ([first].zip [true]) [second] = second.compareExact first := by
  have order : compareKeys ([first].zip [true]) [second] = (first.compare second).swap.then .eq :=
    rfl
  rw [order, compare_eq_exact firstExact secondExact, ← Std.OrientedCmp.eq_swap]
  cases second.compareExact first with
  | _ => rfl

theorem sort_by_cell (exact : ∀ item ∈ items, ¬(cell item).isReal) :
    sortByKeys [true] (items.map fun item => ([cell item], item)) =
      (sortedDown cell items).map fun item => ([cell item], item) := by
  unfold sortByKeys sortedDown
  rw [List.map_mergeSort]
  intro first firstListed second secondListed
  rw [compare_single_keys (exact first firstListed) (exact second secondListed)]
  cases (cell second).compareExact (cell first) with
  | _ => rfl

/-! ## Runs of one cell -/

def runsDown (cell : α → Cell) (items : List α) : List (List α) :=
  (sortedDown cell items).splitBy fun first second => cell first == cell second

theorem alike_of_chain {group : List α}
    (chain : group.IsChain fun first second => cell first == cell second) :
    ∀ first ∈ group, ∀ second ∈ group, cell first = cell second := by
  have steps : (group.map cell).IsChain (· = ·) :=
    (List.isChain_map cell).mpr (chain.imp fun _ _ same => beq_iff_eq.mp same)
  have equal := List.isChain_iff_pairwise.mp steps
  induction group with
  | nil => exact fun _ absent => absurd absent List.not_mem_nil
  | cons head rest ih =>
      rw [List.map_cons, List.pairwise_cons] at equal
      obtain ⟨headSame, restSame⟩ := equal
      have fromHead : ∀ item ∈ head :: rest, cell item = cell head := by
        intro item member
        rcases List.mem_cons.mp member with rfl | later
        · rfl
        · exact (headSame _ (List.mem_map_of_mem later)).symm
      intro first firstListed second secondListed
      exact (fromHead first firstListed).trans (fromHead second secondListed).symm

/-- Where one run ends the cell falls, and it never rises again. -/
theorem runs_apart (exact : ∀ item ∈ groups.flatten, ¬(cell item).isReal)
    (alike : ∀ group ∈ groups, ∀ first ∈ group, ∀ second ∈ group, cell first = cell second)
    (sorted : groups.flatten.Pairwise fun earlier later =>
      ((cell later).compareExact (cell earlier)).isLE)
    (breaks : groups.IsChain fun earlier later =>
      ∃ (some : earlier ≠ []) (others : later ≠ []),
        (cell (earlier.getLast some) == cell (later.head others)) = false) :
    groups.Pairwise fun earlier later =>
      ∀ first ∈ earlier, ∀ second ∈ later, cell first ≠ cell second := by
  induction groups with
  | nil => exact .nil
  | cons group rest ih =>
      rw [List.flatten_cons] at exact sorted
      obtain ⟨_, restSorted, across⟩ := List.pairwise_append.mp sorted
      have restApart := ih (fun item member => exact item (List.mem_append_right _ member))
        (fun other member => alike other (List.mem_cons_of_mem _ member)) restSorted breaks.tail
      refine List.pairwise_cons.mpr ⟨?_, restApart⟩
      intro later laterListed first firstListed second secondListed same
      cases rest with
      | nil => cases laterListed
      | cons next others =>
          obtain ⟨⟨some, nextSome, broken⟩, _⟩ := List.isChain_cons_cons.mp breaks
          obtain ⟨head, tail, rfl⟩ := List.exists_cons_of_ne_nil nextSome
          -- The cell falls from `last` to `head` and cannot come back to that of the first run.
          let last := group.getLast some
          have lastListed : last ∈ group := List.getLast_mem some
          have headListed : head ∈ ((head :: tail) :: others).flatten := List.mem_cons_self ..
          have falls : ((cell head).compareExact (cell last)).isLE :=
            across last lastListed head headListed
          have stays : ((cell second).compareExact (cell head)).isLE := by
            have member : second ∈ head :: (tail ++ others.flatten) :=
              List.mem_flatten_of_mem laterListed secondListed
            rcases List.mem_cons.mp member with rfl | below
            · have reflexive : (cell second).compareExact (cell second) = .eq :=
                Std.ReflCmp.compare_self
              rw [reflexive]
              rfl
            · exact (List.pairwise_cons.mp restSorted).1 second below
          have lastSame : cell last = cell second :=
            (alike group (List.mem_cons_self ..) last lastListed first firstListed).trans same
          rw [← lastSame] at stays
          have equal : cell head = cell last := by
            apply eq_of_compare_exact
            · exact exact head (List.mem_append_right _ headListed)
            · exact exact last (List.mem_append_left _ lastListed)
            · exact Std.OrientedCmp.isLE_antisymm falls stays
          exact beq_eq_false_iff_ne.mp broken equal.symm

theorem runs_down_grouped (exact : ∀ item ∈ items, ¬(cell item).isReal) :
    Grouped cell items (runsDown cell items) := by
  have whole : (runsDown cell items).flatten = sortedDown cell items := List.flatten_splitBy _ _
  have alike : ∀ group ∈ runsDown cell items, ∀ first ∈ group, ∀ second ∈ group,
      cell first = cell second :=
    fun group member => alike_of_chain (List.isChain_of_mem_splitBy member)
  refine ⟨?_, List.nil_notMem_splitBy _ _, alike, runs_apart ?_ alike ?_ ?_⟩
  · rw [whole]
    exact sorted_down_perm cell items
  · intro item member
    rw [whole] at member
    exact exact item ((sorted_down_perm cell items).mem_iff.mp member)
  · rw [whole]
    exact sorted_down_pairwise cell items
  · exact List.isChain_getLast_head_splitBy (fun first second => cell first == cell second)
      (sortedDown cell items)

/-! ## Grouping rows -/

theorem split_by_map {same : β → β → Bool} {other : α → α → Bool} {change : α → β}
    (agree : ∀ first ∈ items, ∀ second ∈ items,
      same (change first) (change second) = other first second) :
    (items.map change).splitBy same = (items.splitBy other).map (List.map change) := by
  have listed : ∀ group ∈ items.splitBy other, ∀ item ∈ group, item ∈ items := by
    intro group member item inside
    rw [← List.flatten_splitBy other items]
    exact List.mem_flatten_of_mem member inside
  apply List.splitBy_eq_iff.mpr
  refine ⟨?_, ?_, ?_, ?_⟩
  · rw [← List.map_flatten, List.flatten_splitBy]
  · simp
  · intro group member
    obtain ⟨source, sourceListed, rfl⟩ := List.mem_map.mp member
    apply (List.isChain_map change).mpr
    apply (List.isChain_of_mem_splitBy sourceListed).imp_of_mem_imp
    intro first second firstInside secondInside related
    rw [agree first (listed _ sourceListed _ firstInside) second
      (listed _ sourceListed _ secondInside)]
    exact related
  · apply (List.isChain_map (List.map change)).mpr
    apply (List.isChain_getLast_head_splitBy other items).imp_of_mem_imp
    rintro earlier later earlierListed laterListed ⟨some, others, broken⟩
    refine ⟨by simpa using some, by simpa using others, ?_⟩
    rw [List.getLast_map, List.head_map, agree]
    · exact broken
    · exact listed _ earlierListed _ (List.getLast_mem some)
    · exact listed _ laterListed _ (List.head_mem others)

theorem sorted_down_map (cell : β → Cell) (change : α → β) (items : List α) :
    (sortedDown (fun item => cell (change item)) items).map change =
      sortedDown cell (items.map change) := by
  apply List.map_mergeSort
  exact fun _ _ _ _ => rfl

theorem grouped_count (grouped : Grouped cell items groups) {group : List α}
    (member : group ∈ groups) {first : α} (inside : first ∈ group) (counts : α → Bool) :
    items.countP (fun item => cell item = cell first && counts item) = group.countP counts := by
  have alike := grouped.alike group member
  obtain ⟨before, after, rfl⟩ := List.append_of_mem member
  obtain ⟨_, fromGroup, toGroup⟩ := List.pairwise_append.mp grouped.apart
  have others : ∀ other : List (List α),
      (∀ part ∈ other, ∀ item ∈ part, cell item ≠ cell first) →
        other.flatten.countP (fun item => cell item = cell first && counts item) = 0 := by
    intro other unlike
    apply List.countP_eq_zero.mpr
    intro item listed
    obtain ⟨part, partListed, itemInside⟩ := List.mem_flatten.mp listed
    simp [unlike part partListed item itemInside]
  have earlier := others before fun part partListed item itemInside =>
    toGroup part partListed group (List.mem_cons_self ..) item itemInside first inside
  have later := others after fun part partListed item itemInside same =>
    (List.pairwise_cons.mp fromGroup).1 part partListed first inside item itemInside same.symm
  have own : group.countP (fun item => cell item = cell first && counts item) =
      group.countP counts := by
    apply List.countP_congr
    intro item itemInside
    simp [alike item itemInside first inside]
  rw [← grouped.complete.countP_eq, List.flatten_append, List.countP_append, List.flatten_cons,
    List.countP_append, earlier, later, own, Nat.zero_add, Nat.add_zero]

end

/-- Grouping by one column, as it will be sorted downwards, cuts the rows into runs. -/
theorem group_rows_eq {scope : Scope} {key : Expr} {cell : Row → Cell} {rows : List Row}
    (known : ∀ row ∈ rows, scope.scalar row key = .ok (cell row))
    (exact : ∀ row ∈ rows, ¬(cell row).isReal) :
    scope.groupRows [key] [true] rows = .ok (runsDown cell rows) := by
  have keyed : (rows.mapM fun row => do return (← [key].mapM (scope.scalar row), row)) =
      .ok (rows.map fun row => ([cell row], row)) := by
    apply map_all_eq_ok
    intro row listed
    rw [List.mapM_cons, known row listed]
    rfl
  have split : ((sortedDown cell rows).map fun row => ([cell row], row)).splitBy
      (fun first second => compareKeys (first.1.zip [true]) second.1 == .eq) =
        (runsDown cell rows).map (List.map fun row => ([cell row], row)) := by
    apply split_by_map
    intro first firstListed second secondListed
    have firstExact := exact first ((sorted_down_perm cell rows).mem_iff.mp firstListed)
    have secondExact := exact second ((sorted_down_perm cell rows).mem_iff.mp secondListed)
    rw [compare_single_keys firstExact secondExact, Bool.eq_iff_iff, beq_iff_eq, beq_iff_eq]
    constructor
    · exact fun same => (eq_of_compare_exact secondExact firstExact same).symm
    · intro same
      rw [same]
      exact Std.ReflCmp.compare_self
  have rowsBack : ((runsDown cell rows).map (List.map fun row => ([cell row], row))).map
      (List.map Prod.snd) = runsDown cell rows := by
    simp [Function.comp_def]
  unfold Scope.groupRows
  rw [keyed]
  change Except.ok (((sortByKeys [true] _).splitBy _).map (List.map Prod.snd)) = _
  rw [sort_by_cell exact, split, rowsBack]

end TableTalk.Database
