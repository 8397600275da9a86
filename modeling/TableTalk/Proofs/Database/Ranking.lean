import TableTalk.Proofs.Database.Grouping

/-!
# Rankings

The values of a column with the numbers of their rows, the greatest numbers first, up to a limit.
Groups that are sorted by their sizes and cut off are such a ranking.
-/

namespace TableTalk.Database

set_option autoImplicit false

/-- How many rows have this value and count. -/
def tallyOf (value : Row → Cell) (counts : Row → Bool) (rows : List Row) (cell : Cell) : Nat :=
  rows.countP fun row => value row = cell && counts row

/-- A ranking of the values of some rows: it holds each value once, with its number of rows, and
leaves out only values with no greater numbers, and none of them below its limit. -/
structure Ranks (value : Row → Cell) (counts : Row → Bool) (rows : List Row) (limit : Nat)
    (ranking : List (Cell × Nat)) : Prop where
  limited : ranking.length ≤ limit
  distinct : (ranking.map Prod.fst).Nodup
  found : ∀ entry ∈ ranking, ∃ row ∈ rows, value row = entry.1
  counted : ∀ entry ∈ ranking, entry.2 = tallyOf value counts rows entry.1
  descending : ranking.Pairwise fun earlier later => later.2 ≤ earlier.2
  greatest : ∀ row ∈ rows, value row ∉ ranking.map Prod.fst →
    ∀ entry ∈ ranking, tallyOf value counts rows (value row) ≤ entry.2
  complete : ranking.length < limit → ∀ row ∈ rows, value row ∈ ranking.map Prod.fst

def entryOf (value : Row → Cell) (counts : Row → Bool) (group : List Row) : Cell × Nat :=
  (value (group.headD []), group.countP counts)

def sortedByCount (entries : List (Cell × Nat)) : List (Cell × Nat) :=
  sortedDown (fun entry => .integer entry.2) entries

section

variable {value : Row → Cell} {counts : Row → Bool} {rows : List Row} {groups : List (List Row)}

theorem compare_exact_integers (first second : Nat) :
    ((Cell.integer first).compareExact (.integer second)).isLE ↔ first ≤ second := by
  have exact : ∀ n : Int, ¬(Cell.integer n).isReal := fun _ => Bool.false_ne_true
  have order : (Cell.integer first).compareExact (.integer second) =
      compare (first : Int) (second : Int) := by
    rw [← compare_eq_exact (exact first) (exact second)]
    rfl
  rw [order, Std.isLE_compare, Int.ofNat_le]

theorem sorted_by_count_descending (entries : List (Cell × Nat)) :
    (sortedByCount entries).Pairwise fun earlier later => later.2 ≤ earlier.2 := by
  apply (sorted_down_pairwise (fun entry => .integer entry.2) entries).imp
  exact fun below => (compare_exact_integers _ _).mp below

theorem entry_of_inside (counts : Row → Bool) (grouped : Grouped value rows groups)
    {group : List Row} (member : group ∈ groups) {row : Row} (inside : row ∈ group) :
    (entryOf value counts group).1 = value row := by
  cases group with
  | nil => cases inside
  | cons head rest => exact grouped.alike _ member head (List.mem_cons_self ..) row inside

theorem entries_sound (grouped : Grouped value rows groups) :
    ∀ entry ∈ groups.map (entryOf value counts),
      (∃ row ∈ rows, value row = entry.1) ∧ entry.2 = tallyOf value counts rows entry.1 := by
  intro entry listed
  obtain ⟨group, member, rfl⟩ := List.mem_map.mp listed
  obtain ⟨row, inside⟩ := List.exists_mem_of_ne_nil group fun empty =>
    grouped.nonempty (empty ▸ member)
  have same := entry_of_inside counts grouped member inside
  have known : row ∈ rows :=
    grouped.complete.mem_iff.mp (List.mem_flatten_of_mem member inside)
  refine ⟨⟨row, known, same.symm⟩, ?_⟩
  rw [same]
  exact (grouped_count grouped member inside counts).symm

theorem entries_complete (grouped : Grouped value rows groups) {row : Row} (listed : row ∈ rows) :
    (value row, tallyOf value counts rows (value row)) ∈ groups.map (entryOf value counts) := by
  obtain ⟨group, member, inside⟩ := List.mem_flatten.mp (grouped.complete.mem_iff.mpr listed)
  have entered : (entryOf value counts group).1 = value row :=
    entry_of_inside counts grouped member inside
  refine List.mem_map.mpr ⟨group, member, Prod.ext entered ?_⟩
  exact (grouped_count grouped member inside counts).symm

theorem entries_distinct (counts : Row → Bool) (grouped : Grouped value rows groups) :
    ((groups.map (entryOf value counts)).map Prod.fst).Nodup := by
  rw [List.map_map]
  apply List.pairwise_map.mpr
  apply grouped.apart.imp_of_mem
  intro earlier later earlierListed laterListed apart
  obtain ⟨first, firstInside⟩ := List.exists_mem_of_ne_nil earlier fun empty =>
    grouped.nonempty (empty ▸ earlierListed)
  obtain ⟨second, secondInside⟩ := List.exists_mem_of_ne_nil later fun empty =>
    grouped.nonempty (empty ▸ laterListed)
  have firstSame := entry_of_inside counts grouped earlierListed firstInside
  have secondSame := entry_of_inside counts grouped laterListed secondInside
  change (entryOf value counts earlier).1 ≠ (entryOf value counts later).1
  rw [firstSame, secondSame]
  exact apart first firstInside second secondInside

/-- Sorted by their sizes and cut off, the groups are a ranking. -/
theorem groups_rank (grouped : Grouped value rows groups) (limit : Nat) :
    Ranks value counts rows limit
      ((sortedByCount (groups.map (entryOf value counts))).take limit) := by
  let sorted := sortedByCount (groups.map (entryOf value counts))
  have same : sorted.Perm (groups.map (entryOf value counts)) := sorted_down_perm _ _
  have descending : sorted.Pairwise fun earlier later => later.2 ≤ earlier.2 :=
    sorted_by_count_descending _
  have sound : ∀ entry ∈ sorted.take limit, _ := fun entry member =>
    entries_sound grouped entry (same.mem_iff.mp (List.mem_of_mem_take member))
  have listed : ∀ row ∈ rows, (value row, tallyOf value counts rows (value row)) ∈ sorted :=
    fun row member => same.mem_iff.mpr (entries_complete grouped member)
  refine ⟨List.length_take_le _ _, ?_, fun entry member => (sound entry member).1,
    fun entry member => (sound entry member).2, descending.sublist (List.take_sublist _ _), ?_, ?_⟩
  · have distinct := (same.map Prod.fst).nodup_iff.mpr (entries_distinct counts grouped)
    exact distinct.sublist ((List.take_sublist limit sorted).map Prod.fst)
  · intro row member omitted entry ranked
    -- What is not among the first entries stands behind all of them.
    have whole := List.take_append_drop limit sorted
    have position := listed row member
    rw [← whole] at position descending
    rcases List.mem_append.mp position with early | late
    · exact absurd (List.mem_map_of_mem early) omitted
    · exact (List.pairwise_append.mp descending).2.2 entry ranked _ late
  · intro short row member
    have uncut : sorted.take limit = sorted := by
      apply List.take_of_length_le
      change (sorted.take limit).length < limit at short
      rw [List.length_take] at short
      omega
    rw [uncut]
    exact List.mem_map_of_mem (listed row member)

end

end TableTalk.Database
