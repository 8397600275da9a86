import TableTalk.Proofs.Question.Filters

/-!
# Repeated filters

The rule that drops repeated filters walks over a draft once and remembers the keys that it
has met. What it leaves is, of each key, the filter that stands first, and these in their
order.
-/

namespace TableTalk.Question

open TableTalk.Text

set_option autoImplicit false

/-- No filter before this place has the key of the filter. -/
def FirstOfKey (filters : List Filter) (filter : Filter) (place : Nat) : Prop :=
  ∀ earlier ∈ filters.take place, earlier.key ≠ filter.key

instance (filters : List Filter) (filter : Filter) (place : Nat) :
    Decidable (FirstOfKey filters filter place) := by
  unfold FirstOfKey
  infer_instance

theorem key_eq_iff (first second : Filter) :
    first.key = second.key ↔ first.column = second.column ∧
      first.operator.name = second.operator.name ∧ lower first.value = lower second.value := by
  simp [Filter.key]

/-! ## The walk -/

/-- With the keys of all filters before it in mind, the walk keeps what stands first in the
whole list. -/
theorem first_of_each_key_at_places (before filters : List Filter)
    (seen : List (String × String × String))
    (known : ∀ key, key ∈ seen ↔ key ∈ before.map Filter.key) :
    firstOfEachKey seen filters =
      ((filters.zipIdx before.length).filter fun entry =>
        FirstOfKey (before ++ filters) entry.1 entry.2).map Prod.fst := by
  induction filters generalizing before seen with
  | nil => rfl
  | cons first others ih =>
      have standing : FirstOfKey (before ++ first :: others) first before.length ↔
          first.key ∉ seen := by
        rw [known, FirstOfKey, List.take_left]
        simp
      have shifted : before ++ first :: others = (before ++ [first]) ++ others := by simp
      have later : before.length + 1 = (before ++ [first]).length := by simp
      rw [firstOfEachKey, List.zipIdx_cons, List.filter_cons]
      by_cases repeated : first.key ∈ seen
      · rw [if_pos (List.contains_iff_mem.mpr repeated), if_neg (by simp [standing, repeated]),
          shifted, later]
        apply ih
        intro key
        rw [known, List.map_append, List.mem_append]
        have listed := (known _).mp repeated
        constructor
        · exact .inl
        · rintro (earlier | last)
          · exact earlier
          · rwa [List.mem_singleton.mp last]
      · rw [if_neg (mt List.contains_iff_mem.mp repeated), if_pos (by simp [standing, repeated]),
          List.map_cons, shifted, later]
        congr 1
        apply ih
        intro key
        rw [List.mem_cons, known, List.map_append, List.mem_append]
        simp [or_comm]

theorem first_of_each_key_fresh (seen : List (String × String × String))
    (filters : List Filter) : ∀ filter ∈ firstOfEachKey seen filters, filter.key ∉ seen := by
  induction filters generalizing seen with
  | nil => exact fun _ absent => absurd absent List.not_mem_nil
  | cons first others ih =>
      intro filter member
      rw [firstOfEachKey] at member
      split at member
      · exact ih seen filter member
      · rename_i unseen
        rcases List.mem_cons.mp member with rfl | later
        · exact mt List.contains_iff_mem.mpr unseen
        · exact fun known => ih _ filter later (List.mem_cons_of_mem _ known)

theorem first_of_each_key_distinct (seen : List (String × String × String))
    (filters : List Filter) :
    (firstOfEachKey seen filters).Pairwise fun earlier later => earlier.key ≠ later.key := by
  induction filters generalizing seen with
  | nil => exact .nil
  | cons first others ih =>
      rw [firstOfEachKey]
      split
      · exact ih seen
      · refine List.pairwise_cons.mpr ⟨?_, ih _⟩
        intro later member same
        apply first_of_each_key_fresh _ _ later member
        rw [same]
        exact List.mem_cons_self ..

theorem first_of_each_key_found (seen : List (String × String × String))
    (filters : List Filter) {key : String × String × String} (unmet : key ∉ seen) :
    (firstOfEachKey seen filters).filter (·.key == key) =
      (filters.find? (·.key == key)).toList := by
  induction filters generalizing seen with
  | nil => rfl
  | cons first others ih =>
      rw [firstOfEachKey, List.find?_cons]
      by_cases same : first.key = key
      · -- From here on the key has been met.
        have none : (firstOfEachKey (first.key :: seen) others).filter (·.key == key) = [] := by
          apply List.filter_eq_nil_iff.mpr
          intro later member again
          apply first_of_each_key_fresh _ _ later member
          rw [same, beq_iff_eq.mp again]
          exact List.mem_cons_self ..
        have unseen : ¬seen.contains first.key := by
          rw [same]
          exact mt List.contains_iff_mem.mp unmet
        rw [if_neg unseen, List.filter_cons, none]
        simp [same]
      · have other : (first.key == key) = false := beq_eq_false_iff_ne.mpr same
        rw [other]
        split
        · exact ih seen unmet
        · rw [List.filter_cons, other]
          apply ih
          exact List.not_mem_cons_of_ne_of_not_mem (Ne.symm same) unmet

/-! ## Drafts -/

/-- Dropping repeated filters changes nothing but the filters of a draft, and leaves of each
key the filter that stands first, in the order of the draft. -/
theorem first_filter_of_each_key_kept (context : Context) (draft : Draft) :
    let kept := (dropRepeatedFilters context draft).filters
    dropRepeatedFilters context draft = { draft with filters := kept } ∧
    kept = (draft.filters.zipIdx.filter fun entry =>
      FirstOfKey draft.filters entry.1 entry.2).map Prod.fst ∧
    kept.Sublist draft.filters ∧
    (kept.Pairwise fun earlier later =>
      ¬(earlier.column = later.column ∧ earlier.operator.name = later.operator.name ∧
        lower earlier.value = lower later.value)) ∧
    ∀ filter ∈ draft.filters, ∃ before first after,
      draft.filters = before ++ first :: after ∧ first.key = filter.key ∧
        (∀ other ∈ before, other.key ≠ filter.key) ∧
        kept.filter (·.key == filter.key) = [first] := by
  intro kept
  have places : kept = (draft.filters.zipIdx.filter fun entry =>
      FirstOfKey draft.filters entry.1 entry.2).map Prod.fst :=
    first_of_each_key_at_places [] draft.filters [] (by simp)
  refine ⟨rfl, places, ?_, ?_, ?_⟩
  · have fewer := (List.filter_sublist (p := fun entry : Filter × Nat =>
      decide (FirstOfKey draft.filters entry.1 entry.2)) (l := draft.filters.zipIdx)).map Prod.fst
    rwa [← places, List.zipIdx_map_fst] at fewer
  · apply (first_of_each_key_distinct [] draft.filters).imp
    intro earlier later
    exact mt (key_eq_iff earlier later).mpr
  · intro filter member
    have only : kept.filter (·.key == filter.key) =
        (draft.filters.find? (·.key == filter.key)).toList :=
      first_of_each_key_found [] draft.filters List.not_mem_nil
    have present : (draft.filters.find? (·.key == filter.key)).isSome := by
      rw [List.find?_isSome]
      exact ⟨filter, member, beq_self_eq_true filter.key⟩
    obtain ⟨first, found⟩ := Option.isSome_iff_exists.mp present
    obtain ⟨same, before, after, cut, others⟩ := List.find?_eq_some_iff_append.mp found
    refine ⟨before, first, after, cut, beq_iff_eq.mp same, ?_, by rw [only, found]; rfl⟩
    intro other listed
    simpa using others other listed

def spelledDraft : Draft where
  filters := [⟨"provider", .equals, "ÄRA"⟩, ⟨"provider", .contains, "ära"⟩,
    ⟨"provider", .equals, "ära"⟩, ⟨"title", .equals, "ära"⟩,
    ⟨"provider", .other "EQUALS", "ÄrA"⟩, ⟨"title", .equals, "Ära"⟩]

theorem earliest_spelling_kept :
    (dropRepeatedFilters default spelledDraft).filters =
        [⟨"provider", .equals, "ÄRA"⟩, ⟨"provider", .contains, "ära"⟩,
          ⟨"title", .equals, "ära"⟩] ∧
      ⟨"provider", .other "EQUALS", "ÄrA"⟩ ∈ spelledDraft.filters ∧
      ∃ before first after, spelledDraft.filters = before ++ first :: after ∧
        first.key = ("provider", "EQUALS", "ära") ∧
        (∀ other ∈ before, other.key ≠ ("provider", "EQUALS", "ära")) ∧
        (dropRepeatedFilters default spelledDraft).filters.filter
          (·.key == ("provider", "EQUALS", "ära")) = [first] := by
  have member : ⟨"provider", .other "EQUALS", "ÄrA"⟩ ∈ spelledDraft.filters := by decide
  have key : Filter.key ⟨"provider", .other "EQUALS", "ÄrA"⟩ = ("provider", "EQUALS", "ära") := by
    decide +kernel
  obtain ⟨_, _, _, _, earliest⟩ := first_filter_of_each_key_kept default spelledDraft
  have kept := earliest _ member
  rw [key] at kept
  exact ⟨by decide +kernel, member, kept⟩

end TableTalk.Question
