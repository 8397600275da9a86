import TableTalk.Proofs.Question.Distinct
import TableTalk.Proofs.Text.AsciiCase

/-!
# Pinned providers

A question for a single service of a provider leaves one filter on the provider column: the one
that linking has found for this provider, in its place, or else a new one at the end. All other
filters stay as linking has found them.
-/

namespace TableTalk.Question

open TableTalk.Catalog
open TableTalk.Language
open TableTalk.Text

set_option autoImplicit false

section

variable {context : Context} {first second draft : Draft}

/-! ## Linking looks at nothing but filters -/

theorem has_filter_on_congr (same : first.filters = second.filters) (column : String) :
    first.hasFilterOn column = second.hasFilterOn column := by
  rw [Draft.hasFilterOn, Draft.hasFilterOn, same]

theorem add_filter_congr (same : first.filters = second.filters) (filter : Filter) :
    (first.addFilter filter).filters = (second.addFilter filter).filters := by
  unfold Draft.addFilter
  rw [same]
  split
  · exact same
  · rfl

theorem link_entity_congr (same : first.filters = second.filters) (entity : Entity) :
    (linkEntity context first entity).filters = (linkEntity context second entity).filters := by
  unfold linkEntity
  split
  · exact add_filter_congr same _
  · exact same

theorem link_entities_congr (same : first.filters = second.filters) :
    (linkEntities context first).filters = (linkEntities context second).filters := by
  unfold linkEntities
  generalize context.analysis.entities.filter _ = entities
  induction entities generalizing first second with
  | nil => exact same
  | cons entity entities ih => exact ih (link_entity_congr same entity)

theorem link_provider_congr (same : first.filters = second.filters) :
    (linkProvider context first).filters = (linkProvider context second).filters := by
  unfold linkProvider
  dsimp only
  rw [has_filter_on_congr same]
  split
  · exact same
  · split
    · simp only [same]
    · exact same

theorem link_product_congr (same : first.filters = second.filters) :
    (linkProduct context first).filters = (linkProduct context second).filters := by
  unfold linkProduct
  dsimp only
  rw [has_filter_on_congr same]
  split
  · exact same
  · split
    · exact add_filter_congr same _
    · exact same

theorem add_entity_filters_congr (same : first.filters = second.filters) :
    (addEntityFilters context first).filters = (addEntityFilters context second).filters := by
  apply link_product_congr
  apply link_provider_congr
  exact link_entities_congr same

theorem pin_provider_congr (same : first.filters = second.filters) (provider keyword : String) :
    (pinProvider provider keyword first).filters =
      (pinProvider provider keyword second).filters := by
  unfold pinProvider
  dsimp only
  rw [same]
  split
  · rfl
  · rfl

/-! ## What pinning leaves -/

theorem pinned_provider_eq_some_iff {keyword : String} :
    pinnedProvider? context = some keyword ↔
      Occurs (keyword ++ " service") context.text ∧
        ∃ before after, context.options.providerKeywords = before ++ keyword :: after ∧
          ∀ other ∈ before, ¬Occurs (other ++ " service") context.text := by
  unfold pinnedProvider?
  rw [List.find?_eq_some_iff_append]
  simp only [Context.mentions, mentions_iff, Bool.not_eq_true', ← Bool.not_eq_true]

/-- Among filters that do not name the provider, those on other columns survive. -/
theorem surviving_filters_eq {provider keyword : String} {filters : List Filter}
    (unlike : ∀ filter ∈ filters, filter.column = provider →
      ¬equalAsciiCase filter.value keyword) :
    filters.filter (fun filter => filter.column != provider ||
        equalAsciiCase filter.value keyword) = filters.filter (·.column != provider) := by
  apply List.filter_congr
  intro filter listed
  by_cases column : filter.column = provider
  · have other := Bool.not_eq_true _ ▸ unlike filter listed column
    simp [column, other]
  · simp [column]

/-- With no filter on the provider twice, one filter at most names it. -/
theorem pin_provider_cases (provider keyword : String) (unrepeated : Unrepeated draft.filters) :
    (∃ above pinned below, draft.filters = above ++ pinned :: below ∧
      pinned.column = provider ∧ equalAsciiCase pinned.value keyword ∧
      (pinProvider provider keyword draft).filters =
        above.filter (·.column != provider) ++ pinned :: below.filter (·.column != provider)) ∨
    ((∀ filter ∈ draft.filters, filter.column = provider →
        ¬equalAsciiCase filter.value keyword) ∧
      (pinProvider provider keyword draft).filters =
        draft.filters.filter (·.column != provider) ++ [.equals provider keyword]) := by
  by_cases named : ∃ pinned ∈ draft.filters,
      pinned.column = provider ∧ equalAsciiCase pinned.value keyword
  · obtain ⟨pinned, member, onProvider, alike⟩ := named
    obtain ⟨above, below, cut⟩ := List.append_of_mem member
    refine .inl ⟨above, pinned, below, cut, onProvider, alike, ?_⟩
    -- Another filter that survives on the provider would repeat the pinned one.
    have lowered : ∀ filter : Filter, equalAsciiCase filter.value keyword →
        Text.lower filter.value = Text.lower pinned.value :=
      fun filter other =>
        lower_eq_of_equal_ascii_case (equal_ascii_case_trans other (equal_ascii_case_symm alike))
    rw [cut] at unrepeated
    obtain ⟨_, pinnedFirst, across⟩ := List.pairwise_append.mp unrepeated
    have fromAbove : ∀ filter ∈ above, filter.column = provider →
        ¬equalAsciiCase filter.value keyword := by
      intro filter listed column other
      apply across filter listed pinned (List.mem_cons_self ..)
      simp [Filter.targets, column, onProvider, lowered filter other]
    have fromBelow : ∀ filter ∈ below, filter.column = provider →
        ¬equalAsciiCase filter.value keyword := by
      intro filter listed column other
      apply (List.pairwise_cons.mp pinnedFirst).1 filter listed
      simp [Filter.targets, column, onProvider, lowered filter other]
    unfold pinProvider
    simp only [cut, List.filter_append, List.filter_cons, alike, Bool.or_true, if_true,
      surviving_filters_eq fromAbove, surviving_filters_eq fromBelow]
    rw [if_pos]
    simp [onProvider]
  · have unlike : ∀ filter ∈ draft.filters, filter.column = provider →
        ¬equalAsciiCase filter.value keyword :=
      fun filter member column other => named ⟨filter, member, column, other⟩
    refine .inr ⟨unlike, ?_⟩
    unfold pinProvider
    simp only [surviving_filters_eq unlike]
    rw [if_neg]
    simp

theorem pin_provider_stands_alone (provider keyword : String)
    (unrepeated : Unrepeated draft.filters)
    (equals : ∀ filter ∈ draft.filters, filter.operator = .equals) :
    (pinProvider provider keyword draft).filters.filter (·.column != provider) =
        draft.filters.filter (·.column != provider) ∧
      ∃ pinned, (pinProvider provider keyword draft).filters.filter (·.column == provider) =
          [pinned] ∧
        pinned.operator = .equals ∧ equalAsciiCase pinned.value keyword ∧
        ((∃ above below, draft.filters = above ++ pinned :: below ∧
            (pinProvider provider keyword draft).filters =
              above.filter (·.column != provider) ++
                pinned :: below.filter (·.column != provider)) ∨
          ((∀ filter ∈ draft.filters, filter.column = provider →
              ¬equalAsciiCase filter.value keyword) ∧
            pinned = .equals provider keyword ∧
            (pinProvider provider keyword draft).filters =
              draft.filters.filter (·.column != provider) ++ [pinned])) := by
  have noneOn : ∀ filters : List Filter,
      (filters.filter (·.column != provider)).filter (·.column == provider) = [] := by
    intro filters
    simp [List.filter_filter]
  rcases pin_provider_cases provider keyword unrepeated with
    ⟨above, pinned, below, cut, onProvider, alike, left⟩ | ⟨unlike, left⟩
  · have member : pinned ∈ draft.filters := by simp [cut]
    refine ⟨?_, pinned, ?_, equals pinned member, alike, .inl ⟨above, below, cut, left⟩⟩
    · rw [left, cut]
      simp [List.filter_filter, onProvider]
    · rw [left, List.filter_append, List.filter_cons, noneOn, noneOn]
      simp [onProvider]
  · refine ⟨?_, .equals provider keyword, ?_, rfl, equal_ascii_case_refl keyword,
      .inr ⟨unlike, rfl, left⟩⟩
    · rw [left]
      simp [List.filter_filter, Filter.equals]
    · rw [left, List.filter_append, noneOn]
      simp [Filter.equals]

theorem linked_filters_distinct (context : Context) :
    Unrepeated (addEntityFilters context {}).filters :=
  adds_unrepeated (add_entity_filters_adds context {}) .nil

theorem run_rules_filters_pinned {keyword : String} (unranked : ranking? context = none)
    (service : Occurs "service with the most updates" context.text)
    (pinned : pinnedProvider? context = some keyword) (plain : draft.ranked = false) :
    (runRules cascade context draft).filters =
      firstOfEachKey [] (pinProvider context.options.providerColumn keyword
        (addEntityFilters context draft)).filters := by
  obtain ⟨same, ranked⟩ := first_rules_keep context draft (by simp [plain])
  rw [run_rules_parts, last_rules_filters context ranked]
  dsimp only
  rw [if_pos ⟨unranked, service⟩, selectService, pinned]
  congr 1
  apply pin_provider_congr
  exact add_entity_filters_congr same

theorem run_cascade_filters_pinned {keyword : String} (unranked : ranking? context = none)
    (service : Occurs "service with the most updates" context.text)
    (pinned : pinnedProvider? context = some keyword) :
    (runCascade context).filters =
      (pinProvider context.options.providerColumn keyword
        (addEntityFilters context {})).filters := by
  rw [runCascade, run_rules_filters_pinned unranked service pinned rfl]
  apply first_of_each_key_eq
  · exact fun _ _ => List.not_mem_nil
  · exact pin_provider_unrepeated _ _ (linked_filters_distinct context)

theorem linked_from_nothing {filter : Filter}
    (member : filter ∈ (addEntityFilters context {}).filters) : Linkable context filter :=
  (adds_member (add_entity_filters_adds context {}) member).resolve_left List.not_mem_nil

theorem linkable_equals {filter : Filter} (linkable : Linkable context filter) :
    filter.operator = .equals := by
  cases linkable with
  | _ => rfl

end

/-! ## Questions for a single service -/

/-- A question for a single service of a provider is restricted to this provider alone; its
filters on other columns are those that linking finds. -/
theorem pinned_provider_stands_alone (analyze : String → Analysis) {table : Table}
    {options : Options} (question : String) {before after : List String} {keyword : String}
    (named : table.name ≠ "") (listed : table.columns ≠ [])
    (unranked : ranking? (.ofQuestion analyze table options question) = none)
    (service : Occurs "service with the most updates" (lower question))
    (keywords : options.providerKeywords = before ++ keyword :: after)
    (earlier : ∀ other ∈ before, ¬Occurs (other ++ " service") (lower question))
    (asked : Occurs (keyword ++ " service") (lower question)) :
    let provider := options.providerColumn
    let linked := (addEntityFilters (.ofQuestion analyze table options question) {}).filters
    ∃ query, parseWith analyze table options question = .ok query ∧
      query.filters.filter (·.column != provider) = linked.filter (·.column != provider) ∧
      ∃ pinned, query.filters.filter (·.column == provider) = [pinned] ∧
        pinned.operator = .equals ∧ equalAsciiCase pinned.value keyword ∧
        ((∃ above below, linked = above ++ pinned :: below ∧
            query.filters = above.filter (·.column != provider) ++
              pinned :: below.filter (·.column != provider)) ∨
          ((∀ filter ∈ linked, filter.column = provider →
              ¬equalAsciiCase filter.value keyword) ∧
            pinned = .equals provider keyword ∧
            query.filters = linked.filter (·.column != provider) ++ [pinned])) := by
  intro provider linked
  let context := Context.ofQuestion analyze table options question
  have found : pinnedProvider? context = some keyword :=
    pinned_provider_eq_some_iff.mpr ⟨asked, before, after, keywords, earlier⟩
  have unrepeated := linked_filters_distinct context
  have equals : ∀ filter ∈ (addEntityFilters context {}).filters, filter.operator = .equals :=
    fun filter member => linkable_equals (linked_from_nothing member)
  have alone := pin_provider_stands_alone provider keyword unrepeated equals
  have filters : (runCascade context).filters =
      (pinProvider provider keyword (addEntityFilters context {})).filters :=
    run_cascade_filters_pinned unranked service found
  rw [← filters] at alone
  exact ⟨_, parse_with_available analyze options question named listed, alone⟩

/-- Both providers of the table are linked, and only the one before "service" is kept. -/
theorem named_provider_kept_in_place :
    vendorUpdates.name ≠ "" ∧ vendorUpdates.columns ≠ [] ∧
      ranking? (.ofQuestion (fun _ => vendorEntities) vendorUpdates {}
        "Azure or EC2? The AWS service with the most updates") = none ∧
      Occurs "service with the most updates"
        (lower "Azure or EC2? The AWS service with the most updates") ∧
      ({} : Options).providerKeywords = [] ++ "aws" :: ["azure"] ∧
      Occurs ("aws" ++ " service")
        (lower "Azure or EC2? The AWS service with the most updates") ∧
      ∃ query, parseWith (fun _ => vendorEntities) vendorUpdates {}
          "Azure or EC2? The AWS service with the most updates" = .ok query ∧
        query.filters = [.equals "provider" "aws", .equals "product_name" "EC2"] ∧
        ∃ pinned, query.filters.filter (·.column == "provider") = [pinned] ∧
          equalAsciiCase pinned.value "aws" := by
  let question := "Azure or EC2? The AWS service with the most updates"
  have named : vendorUpdates.name ≠ "" := by decide
  have listed : vendorUpdates.columns ≠ [] := by decide
  have unranked : ranking? (.ofQuestion (fun _ => vendorEntities) vendorUpdates {} question) =
      none := by decide +kernel
  have service : Occurs "service with the most updates" (lower question) := by decide +kernel
  have asked : Occurs ("aws" ++ " service") (lower question) := by decide +kernel
  obtain ⟨query, parsed, _, pinned, alone, _, alike, _⟩ :=
    pinned_provider_stands_alone (fun _ => vendorEntities) question named listed unranked service
      (rfl : ({} : Options).providerKeywords = [] ++ "aws" :: ["azure"])
      (fun _ absent => absurd absent List.not_mem_nil) asked
  have filters : (parseWith (fun _ => vendorEntities) vendorUpdates {} question).toOption.map
      Query.filters = some [.equals "provider" "aws", .equals "product_name" "EC2"] := by
    decide +kernel
  rw [parsed] at filters
  exact ⟨named, listed, unranked, service, rfl, asked, query, parsed, Option.some.inj filters,
    pinned, alone, alike⟩

end TableTalk.Question
