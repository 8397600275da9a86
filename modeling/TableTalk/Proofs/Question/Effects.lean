import TableTalk.Proofs.Question.FixedPoint
import TableTalk.Proofs.Question.Mentions
import TableTalk.Proofs.Question.Repetition

/-!
# What a single effect does

Over any draft, built by the rules or not, an effect that is applied once more changes nothing.
Filters are only added at the end, but for two rules: one drops what repeats an earlier filter,
the other takes filters on the provider away.
-/

namespace TableTalk.Question

open TableTalk.Catalog
open TableTalk.Language
open TableTalk.Text

set_option autoImplicit false

section

variable {context : Context} {draft : Draft}

/-! ## Effects that overwrite fields -/

theorem rank_entities_again (context : Context) (draft : Draft) :
    rankEntities context (rankEntities context draft) = rankEntities context draft := by
  cases found : ranking? context with
  | none => simp [rankEntities, found]
  | some ranking => simp [rankEntities, found]

/-! ## Linking -/

theorem adds_prefix {reason : Filter → Prop} {before after : Draft}
    (adds : Adds reason before after) : before.filters <+: after.filters := by
  induction adds with
  | none => exact List.prefix_rfl
  | one _ _ ih =>
      apply ih.trans
      unfold Draft.addFilter
      split
      · exact List.prefix_rfl
      · exact List.prefix_append _ _

/-- Filters that stand for all linked entities leave nothing to link, whether or not linking
has put them there. -/
theorem link_entities_of_covered
    (covered : ∀ entity ∈ context.analysis.entities, entity.label.isLinkable →
      ∀ column found, linkText context.table entity.text = some (column, found) →
        ∃ kept ∈ draft.filters, kept.targets column found) :
    linkEntities context draft = draft := by
  unfold linkEntities
  apply List.foldlRecOn (motive := fun current => current = draft) _ _ rfl
  rintro _ rfl entity listed
  obtain ⟨recognized, linkable⟩ := List.mem_filter.mp listed
  unfold linkEntity
  split
  · rename_i column found linked
    exact if_pos (List.any_eq_true.mpr (covered entity recognized linkable column found linked))
  · rfl

theorem add_entity_filters_again (context : Context) (draft : Draft) :
    addEntityFilters context (addEntityFilters context draft) =
      addEntityFilters context draft := by
  let linked := linkEntities context draft
  let provided := linkProvider context linked
  let whole := linkProduct context provided
  have fromProvided : provided.filters ⊆ whole.filters := fun _ member =>
    adds_keeps (link_product_adds context provided) member
  have fromLinked : linked.filters ⊆ whole.filters := fun _ member =>
    fromProvided (adds_keeps (link_provider_adds context linked) member)
  have entities : linkEntities context whole = whole := by
    apply link_entities_of_covered
    intro entity recognized linkable column found link
    obtain ⟨kept, member, targets⟩ :
        ∃ kept ∈ linked.filters, kept.targets column found :=
      link_entities_covers recognized linkable link
    exact ⟨kept, fromLinked member, targets⟩
  have provider : linkProvider context whole = whole := by
    rcases link_provider_once context linked with restricted | nothing
    · exact link_provider_of_filter (has_filter_on_mono fromProvided restricted)
    · exact nothing whole
  have product : linkProduct context whole = whole := by
    rcases link_product_once context provided with restricted | nothing
    · exact link_product_of_filter restricted
    · exact nothing whole
  change linkProduct context (linkProvider context (linkEntities context whole)) = whole
  rw [entities, provider, product]

/-! ## Services -/

theorem select_service_filters (context : Context) (draft : Draft) :
    (selectService context draft).filters =
      match pinnedProvider? context with
      | some keyword => (pinProvider context.options.providerColumn keyword draft).filters
      | none => draft.filters := by
  unfold selectService
  cases pinnedProvider? context with
  | none => rfl
  | some keyword =>
      apply pin_provider_congr
      rfl

theorem select_service_again (context : Context) (draft : Draft) :
    selectService context (selectService context draft) = selectService context draft := by
  apply draft_eq_of_bare
  · have ranked := congrArg Draft.ranked (select_service_bare context draft)
    rw [select_service_bare, select_service_bare]
    exact congrArg _ ranked
  · have again := select_service_filters context (selectService context draft)
    have once := select_service_filters context draft
    cases pinned : pinnedProvider? context with
    | none => rw [again, pinned]
    | some keyword =>
        rw [pinned] at again once
        rw [again, once]
        have grown : (selectService context draft).filters =
            (pinProvider context.options.providerColumn keyword draft).filters ++ [] := by
          rw [once, List.append_nil]
        exact pin_provider_again grown fun _ absent => absurd absent List.not_mem_nil

/-- Pinning takes filters on the provider away and adds at most one, on the provider. -/
theorem pin_provider_parts (provider keyword : String) (draft : Draft) :
    ∃ kept added, (pinProvider provider keyword draft).filters = kept ++ added ∧
      kept.Sublist draft.filters ∧ (∀ filter ∈ added, filter = .equals provider keyword) ∧
      kept.filter (·.column != provider) = draft.filters.filter (·.column != provider) := by
  let kept := draft.filters.filter fun filter =>
    filter.column != provider || equalAsciiCase filter.value keyword
  have others : kept.filter (·.column != provider) =
      draft.filters.filter (·.column != provider) := by
    rw [List.filter_filter]
    apply List.filter_congr
    intro filter _
    cases filter.column != provider <;> simp
  unfold pinProvider
  dsimp only
  split
  · exact ⟨kept, [], (List.append_nil _).symm, List.filter_sublist, by simp, others⟩
  · exact ⟨kept, [.equals provider keyword], rfl, List.filter_sublist, by simp, others⟩

theorem select_service_parts (context : Context) (draft : Draft) :
    let provider := context.options.providerColumn
    ∃ kept added, (selectService context draft).filters = kept ++ added ∧
      kept.Sublist draft.filters ∧ (∀ filter ∈ added, filter.column = provider) ∧
      kept.filter (·.column != provider) = draft.filters.filter (·.column != provider) := by
  intro provider
  rw [select_service_filters]
  cases pinnedProvider? context with
  | none => exact ⟨draft.filters, [], (List.append_nil _).symm, List.Sublist.refl _, by simp, rfl⟩
  | some keyword =>
      obtain ⟨kept, added, parts, fewer, pins, others⟩ := pin_provider_parts provider keyword draft
      refine ⟨kept, added, parts, fewer, ?_, others⟩
      intro filter member
      rw [pins filter member]
      rfl

/-! ## Repeated filters -/

theorem drop_repeated_filters_again (context : Context) (draft : Draft) :
    dropRepeatedFilters context (dropRepeatedFilters context draft) =
      dropRepeatedFilters context draft := by
  have kept := first_of_each_key_of_distinct
    (fun _ _ => List.not_mem_nil) (first_of_each_key_distinct [] draft.filters)
  rw [dropRepeatedFilters, dropRepeatedFilters, kept]

end

/-! ## All rules -/

/-- An effect that is applied twice does what it does once. All rules but those that drop
repeated filters and pin a provider keep the filters of the draft, with new ones behind them;
pinning takes away none but filters on the provider. -/
theorem effects_settle_and_keep_filters (context : Context) (draft : Draft) :
    (∀ rule ∈ cascade,
      rule.effect context (rule.effect context draft) = rule.effect context draft) ∧
    (∀ rule ∈ cascade, rule.name ≠ "dedupe_filters" → rule.name ≠ "service_most_updates" →
      draft.filters <+: (rule.effect context draft).filters) ∧
    ∀ rule ∈ cascade, rule.name = "service_most_updates" →
      let provider := context.options.providerColumn
      ∃ kept added, (rule.effect context draft).filters = kept ++ added ∧
        kept.Sublist draft.filters ∧ (∀ filter ∈ added, filter.column = provider) ∧
        kept.filter (·.column != provider) = draft.filters.filter (·.column != provider) := by
  refine ⟨?_, ?_, ?_⟩
  · intro rule member
    simp only [cascade, List.mem_cons, List.not_mem_nil, or_false] at member
    rcases member with rfl | rfl | rfl | rfl | rfl | rfl | rfl
    · exact rank_entities_again context draft
    · rfl
    · rfl
    · exact add_entity_filters_again context draft
    · exact select_service_again context draft
    · exact drop_repeated_filters_again context draft
    · rfl
  · intro rule member unrepeated unpinned
    simp only [cascade, List.mem_cons, List.not_mem_nil, or_false] at member
    rcases member with rfl | rfl | rfl | rfl | rfl | rfl | rfl
    · rw [rank_entities_filters]
    · exact List.prefix_rfl
    · exact List.prefix_rfl
    · exact adds_prefix (add_entity_filters_adds context draft)
    · exact absurd rfl unpinned
    · exact absurd rfl unrepeated
    · exact List.prefix_rfl
  · intro rule member pins
    simp only [cascade, List.mem_cons, List.not_mem_nil, or_false] at member
    rcases member with rfl | rfl | rfl | rfl | rfl | rfl | rfl
    · exact absurd pins (by decide)
    · exact absurd pins (by decide)
    · exact absurd pins (by decide)
    · exact absurd pins (by decide)
    · exact select_service_parts context draft
    · exact absurd pins (by decide)
    · exact absurd pins (by decide)

/-- A draft that no question builds: a provider in two spellings, and operators that the rules
do not use. -/
def crowdedDraft : Draft where
  intent := some .count
  filters := [⟨"provider", .contains, "Azure"⟩, ⟨"title", .lessThan, "ec2"⟩,
    ⟨"provider", .other "IS", "AWS"⟩, ⟨"provider", .other "IS", "aWS"⟩]
  limit := some 0

def productOfProvider : Context :=
  { countedService with text := "ec2: the aws service with the most updates" }

theorem crowded_draft_settles :
    let linked := addEntityFilters productOfProvider crowdedDraft
    let served := selectService productOfProvider linked
    linked.filters = crowdedDraft.filters ++ [.equals "product_name" "EC2"] ∧
      served.filters = [⟨"title", .lessThan, "ec2"⟩, ⟨"provider", .other "IS", "AWS"⟩,
        ⟨"provider", .other "IS", "aWS"⟩, .equals "product_name" "EC2"] ∧
      addEntityFilters productOfProvider linked = linked ∧
      crowdedDraft.filters <+: linked.filters ∧
      selectService productOfProvider served = served ∧
      ∃ kept added, served.filters = kept ++ added ∧ kept.Sublist linked.filters ∧
        (∀ filter ∈ added, filter.column = "provider") ∧
        kept.filter (·.column != "provider") = linked.filters.filter (·.column != "provider") := by
  have linking : ⟨"entity_filters", fun _ _ => true, addEntityFilters⟩ ∈ cascade := by
    simp [cascade]
  have service : ⟨"service_most_updates", asksService, selectService⟩ ∈ cascade := by
    simp [cascade]
  have linkedFilters : (addEntityFilters productOfProvider crowdedDraft).filters =
      crowdedDraft.filters ++ [.equals "product_name" "EC2"] := by
    decide +kernel
  have servedFilters : (selectService productOfProvider
      (addEntityFilters productOfProvider crowdedDraft)).filters =
        [⟨"title", .lessThan, "ec2"⟩, ⟨"provider", .other "IS", "AWS"⟩,
          ⟨"provider", .other "IS", "aWS"⟩, .equals "product_name" "EC2"] := by
    decide +kernel
  obtain ⟨settles, keeps, _⟩ := effects_settle_and_keep_filters productOfProvider crowdedDraft
  obtain ⟨settlesServed, _, pins⟩ := effects_settle_and_keep_filters productOfProvider
    (addEntityFilters productOfProvider crowdedDraft)
  exact ⟨linkedFilters, servedFilters, settles _ linking,
    keeps _ linking (by decide) (by decide), settlesServed _ service, pins _ service rfl⟩

end TableTalk.Question
