import TableTalk.Proofs.Question.Columns
import TableTalk.Proofs.Question.Linking
import TableTalk.Proofs.Question.Pinning

/-!
# The rules have settled

Running the rules once more over the draft that they have built changes nothing, though other
guards hold then: the fields of an outline are overwritten in the same way again, linking finds
the filters that pinning has removed, and pinning removes them once more.
-/

namespace TableTalk.Question

open TableTalk.Catalog
open TableTalk.Language
open TableTalk.Text

set_option autoImplicit false

def Draft.bare (draft : Draft) : Draft := { draft with filters := [] }

theorem draft_eq_of_bare {first second : Draft} (bare : first.bare = second.bare)
    (filters : first.filters = second.filters) : first = second := by
  cases first
  cases second
  simp only [Draft.bare, Draft.mk.injEq] at *
  simp [bare, filters]

section

variable {context : Context} {draft : Draft}

/-! ## Outlines -/

theorem select_service_bare (context : Context) (draft : Draft) :
    (selectService context draft).bare =
      { intent := some .findMostFrequentEntity
        groupBy := some context.options.productColumn
        aggregations := [.count context.countedColumn updateCount]
        orderBy := some (.descending updateCount)
        limit := some 1
        selectColumns := [productOr context context.countedColumn]
        ranked := draft.ranked } := by
  unfold selectService
  cases pinnedProvider? context with
  | none => rfl
  | some keyword =>
      dsimp only
      obtain ⟨filters, pinned⟩ := pin_provider_frame context.options.providerColumn keyword
        { draft with
          intent := some .findMostFrequentEntity
          groupBy := some context.options.productColumn
          aggregations := [.count context.countedColumn updateCount]
          orderBy := some (.descending updateCount)
          limit := some 1
          selectColumns := [productOr context context.countedColumn] }
      rw [pinned]
      rfl

theorem last_rules_bare (context : Context) (draft : Draft) :
    (runRules (cascade.drop 3) context draft).bare =
      if asksService context draft then (selectService context draft).bare
      else if draft.intent.isNone then (findData context draft).bare
      else draft.bare := by
  obtain ⟨filters, linked⟩ := adds_frame (add_entity_filters_adds context draft)
  have same : asksService context { draft with filters } = asksService context draft := rfl
  have kept : ∀ served : Draft, (dropRepeatedFilters context served).bare = served.bare :=
    fun _ => rfl
  have intents : ∀ served : Draft, (dropRepeatedFilters context served).intent = served.intent :=
    fun _ => rfl
  have found : ∀ served : Draft,
      (findData context (dropRepeatedFilters context served)).bare =
        (findData context served).bare := fun _ => rfl
  rw [last_rules_eq, linked]
  simp only [same]
  by_cases service : asksService context draft
  · have bare := select_service_bare context { draft with filters }
    have intent : (selectService context { draft with filters }).intent =
        some .findMostFrequentEntity := congrArg Draft.intent bare
    simp only [service, if_true, intents, intent, Option.isNone_some, Bool.false_eq_true,
      if_false, kept, bare, select_service_bare context draft]
  · simp only [service, if_false, Bool.false_eq_true, intents]
    split
    · exact found _
    · exact kept _

theorem last_rules_ranked (context : Context) (draft : Draft) :
    (runRules (cascade.drop 3) context draft).ranked = draft.ranked := by
  have ranked := congrArg Draft.ranked (last_rules_bare context draft)
  rw [select_service_bare] at ranked
  split at ranked
  · exact ranked
  · split at ranked
    · exact ranked
    · exact ranked

theorem run_cascade_ranked (context : Context) :
    (runCascade context).ranked = (ranking? context).isSome := by
  rw [run_cascade_parts, last_rules_ranked]
  exact (first_rules_frame context).2

theorem ranked_bare {limit : UInt64} {column : String}
    (found : ranking? context = some (limit, column)) (draft : Draft) :
    (runRules cascade context draft).bare = (rankEntities context {}).bare := by
  rw [run_rules_parts, first_rules_of_ranking found, last_rules_bare]
  simp [asksService, rankEntities, found, Draft.bare]

theorem served_bare (unranked : ranking? context = none) (draft : Draft)
    (plain : draft.ranked = false)
    (service : Occurs "service with the most updates" context.text) :
    (runRules cascade context draft).bare = (selectService context {}).bare := by
  obtain ⟨_, ranked⟩ := first_rules_keep context draft (by simp [plain])
  have asked : asksService context (runRules (cascade.take 3) context draft) = true := by
    simp [asksService, ranked, unranked, Context.mentions, mentions_iff, servicePhrase, service]
  rw [run_rules_parts, last_rules_bare, if_pos asked, select_service_bare, select_service_bare,
    ranked, unranked]
  rfl

/-- Without a ranking and a single service, a count, or else the last resort, leaves fields of
the draft as they are. -/
theorem unserved_bare (unranked : ranking? context = none) (draft : Draft)
    (plain : draft.ranked = false)
    (undecided : draft.intent ≠ some .findMostFrequentEntity)
    (unasked : ¬Occurs "service with the most updates" context.text) :
    (runRules cascade context draft).bare =
      if Occurs "most" context.text ∧ Occurs "updates" context.text then
        (groupMostFrequent context {}).bare
      else if Occurs "count" context.text ∨ Occurs "how many" context.text then
        (countRows context draft).bare
      else if draft.intent.isNone then (findData context draft).bare
      else draft.bare := by
  have unmentioned : context.mentions servicePhrase = false := by
    rw [← Bool.not_eq_true]
    exact mt (mentions_iff _ _).mp unasked
  have unserved : ∀ current, asksService context current = false := by
    intro current
    rw [asksService, unmentioned, Bool.and_false]
  have grouped : ∀ current : Draft, current.ranked = false →
      (groupMostFrequent context current).bare = (groupMostFrequent context {}).bare := by
    intro current same
    simp [groupMostFrequent, Draft.bare, same]
  rw [run_rules_parts, first_rules_without_ranking unranked undecided, last_rules_bare, unserved]
  simp only [Bool.false_eq_true, if_false, unasked, not_false_eq_true, and_true]
  by_cases most : Occurs "most" context.text ∧ Occurs "updates" context.text
  · rw [if_pos most, if_pos most]
    simp only [groupMostFrequent, Option.isNone_some, Bool.false_eq_true, if_false]
    apply grouped
    split
    · exact plain
    · exact plain
  · rw [if_neg most, if_neg most]
    by_cases counts : Occurs "count" context.text ∨ Occurs "how many" context.text
    · simp [if_pos counts, countRows]
    · simp only [if_neg counts]

theorem run_cascade_again_bare (context : Context) :
    (runRules cascade context (runCascade context)).bare = (runCascade context).bare := by
  unfold runCascade
  -- Whichever rule has had the last word on the first draft has it on the second one too.
  cases found : ranking? context with
  | some ranking =>
      obtain ⟨limit, column⟩ := ranking
      rw [ranked_bare found, ranked_bare found]
  | none =>
      by_cases service : Occurs "service with the most updates" context.text
      · have first := served_bare found {} rfl service
        have plain : (runRules cascade context {}).ranked = false := by
          rw [← runCascade, run_cascade_ranked, found]
          rfl
        rw [served_bare found _ plain service, first]
      · have first := unserved_bare found {} rfl (by decide) service
        have again := fun plain undecided =>
          unserved_bare found (runRules cascade context {}) plain undecided service
        by_cases most : Occurs "most" context.text ∧ Occurs "updates" context.text
        · rw [if_pos most] at first again
          have intent : (runRules cascade context {}).intent = some .findMostFrequent :=
            congrArg Draft.intent first
          rw [again (congrArg Draft.ranked first) (ne_of_eq_of_ne intent (by decide)), first]
        · rw [if_neg most] at first again
          by_cases counts : Occurs "count" context.text ∨ Occurs "how many" context.text
          · rw [if_pos counts] at first again
            have intent : (runRules cascade context {}).intent = some .count :=
              congrArg Draft.intent first
            have recounted : (countRows context (runRules cascade context {})).bare =
                (countRows context (runRules cascade context {}).bare).bare := rfl
            rw [again (congrArg Draft.ranked first) (ne_of_eq_of_ne intent (by decide)),
              recounted, first]
            rfl
          · rw [if_neg counts] at first again
            change _ = (findData context {}).bare at first
            have intent : (runRules cascade context {}).intent = some .findData :=
              congrArg Draft.intent first
            rw [again (congrArg Draft.ranked first) (ne_of_eq_of_ne intent (by decide)), intent]
            rfl

/-! ## Linking once more -/

theorem add_filter_present {filter : Filter} (present : filter ∈ draft.filters) :
    draft.addFilter filter = draft := by
  apply if_pos
  apply List.any_eq_true.mpr
  exact ⟨filter, present, by simp [Filter.targets]⟩

theorem link_text_congr (table : Table) {first second : String}
    (same : Text.lower first = Text.lower second) :
    linkText table first = linkText table second := by
  unfold linkText Column.exampleMatching
  rw [same]

/-- Over an empty draft every linked entity gets its own filter: what could stand in its place
has the same lower case form, and is linked to the same example. -/
theorem linked_entity_filtered {entity : Entity} (recognized : entity ∈ context.analysis.entities)
    (linkable : entity.label.isLinkable) {column found : String}
    (linked : linkText context.table entity.text = some (column, found)) :
    .equals column found ∈ (addEntityFilters context {}).filters := by
  have covered : ∃ kept ∈ (linkEntities context {}).filters, kept.targets column found :=
    link_entities_covers recognized linkable linked
  obtain ⟨kept, member, targets⟩ := covered
  have source := adds_member (link_entities_adds context {}) member
  obtain ⟨other, _, _, name, value, otherLinked, rfl⟩ := source.resolve_left List.not_mem_nil
  obtain ⟨_, _, _, _, _, spelling⟩ := link_text_eq_some linked
  obtain ⟨_, _, _, _, _, otherSpelling⟩ := link_text_eq_some otherLinked
  have same : Text.lower value = Text.lower found :=
    beq_iff_eq.mp (Bool.and_eq_true_iff.mp targets).2
  rw [link_text_congr context.table (otherSpelling.symm.trans (same.trans spelling)), linked]
    at otherLinked
  cases otherLinked
  exact adds_keeps (link_product_adds _ _) (adds_keeps (link_provider_adds _ _) member)

/-- Linking entities again adds nothing but filters that have been removed. -/
theorem link_entities_again {removed : Filter → Prop}
    (known : ∀ entity ∈ context.analysis.entities, entity.label.isLinkable →
      ∀ column found, linkText context.table entity.text = some (column, found) →
        .equals column found ∈ draft.filters ∨ removed (.equals column found)) :
    ∃ refound, (linkEntities context draft).filters = draft.filters ++ refound ∧
      ∀ filter ∈ refound, removed filter := by
  let extended : Draft → Prop := fun current => ∃ refound,
    current.filters = draft.filters ++ refound ∧ ∀ filter ∈ refound, removed filter
  change extended (linkEntities context draft)
  unfold linkEntities
  apply List.foldlRecOn
  · exact ⟨[], by simp, by simp⟩
  · rintro current ⟨refound, grown, gone⟩ entity listed
    obtain ⟨recognized, linkable⟩ := List.mem_filter.mp listed
    unfold linkEntity
    split
    · rename_i column found linked
      rcases known entity recognized linkable column found linked with present | again
      · rw [add_filter_present (by simp [grown, present])]
        exact ⟨refound, grown, gone⟩
      · unfold Draft.addFilter
        split
        · exact ⟨refound, grown, gone⟩
        · refine ⟨refound ++ [.equals column found], by simp [grown], ?_⟩
          simp only [List.forall_mem_append, List.forall_mem_singleton]
          exact ⟨gone, again⟩
    · exact ⟨refound, grown, gone⟩

theorem has_filter_on_mono {first second : Draft} (kept : first.filters ⊆ second.filters)
    {column : String} (restricted : first.hasFilterOn column) : second.hasFilterOn column := by
  obtain ⟨filter, member, same⟩ := List.any_eq_true.mp restricted
  exact List.any_eq_true.mpr ⟨filter, kept member, same⟩

theorem link_provider_of_filter (restricted : draft.hasFilterOn context.options.providerColumn) :
    linkProvider context draft = draft := by
  simp [linkProvider, restricted]

theorem link_product_of_filter (restricted : draft.hasFilterOn context.options.productColumn) :
    linkProduct context draft = draft := by
  simp [linkProduct, restricted]

/-- A provider that is looked for is found the first time or never. -/
theorem link_provider_once (context : Context) (draft : Draft) :
    (linkProvider context draft).hasFilterOn context.options.providerColumn ∨
      ∀ other, linkProvider context other = other := by
  by_cases restricted : draft.hasFilterOn context.options.providerColumn
  · rw [link_provider_of_filter restricted]
    exact .inl restricted
  · by_cases known : context.table.hasColumn context.options.providerColumn
    · cases found : context.options.providerKeywords.find? context.mentions with
      | none =>
          right
          intro other
          simp [linkProvider, found]
      | some keyword =>
          left
          simp only [linkProvider]
          rw [if_neg (by simp [restricted, known]), found]
          simp [Draft.hasFilterOn, Filter.equals]
    · right
      intro other
      simp [linkProvider, known]

theorem link_product_once (context : Context) (draft : Draft) :
    (linkProduct context draft).hasFilterOn context.options.productColumn ∨
      ∀ other, linkProduct context other = other := by
  by_cases restricted : draft.hasFilterOn context.options.productColumn
  · rw [link_product_of_filter restricted]
    exact .inl restricted
  · let examples :=
      ((context.table.column? context.options.productColumn).map Column.examples).getD []
    cases found : examples.find? (fun candidate => context.mentions (Text.lower candidate)) with
    | none =>
        right
        intro other
        simp only [linkProduct]
        rw [found, ite_self]
    | some value =>
        left
        simp only [linkProduct]
        rw [if_neg restricted, found]
        dsimp only
        rw [add_filter_on_free_column restricted]
        simp [Draft.hasFilterOn, Filter.equals]

theorem link_again (removed : Filter → Prop)
    (known : ∀ entity ∈ context.analysis.entities, entity.label.isLinkable →
      ∀ column found, linkText context.table entity.text = some (column, found) →
        .equals column found ∈ draft.filters ∨ removed (.equals column found))
    (provider : draft.hasFilterOn context.options.providerColumn ∨
      ∀ other, linkProvider context other = other)
    (product : draft.hasFilterOn context.options.productColumn ∨
      ∀ other, linkProduct context other = other) :
    ∃ refound, (addEntityFilters context draft).filters = draft.filters ++ refound ∧
      ∀ filter ∈ refound, removed filter := by
  obtain ⟨refound, grown, gone⟩ := link_entities_again known
  have kept : draft.filters ⊆ (linkEntities context draft).filters := by
    rw [grown]
    exact List.subset_append_left _ _
  have providerDone : linkProvider context (linkEntities context draft) =
      linkEntities context draft := by
    rcases provider with restricted | nothing
    · exact link_provider_of_filter (has_filter_on_mono kept restricted)
    · exact nothing _
  have productDone : linkProduct context (linkEntities context draft) =
      linkEntities context draft := by
    rcases product with restricted | nothing
    · exact link_product_of_filter (has_filter_on_mono kept restricted)
    · exact nothing _
  refine ⟨refound, ?_, gone⟩
  rw [addEntityFilters, providerDone, productDone, grown]

/-! ## Pinning once more -/

/-- A filter on the provider that does not name the pinned one. -/
def NamesOther (provider keyword : String) (filter : Filter) : Prop :=
  filter.column = provider ∧ ¬equalAsciiCase filter.value keyword

theorem pin_provider_keeps {provider keyword : String} {filter : Filter}
    (member : filter ∈ draft.filters) :
    filter ∈ (pinProvider provider keyword draft).filters ∨
      NamesOther provider keyword filter := by
  by_cases other : NamesOther provider keyword filter
  · exact .inr other
  · have survives : (filter.column != provider || equalAsciiCase filter.value keyword) = true := by
      by_cases column : filter.column = provider
      · simpa [NamesOther, column] using other
      · simp [column]
    left
    unfold pinProvider
    dsimp only
    split
    · exact List.mem_filter.mpr ⟨member, survives⟩
    · exact List.mem_append_left _ (List.mem_filter.mpr ⟨member, survives⟩)

theorem pin_provider_drops {provider keyword : String} {filter : Filter}
    (member : filter ∈ (pinProvider provider keyword draft).filters) :
    ¬NamesOther provider keyword filter := by
  rintro ⟨column, unlike⟩
  have survives : ∀ kept, kept ∈ draft.filters.filter (fun filter =>
      filter.column != provider || equalAsciiCase filter.value keyword) →
        kept.column = provider → equalAsciiCase kept.value keyword := by
    intro kept present onProvider
    simpa [onProvider] using (List.mem_filter.mp present).2
  unfold pinProvider at member
  dsimp only at member
  split at member
  · exact unlike (survives filter member column)
  · rcases List.mem_append.mp member with kept | last
    · exact unlike (survives filter kept column)
    · rw [List.mem_singleton.mp last] at unlike
      exact unlike (equal_ascii_case_refl keyword)

/-- Filters that pinning has removed and linking has found again are removed again. -/
theorem pin_provider_again {provider keyword : String} {again : Draft} {refound : List Filter}
    (grown : again.filters = (pinProvider provider keyword draft).filters ++ refound)
    (others : ∀ filter ∈ refound, NamesOther provider keyword filter) :
    (pinProvider provider keyword again).filters =
      (pinProvider provider keyword draft).filters := by
  have left : again.filters.filter (fun filter =>
      filter.column != provider || equalAsciiCase filter.value keyword) =
        (pinProvider provider keyword draft).filters := by
    rw [grown, List.filter_append, List.filter_eq_self.mpr, List.filter_eq_nil_iff.mpr,
      List.append_nil]
    · intro filter member
      simpa [NamesOther] using others filter member
    · intro filter member
      have named := pin_provider_drops member
      by_cases column : filter.column = provider
      · simpa [NamesOther, column] using named
      · simp [column]
  obtain ⟨pinned, member, onProvider⟩ := pin_provider_restricts provider keyword draft
  unfold pinProvider at left ⊢
  dsimp only at left ⊢
  rw [left, if_pos]
  exact List.any_eq_true.mpr ⟨pinned, member, beq_iff_eq.mpr onProvider⟩

/-! ## The filters of the cascade -/

/-- With a single service and a provider asked for, linking and pinning undo each other. -/
theorem pin_linked_again {keyword : String} (unranked : ranking? context = none)
    (service : Occurs "service with the most updates" context.text)
    (pinned : pinnedProvider? context = some keyword) :
    (pinProvider context.options.providerColumn keyword
      (addEntityFilters context (runCascade context))).filters = (runCascade context).filters := by
  have filters := run_cascade_filters_pinned unranked service pinned
  have kept : ∀ filter ∈ (addEntityFilters context {}).filters,
      filter ∈ (runCascade context).filters ∨
        NamesOther context.options.providerColumn keyword filter := by
    intro filter member
    rw [filters]
    exact pin_provider_keeps member
  have provider : (runCascade context).hasFilterOn context.options.providerColumn := by
    obtain ⟨filter, member, column⟩ := pin_provider_restricts
      context.options.providerColumn keyword (addEntityFilters context {})
    rw [← filters] at member
    exact List.any_eq_true.mpr ⟨filter, member, beq_iff_eq.mpr column⟩
  have product : (runCascade context).hasFilterOn context.options.productColumn ∨
      ∀ other, linkProduct context other = other := by
    apply (link_product_once context (linkProvider context (linkEntities context {}))).imp_left
    intro restricted
    obtain ⟨filter, member, column⟩ := List.any_eq_true.mp restricted
    rcases kept filter member with present | ⟨onProvider, _⟩
    · exact List.any_eq_true.mpr ⟨filter, present, column⟩
    -- The product may be the provider, on which there is a filter now.
    · rwa [← beq_iff_eq.mp column, onProvider]
  obtain ⟨refound, grown, others⟩ := link_again
    (NamesOther context.options.providerColumn keyword)
    (fun _ recognized linkable _ _ linked =>
      kept _ (linked_entity_filtered recognized linkable linked))
    (.inl provider) product
  rw [filters] at grown
  rw [pin_provider_again grown others, filters]

theorem run_rules_filters_unpinned (unpinned : ¬PinsProvider context)
    (plain : draft.ranked → (ranking? context).isSome) :
    (runRules cascade context draft).filters =
      firstOfEachKey [] (addEntityFilters context draft).filters := by
  obtain ⟨same, ranked⟩ := first_rules_keep context draft plain
  rw [run_rules_parts, last_rules_filters context ranked]
  dsimp only
  congr 1
  split
  · rename_i asked
    have nobody : pinnedProvider? context = none := by
      rw [← Option.not_isSome_iff_eq_none, Option.isSome_iff_exists, pinned_provider_some_iff]
      exact fun named => unpinned ⟨asked.1, asked.2, named⟩
    rw [selectService, nobody]
    exact add_entity_filters_congr same
  · exact add_entity_filters_congr same

theorem run_cascade_filters_unpinned (unpinned : ¬PinsProvider context) :
    (runCascade context).filters = (addEntityFilters context {}).filters := by
  rw [runCascade, run_rules_filters_unpinned unpinned (fun ranked => by cases ranked)]
  exact first_of_each_key_eq (fun _ _ => List.not_mem_nil) (linked_filters_distinct context)

theorem link_again_unpinned (unpinned : ¬PinsProvider context) :
    (addEntityFilters context (runCascade context)).filters = (runCascade context).filters := by
  have filters := run_cascade_filters_unpinned unpinned
  have same : ∀ column, (runCascade context).hasFilterOn column =
      (addEntityFilters context {}).hasFilterOn column := has_filter_on_congr filters
  have provider : (runCascade context).hasFilterOn context.options.providerColumn ∨
      ∀ other, linkProvider context other = other := by
    apply (link_provider_once context (linkEntities context {})).imp_left
    rw [same]
    exact has_filter_on_mono fun _ member => adds_keeps (link_product_adds _ _) member
  have product : (runCascade context).hasFilterOn context.options.productColumn ∨
      ∀ other, linkProduct context other = other := by
    rw [same]
    exact link_product_once context _
  obtain ⟨refound, grown, gone⟩ := link_again (fun _ => False)
    (fun _ recognized linkable _ _ linked => by
      rw [filters]
      exact .inl (linked_entity_filtered recognized linkable linked))
    provider product
  rw [grown, List.eq_nil_iff_forall_not_mem.mpr gone, List.append_nil]

theorem run_cascade_again_filters (context : Context) :
    (runRules cascade context (runCascade context)).filters = (runCascade context).filters := by
  have unrepeated : firstOfEachKey [] (runCascade context).filters =
      (runCascade context).filters := by
    apply first_of_each_key_eq (fun _ _ => List.not_mem_nil)
    rw [run_cascade_filters_gathered]
    exact gathered_filters_unrepeated context
  by_cases pins : PinsProvider context
  · obtain ⟨unranked, service, named⟩ := pins
    obtain ⟨keyword, pinned⟩ := pinned_provider_some_iff.mpr named
    have plain : (runCascade context).ranked = false := by
      rw [run_cascade_ranked, unranked]
      rfl
    rw [run_rules_filters_pinned unranked service pinned plain,
      pin_linked_again unranked service pinned, unrepeated]
  · rw [run_rules_filters_unpinned pins (by rw [run_cascade_ranked]; exact id),
      link_again_unpinned pins, unrepeated]

theorem counted_unranked (counts : asksCount context (runCascade context)) :
    ranking? context = none := by
  cases found : ranking? context with
  | none => rfl
  | some ranking =>
      obtain ⟨limit, column⟩ := ranking
      have outline := ranked_bare found {}
      have intent : (runCascade context).intent = some .findMostFrequentEntity := by
        rw [runCascade]
        simpa [rankEntities, found, Draft.bare] using congrArg Draft.intent outline
      have ranked : (runCascade context).ranked = true := by rw [run_cascade_ranked, found]; rfl
      simp [asksCount, intent, ranked] at counts

theorem count_again_eq (counts : asksCount context (runCascade context)) :
    runRules (cascade.drop 2) context (countRows context (runCascade context)) =
      runRules cascade context (runCascade context) := by
  have unranked := counted_unranked counts
  have first : runRules (cascade.take 2) context (runCascade context) =
      countRows context (runCascade context) := by
    simp [runRules, cascade, Rule.run, unranked, counts]
  rw [← first, ← run_rules_append, List.take_append_drop]

end

/-- What the rules have built they build once more. Linking may find filters that pinning has
removed, and these are removed again; a count may overwrite what has been built, and is
overwritten in turn. -/
theorem cascade_settles (context : Context) :
    runRules cascade context (runCascade context) = runCascade context ∧
    (∀ keyword, ranking? context = none → Occurs servicePhrase context.text →
      pinnedProvider? context = some keyword →
      (pinProvider context.options.providerColumn keyword
          (addEntityFilters context (runCascade context))).filters =
        (runCascade context).filters) ∧
    (asksCount context (runCascade context) →
      runRules (cascade.drop 2) context (countRows context (runCascade context)) =
        runCascade context) := by
  have settled : runRules cascade context (runCascade context) = runCascade context :=
    draft_eq_of_bare (run_cascade_again_bare context) (run_cascade_again_filters context)
  refine ⟨settled, ?_, ?_⟩
  · intro keyword unranked service pinned
    exact pin_linked_again unranked service pinned
  · intro counts
    exact (count_again_eq counts).trans settled

/-- A question that names two providers and counts, and asks for a service of one of them. -/
def countedService : Context where
  text := "count azure: the aws service with the most updates"
  analysis := vendorEntities
  table := vendorUpdates
  options := {}

theorem provider_and_count_undone :
    ranking? countedService = none ∧ Occurs servicePhrase countedService.text ∧
      pinnedProvider? countedService = some "aws" ∧
      asksCount countedService (runCascade countedService) ∧
      (addEntityFilters countedService (runCascade countedService)).filters =
        (runCascade countedService).filters ++ [.equals "provider" "Azure"] ∧
      countRows countedService (runCascade countedService) ≠ runCascade countedService ∧
      runRules cascade countedService (runCascade countedService) = runCascade countedService ∧
      (pinProvider "provider" "aws"
          (addEntityFilters countedService (runCascade countedService))).filters =
        (runCascade countedService).filters ∧
      runRules (cascade.drop 2) countedService
          (countRows countedService (runCascade countedService)) = runCascade countedService := by
  have unranked : ranking? countedService = none := by decide +kernel
  have service : Occurs servicePhrase countedService.text := by decide +kernel
  have pinned : pinnedProvider? countedService = some "aws" := by decide +kernel
  have counts : asksCount countedService (runCascade countedService) := by decide +kernel
  have linked : (addEntityFilters countedService (runCascade countedService)).filters =
      (runCascade countedService).filters ++ [.equals "provider" "Azure"] := by decide +kernel
  have counted : countRows countedService (runCascade countedService) ≠
      runCascade countedService := by decide +kernel
  obtain ⟨settled, repinned, recounted⟩ := cascade_settles countedService
  exact ⟨unranked, service, pinned, counts, linked, counted, settled,
    repinned "aws" unranked service pinned, recounted counts⟩

end TableTalk.Question
