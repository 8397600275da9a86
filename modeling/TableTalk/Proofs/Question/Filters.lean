import TableTalk.Proofs.Question.Rules

/-!
# The filters of parsed queries

Which filters linking and pinning add to a draft, which they keep, and what dropping
repeated filters leaves of them. The other rules do not touch filters.
-/

namespace TableTalk.Question

open TableTalk.Catalog
open TableTalk.Language
open TableTalk.Text

set_option autoImplicit false

/-- A filter that linking adds, with what in the question has called for it. -/
inductive Linkable (context : Context) : Filter → Prop where
  | entity {entity : Entity} {column found : String}
      (recognized : entity ∈ context.analysis.entities) (linkable : entity.label.isLinkable)
      (linked : linkText context.table entity.text = some (column, found)) :
      Linkable context (.equals column found)
  | keyword {keyword : String} (known : context.table.hasColumn context.options.providerColumn)
      (listed : keyword ∈ context.options.providerKeywords)
      (occurs : Occurs keyword context.text) :
      Linkable context (.equals context.options.providerColumn keyword)
  | product {column : Column} {found : String}
      (known : context.table.column? context.options.productColumn = some column)
      (listed : found ∈ column.examples) (occurs : Occurs (Text.lower found) context.text) :
      Linkable context (.equals context.options.productColumn found)

/-- No two filters restrict one column to one value, up to case. -/
def Unrepeated (filters : List Filter) : Prop :=
  filters.Pairwise fun earlier later => ¬earlier.targets later.column later.value

/-- One draft comes from the other by adding filters for which there is a reason. -/
inductive Adds (reason : Filter → Prop) (before : Draft) : Draft → Prop where
  | none : Adds reason before before
  | one {between : Draft} {added : Filter} (earlier : Adds reason before between)
      (given : reason added) : Adds reason before (between.addFilter added)

section

variable {context : Context} {draft : Draft} {filter : Filter}

/-! ## What adding a filter does -/

theorem add_filter_frame (draft : Draft) (filter : Filter) :
    ∃ filters, draft.addFilter filter = { draft with filters } := by
  unfold Draft.addFilter
  split
  · exact ⟨draft.filters, rfl⟩
  · exact ⟨_, rfl⟩

theorem add_filter_member {added : Filter} (member : filter ∈ (draft.addFilter added).filters) :
    filter ∈ draft.filters ∨ filter = added := by
  unfold Draft.addFilter at member
  split at member
  · exact .inl member
  · rcases List.mem_append.mp member with earlier | last
    · exact .inl earlier
    · exact .inr (List.mem_singleton.mp last)

theorem add_filter_keeps (added : Filter) (member : filter ∈ draft.filters) :
    filter ∈ (draft.addFilter added).filters := by
  unfold Draft.addFilter
  split
  · exact member
  · exact List.mem_append_left _ member

theorem add_filter_covers (draft : Draft) (added : Filter) :
    ∃ kept ∈ (draft.addFilter added).filters, kept.targets added.column added.value := by
  unfold Draft.addFilter
  split
  · rename_i present
    exact List.any_eq_true.mp present
  · refine ⟨added, List.mem_append_right _ (List.mem_singleton_self _), ?_⟩
    simp [Filter.targets]

theorem add_filter_unrepeated {added : Filter} (unrepeated : Unrepeated draft.filters) :
    Unrepeated (draft.addFilter added).filters := by
  unfold Draft.addFilter
  split
  · exact unrepeated
  · rename_i missing
    apply List.pairwise_append.mpr
    refine ⟨unrepeated, List.pairwise_singleton _ _, ?_⟩
    intro present member last same
    rw [List.mem_singleton.mp same]
    exact fun targeted => missing (List.any_eq_true.mpr ⟨present, member, targeted⟩)

theorem add_filter_on_free_column {column : String} (free : ¬draft.hasFilterOn column)
    (value : String) :
    draft.addFilter (.equals column value) =
      { draft with filters := draft.filters ++ [.equals column value] } := by
  have missing : ¬draft.filters.any fun present => present.targets column value := by
    intro found
    obtain ⟨present, member, targeted⟩ := List.any_eq_true.mp found
    have onColumn := (Bool.and_eq_true_iff.mp targeted).1
    exact free (List.any_eq_true.mpr ⟨present, member, onColumn⟩)
  exact if_neg missing

/-! ## What adding filters does -/

section

variable {reason : Filter → Prop} {before after : Draft}

theorem adds_trans {last : Draft} (first : Adds reason before after)
    (second : Adds reason after last) : Adds reason before last := by
  induction second with
  | none => exact first
  | one _ given ih => exact .one ih given

theorem adds_weaken {other : Filter → Prop} (adds : Adds reason before after)
    (weaker : ∀ filter, reason filter → other filter) : Adds other before after := by
  induction adds with
  | none => exact .none
  | one _ given ih => exact .one ih (weaker _ given)

theorem adds_frame (adds : Adds reason before after) :
    ∃ filters, after = { before with filters } := by
  induction adds with
  | none => exact ⟨before.filters, rfl⟩
  | one _ _ ih =>
      obtain ⟨_, rfl⟩ := ih
      exact add_filter_frame _ _

theorem adds_member (adds : Adds reason before after) (member : filter ∈ after.filters) :
    filter ∈ before.filters ∨ reason filter := by
  induction adds with
  | none => exact .inl member
  | one _ given ih =>
      rcases add_filter_member member with earlier | rfl
      · exact ih earlier
      · exact .inr given

theorem adds_keeps (adds : Adds reason before after) (member : filter ∈ before.filters) :
    filter ∈ after.filters := by
  induction adds with
  | none => exact member
  | one _ _ ih => exact add_filter_keeps _ ih

theorem adds_unrepeated (adds : Adds reason before after)
    (unrepeated : Unrepeated before.filters) : Unrepeated after.filters := by
  induction adds with
  | none => exact unrepeated
  | one _ _ ih => exact add_filter_unrepeated ih

end

/-! ## What linking adds -/

theorem link_entity_adds {reason : Filter → Prop} {entity : Entity}
    (given : ∀ column found, linkText context.table entity.text = some (column, found) →
      reason (.equals column found)) :
    Adds reason draft (linkEntity context draft entity) := by
  unfold linkEntity
  split
  · rename_i column found linked
    exact .one .none (given column found linked)
  · exact .none

theorem link_entities_adds (context : Context) (draft : Draft) :
    Adds (fun filter => ∃ entity ∈ context.analysis.entities, entity.label.isLinkable ∧
      ∃ column found, linkText context.table entity.text = some (column, found) ∧
        filter = .equals column found) draft (linkEntities context draft) := by
  unfold linkEntities
  apply List.foldlRecOn _ _ .none
  intro current adds entity listed
  obtain ⟨recognized, linkable⟩ := List.mem_filter.mp listed
  apply adds_trans adds
  apply link_entity_adds
  intro column found linked
  exact ⟨entity, recognized, linkable, column, found, linked, rfl⟩

theorem link_provider_adds (context : Context) (draft : Draft) :
    Adds (Linkable context) draft (linkProvider context draft) := by
  unfold linkProvider
  dsimp only
  split
  · exact .none
  · rename_i blocked
    rw [Bool.or_eq_true, not_or, Bool.not_eq_true', Bool.not_eq_false] at blocked
    obtain ⟨free, known⟩ := blocked
    split
    · rename_i keyword found
      have occurs := (mentions_iff _ _).mp (List.find?_some found)
      -- The keyword is appended unseen, but with no filter on its column that is adding it.
      rw [← add_filter_on_free_column free]
      exact .one .none (.keyword known (List.mem_of_find?_eq_some found) occurs)
    · exact .none

theorem link_product_adds (context : Context) (draft : Draft) :
    Adds (Linkable context) draft (linkProduct context draft) := by
  unfold linkProduct
  dsimp only
  split
  · exact .none
  · cases known : context.table.column? context.options.productColumn with
    | none => exact .none
    | some column =>
        rw [Option.map_some, Option.getD_some]
        split
        · rename_i value found
          have mentioned := List.find?_some found
          have occurs := (mentions_iff _ _).mp mentioned
          exact .one .none (.product known (List.mem_of_find?_eq_some found) occurs)
        · exact .none

theorem add_entity_filters_adds (context : Context) (draft : Draft) :
    Adds (Linkable context) draft (addEntityFilters context draft) := by
  have entities : Adds (Linkable context) draft (linkEntities context draft) := by
    apply adds_weaken (link_entities_adds context draft)
    rintro _ ⟨entity, recognized, linkable, column, found, linked, rfl⟩
    exact .entity recognized linkable linked
  exact adds_trans (adds_trans entities (link_provider_adds _ _)) (link_product_adds _ _)

/-! ## What pinning leaves -/

theorem pin_provider_member {provider keyword : String}
    (member : filter ∈ (pinProvider provider keyword draft).filters) :
    filter ∈ draft.filters ∨ filter = .equals provider keyword := by
  unfold pinProvider at member
  dsimp only at member
  split at member
  · exact .inl (List.mem_of_mem_filter member)
  · rcases List.mem_append.mp member with kept | last
    · exact .inl (List.mem_of_mem_filter kept)
    · exact .inr (List.mem_singleton.mp last)

theorem select_service_member (member : filter ∈ (selectService context draft).filters) :
    filter ∈ draft.filters ∨ ∃ keyword, pinnedProvider? context = some keyword ∧
      filter = .equals context.options.providerColumn keyword := by
  unfold selectService at member
  cases pinned : pinnedProvider? context with
  | none =>
      rw [pinned] at member
      exact .inl member
  | some keyword =>
      rw [pinned] at member
      rcases pin_provider_member member with earlier | rfl
      · exact .inl earlier
      · exact .inr ⟨keyword, rfl, rfl⟩

/-! ## What dropping repeated filters leaves -/

/-- Two filters that are told apart by their columns and lowered values have different keys. -/
theorem unrepeated_keys {filters : List Filter} (unrepeated : Unrepeated filters) :
    filters.Pairwise fun earlier later => earlier.key ≠ later.key := by
  apply unrepeated.imp
  intro earlier later apart same
  obtain ⟨column, operatorAndValue⟩ := Prod.mk.inj same
  have value := (Prod.mk.inj operatorAndValue).2
  apply apart
  simp [Filter.targets, column, value]

theorem first_of_each_key_of_distinct {seen : List (String × String × String)}
    {filters : List Filter} (fresh : ∀ filter ∈ filters, filter.key ∉ seen)
    (distinct : filters.Pairwise fun earlier later => earlier.key ≠ later.key) :
    firstOfEachKey seen filters = filters := by
  induction filters generalizing seen with
  | nil => rfl
  | cons first others ih =>
      obtain ⟨apart, others⟩ := List.pairwise_cons.mp distinct
      have unseen : ¬seen.contains first.key := fun found =>
        fresh first (List.mem_cons_self ..) (List.contains_iff_mem.mp found)
      rw [firstOfEachKey, if_neg unseen, ih ?_ others]
      intro other member known
      rcases List.mem_cons.mp known with same | earlier
      · exact apart other member same.symm
      · exact fresh other (List.mem_cons_of_mem _ member) earlier

theorem first_of_each_key_eq {seen : List (String × String × String)} {filters : List Filter}
    (fresh : ∀ filter ∈ filters, filter.key ∉ seen) (unrepeated : Unrepeated filters) :
    firstOfEachKey seen filters = filters :=
  first_of_each_key_of_distinct fresh (unrepeated_keys unrepeated)

/-- For every filter that is dropped, one with its key has come before. -/
theorem first_of_each_key_covers (seen : List (String × String × String))
    (filters : List Filter) (member : filter ∈ filters) :
    filter.key ∈ seen ∨ ∃ kept ∈ firstOfEachKey seen filters, kept.key = filter.key := by
  induction filters generalizing seen with
  | nil => cases member
  | cons first others ih =>
      unfold firstOfEachKey
      by_cases repeated : seen.contains first.key
      · rw [if_pos repeated]
        rcases List.mem_cons.mp member with rfl | later
        · exact .inl (List.contains_iff_mem.mp repeated)
        · exact ih seen later
      · rw [if_neg repeated]
        rcases List.mem_cons.mp member with rfl | later
        · exact .inr ⟨filter, List.mem_cons_self .., rfl⟩
        · rcases ih (first.key :: seen) later with known | ⟨kept, present, same⟩
          · rcases List.mem_cons.mp known with same | earlier
            · exact .inr ⟨first, List.mem_cons_self .., same.symm⟩
            · exact .inl earlier
          · exact .inr ⟨kept, List.mem_cons_of_mem _ present, same⟩

/-! ## The whole cascade -/

theorem first_rules_keep (context : Context) (draft : Draft)
    (unranked : draft.ranked → (ranking? context).isSome) :
    (runRules (cascade.take 3) context draft).filters = draft.filters ∧
      (runRules (cascade.take 3) context draft).ranked = (ranking? context).isSome := by
  let framed : Draft → Prop := fun current =>
    current.filters = draft.filters ∧ current.ranked = (ranking? context).isSome
  have ranked :
      framed (if (ranking? context).isSome then rankEntities context draft else draft) := by
    cases found : ranking? context with
    | none =>
        have plain : draft.ranked = false := by simpa [found] using unranked
        exact ⟨rfl, by simp [found, plain]⟩
    | some ranking => simp [framed, rankEntities, found]
  have kept : ∀ rule ∈ (cascade.take 3).tail, ∀ current, framed current →
      framed (rule.effect context current) := by
    intro rule member current frame
    simp only [cascade, List.take_succ_cons, List.take_zero, List.tail_cons, List.mem_cons,
      List.not_mem_nil, or_false] at member
    rcases member with rfl | rfl
    · exact frame
    · exact frame
  exact run_rules_preserve kept ranked

theorem first_rules_frame (context : Context) :
    (runRules (cascade.take 3) context {}).filters = [] ∧
      (runRules (cascade.take 3) context {}).ranked = (ranking? context).isSome :=
  first_rules_keep context {} (fun ranked => absurd ranked Bool.false_ne_true)

/-- The last rules pin the provider of a single service, and drop repeated filters. -/
theorem last_rules_filters (context : Context) {draft : Draft}
    (ranked : draft.ranked = (ranking? context).isSome) :
    (runRules (cascade.drop 3) context draft).filters =
      let linked := addEntityFilters context draft
      firstOfEachKey [] <|
        if ranking? context = none ∧ Occurs "service with the most updates" context.text then
          (selectService context linked).filters
        else linked.filters := by
  obtain ⟨filters, frame⟩ := adds_frame (add_entity_filters_adds context draft)
  have service : asksService context (addEntityFilters context draft) ↔
      ranking? context = none ∧ Occurs "service with the most updates" context.text := by
    rw [frame]
    simp [asksService, ranked, Context.mentions, mentions_iff, servicePhrase]
  have found : ∀ draft : Draft,
      (if draft.intent.isNone then findData context draft else draft).filters =
        draft.filters := by
    intro draft
    split
    · rfl
    · rfl
  rw [last_rules_eq]
  dsimp only
  rw [found]
  simp only [dropRepeatedFilters, service]
  split
  · rfl
  · rfl

/-- The filters of a question are those that linking finds, after pinning the provider of
a single service. -/
theorem run_cascade_filters (context : Context) :
    (runCascade context).filters =
      let linked := addEntityFilters context (runRules (cascade.take 3) context {})
      firstOfEachKey [] <|
        if ranking? context = none ∧ Occurs "service with the most updates" context.text then
          (selectService context linked).filters
        else linked.filters := by
  rw [run_cascade_parts]
  exact last_rules_filters context (first_rules_frame context).2

theorem linked_filters_unrepeated (context : Context) :
    Unrepeated (addEntityFilters context (runRules (cascade.take 3) context {})).filters := by
  apply adds_unrepeated (add_entity_filters_adds _ _)
  rw [(first_rules_frame context).1]
  exact .nil

theorem run_cascade_filters_linked
    (unasked : ¬Occurs "service with the most updates" context.text) :
    (runCascade context).filters =
      (addEntityFilters context (runRules (cascade.take 3) context {})).filters := by
  rw [run_cascade_filters]
  dsimp only
  rw [if_neg (fun asked => unasked asked.2)]
  exact first_of_each_key_eq (fun _ _ => List.not_mem_nil) (linked_filters_unrepeated context)

theorem run_cascade_member (member : filter ∈ (runCascade context).filters) :
    Linkable context filter ∨
      (ranking? context = none ∧ Occurs "service with the most updates" context.text) ∧
        ∃ keyword, pinnedProvider? context = some keyword ∧
          filter = .equals context.options.providerColumn keyword := by
  obtain ⟨unfiltered, _⟩ := first_rules_frame context
  have linked : ∀ other ∈ (addEntityFilters context
      (runRules (cascade.take 3) context {})).filters, Linkable context other := by
    intro other listed
    have source := adds_member (add_entity_filters_adds _ _) listed
    rw [unfiltered] at source
    exact source.resolve_left List.not_mem_nil
  rw [run_cascade_filters] at member
  have source := first_of_each_key_subset _ _ member
  split at source
  · rename_i service
    rcases select_service_member source with earlier | pinned
    · exact .inl (linked filter earlier)
    · exact .inr ⟨service, pinned⟩
  · exact .inl (linked filter source)

end

end TableTalk.Question
