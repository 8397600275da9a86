import Mathlib.Data.List.Nodup
import TableTalk.Language.Gazetteer

/-!
# Phrase lists in order

A phrase list is sorted before repeated phrases are dropped, and repetitions are only looked
for among neighbours. Since the order brings equal token sequences together, no two phrases
of a list have the same tokens, and no phrase stands behind a shorter one. Sorting is stable,
so of entries with the same tokens the list keeps the first.
-/

namespace TableTalk.Language

set_option autoImplicit false

/-! ## The order of phrases -/

theorem tokens_precede_iff (first second : List String) :
    tokensPrecede first second ↔ List.le first second := by
  induction first generalizing second with
  | nil => exact iff_of_true rfl (List.nil_le second)
  | cons token tokens ih =>
      cases second with
      | nil =>
          apply iff_of_false Bool.false_ne_true
          exact fun before => before (List.nil_lt_cons token tokens)
      | cons other others =>
          rw [tokensPrecede, Bool.or_eq_true, decide_eq_true_iff, Bool.and_eq_true, beq_iff_eq,
            ih]
          exact List.cons_le_cons_iff.symm

/-- The first phrase has at least as many tokens as the second, and of phrases with equally
many tokens it has those that come first. -/
def GazetteerEntry.NotAfter (first second : GazetteerEntry) : Prop :=
  second.tokens.length < first.tokens.length ∨
    (first.tokens.length = second.tokens.length ∧ List.le first.tokens second.tokens)

section

variable {first second third : GazetteerEntry}

theorem precedes_iff : first.precedes second ↔ first.NotAfter second := by
  simp [GazetteerEntry.precedes, GazetteerEntry.NotAfter, tokens_precede_iff]

theorem not_after_trans (before : first.NotAfter second) (after : second.NotAfter third) :
    first.NotAfter third := by
  rcases before with longer | ⟨same, ordered⟩
  · left
    rcases after with still | ⟨same, _⟩
    · exact Nat.lt_trans still longer
    · rwa [← same]
  · rcases after with longer | ⟨equal, continued⟩
    · left
      rwa [same]
    · exact Or.inr ⟨same.trans equal, List.le_trans ordered continued⟩

theorem not_after_total (first second : GazetteerEntry) :
    first.NotAfter second ∨ second.NotAfter first := by
  rcases Nat.lt_trichotomy second.tokens.length first.tokens.length with longer | same | shorter
  · exact Or.inl (Or.inl longer)
  · exact (List.le_total first.tokens second.tokens).imp
      (fun ordered => Or.inr ⟨same.symm, ordered⟩) (fun ordered => Or.inr ⟨same, ordered⟩)
  · exact Or.inr (Or.inl shorter)

theorem not_after_antisymm (before : first.NotAfter second) (after : second.NotAfter first) :
    first.tokens = second.tokens := by
  rcases before with longer | ⟨same, ordered⟩
  · rcases after with shorter | ⟨same, _⟩
    · exact absurd longer (Nat.lt_asymm shorter)
    · exact absurd same (Nat.ne_of_lt longer)
  · rcases after with shorter | ⟨_, reversed⟩
    · exact absurd same (Nat.ne_of_lt shorter)
    · exact List.le_antisymm ordered reversed

theorem not_after_of_same (same : first.tokens = second.tokens) : first.NotAfter second := by
  right
  rw [same]
  exact ⟨rfl, List.le_refl _⟩

theorem precedes_trans (first second third : GazetteerEntry) (before : first.precedes second)
    (after : second.precedes third) : first.precedes third := by
  rw [precedes_iff] at before after ⊢
  exact not_after_trans before after

theorem precedes_total (first second : GazetteerEntry) :
    first.precedes second || second.precedes first := by
  rw [Bool.or_eq_true, precedes_iff, precedes_iff]
  exact not_after_total first second

end

/-! ## Repeated phrases -/

section

variable {Item : Type} (same : Item → Item → Bool)

theorem erase_reps_loop_eq (last : Item) (items seen : List Item) :
    List.eraseRepsBy.loop same last items seen =
      seen.reverse ++ List.eraseRepsBy same (last :: items) := by
  induction items generalizing last seen with
  | nil => simp [List.eraseRepsBy, List.eraseRepsBy.loop]
  | cons next items ih =>
      rw [List.eraseRepsBy, List.eraseRepsBy.loop, List.eraseRepsBy.loop]
      split
      · exact ih last seen
      · rw [ih next (last :: seen), ih next [last]]
        simp

theorem erase_reps_cons (first next : Item) (items : List Item) :
    (first :: next :: items).eraseRepsBy same =
      if same first next then (first :: items).eraseRepsBy same
      else first :: (next :: items).eraseRepsBy same := by
  rw [List.eraseRepsBy, List.eraseRepsBy.loop]
  split
  · rename_i repeated
    rw [repeated, if_pos rfl]
    rfl
  · rename_i differs
    rw [differs, if_neg Bool.false_ne_true, erase_reps_loop_eq, List.reverse_singleton,
      List.singleton_append]

theorem erase_reps_subset {items : List Item} {item : Item}
    (member : item ∈ items.eraseRepsBy same) : item ∈ items := by
  cases items with
  | nil => cases member
  | cons first items =>
      induction items generalizing first with
      | nil => exact member
      | cons next items ih =>
          rw [erase_reps_cons] at member
          split at member
          · exact List.mem_cons.mpr ((List.mem_cons.mp (ih first member)).imp_right
              (List.mem_cons_of_mem next))
          · exact List.mem_cons.mpr ((List.mem_cons.mp member).imp_right (ih next))

theorem erase_reps_covers {Key : Type} (key : Item → Key)
    (alike : ∀ a b, same a b → key a = key b) {items : List Item} {item : Item}
    (member : item ∈ items) : ∃ kept ∈ items.eraseRepsBy same, key kept = key item := by
  cases items with
  | nil => cases member
  | cons first items =>
      induction items generalizing first item with
      | nil => exact ⟨item, member, rfl⟩
      | cons next items ih =>
          rw [erase_reps_cons]
          split
          · rename_i repeated
            rcases List.mem_cons.mp member with rfl | later
            · exact ih item List.mem_cons_self
            · rcases List.mem_cons.mp later with rfl | later
              · rw [← alike first item repeated]
                exact ih first List.mem_cons_self
              · exact ih first (List.mem_cons_of_mem first later)
          · rcases List.mem_cons.mp member with rfl | later
            · exact ⟨item, List.mem_cons_self, rfl⟩
            · obtain ⟨kept, present, alike⟩ := ih next later
              exact ⟨kept, List.mem_cons_of_mem first present, alike⟩

/-- In a sorted list all repetitions are among neighbours. -/
theorem erase_reps_pairwise {order : Item → Item → Prop}
    (trans : ∀ a b c, order a b → order b c → order a c)
    (antisymm : ∀ a b, order a b → order b a → same a b)
    (equal : ∀ a b, same a b → order b a)
    {items : List Item} (sorted : items.Pairwise order) :
    (items.eraseRepsBy same).Pairwise fun a b => order a b ∧ ¬same a b := by
  cases items with
  | nil => exact List.Pairwise.nil
  | cons first items =>
      induction items generalizing first with
      | nil => exact List.pairwise_singleton _ _
      | cons next items ih =>
          obtain ⟨before, rest⟩ := List.pairwise_cons.mp sorted
          obtain ⟨beforeNext, beforeItems⟩ := List.forall_mem_cons.mp before
          rw [erase_reps_cons]
          split
          · obtain ⟨_, others⟩ := List.pairwise_cons.mp rest
            exact ih first (List.pairwise_cons.mpr ⟨beforeItems, others⟩)
          · rename_i differs
            refine List.pairwise_cons.mpr ⟨?_, ih next rest⟩
            intro item member
            have listed := erase_reps_subset same member
            refine ⟨before item listed, ?_⟩
            -- What repeats `first` comes before `next`, which then repeats `first` as well.
            intro repeated
            apply differs
            apply antisymm _ _ beforeNext
            rcases List.mem_cons.mp listed with rfl | later
            · exact equal _ _ repeated
            · exact trans _ _ _ ((List.pairwise_cons.mp rest).1 item later) (equal _ _ repeated)

end

/-! ## Lists of phrases -/

theorem of_entries_entry {entries : List GazetteerEntry} {entry : GazetteerEntry}
    (member : entry ∈ (Gazetteer.ofEntries entries).entries) :
    entry ∈ entries ∧ entry.tokens ≠ [] := by
  have sorted := erase_reps_subset _ member
  have listed := List.mem_filter.mp (List.mem_mergeSort.mp sorted)
  exact ⟨listed.1, by simpa using listed.2⟩

theorem of_entries_covers {entries : List GazetteerEntry} {entry : GazetteerEntry}
    (member : entry ∈ entries) (nonempty : entry.tokens ≠ []) :
    ∃ kept ∈ (Gazetteer.ofEntries entries).entries, kept.tokens = entry.tokens := by
  have listed : entry ∈ (entries.filter fun entry => !entry.tokens.isEmpty).mergeSort
      GazetteerEntry.precedes :=
    List.mem_mergeSort.mpr (List.mem_filter.mpr ⟨member, by simpa using nonempty⟩)
  exact erase_reps_covers _ GazetteerEntry.tokens (fun a b same => beq_iff_eq.mp same) listed

/-- No phrase is empty, none is given twice, and none stands behind a shorter one. -/
structure Gazetteer.InOrder (gazetteer : Gazetteer) : Prop where
  nonempty : ∀ entry ∈ gazetteer.entries, entry.tokens ≠ []
  sorted : gazetteer.entries.Pairwise GazetteerEntry.NotAfter
  distinct : (gazetteer.entries.map GazetteerEntry.tokens).Nodup

theorem of_entries_in_order (entries : List GazetteerEntry) :
    (Gazetteer.ofEntries entries).InOrder := by
  have sorted : ((entries.filter fun entry => !entry.tokens.isEmpty).mergeSort
      GazetteerEntry.precedes).Pairwise GazetteerEntry.NotAfter :=
    (List.pairwise_mergeSort precedes_trans precedes_total _).imp precedes_iff.mp
  have erased : (Gazetteer.ofEntries entries).entries.Pairwise fun a b =>
      a.NotAfter b ∧ ¬(a.tokens == b.tokens) := by
    apply erase_reps_pairwise _ _ _ _ sorted
    · exact fun a b c => not_after_trans
    · exact fun a b before after => beq_iff_eq.mpr (not_after_antisymm before after)
    · exact fun a b same => not_after_of_same (beq_iff_eq.mp same).symm
  refine ⟨fun entry member => (of_entries_entry member).2, erased.imp And.left, ?_⟩
  apply List.pairwise_map.mpr
  apply erased.imp
  intro a b strictly same
  exact strictly.2 (beq_iff_eq.mpr same)

/-! ## First appearances -/

section

variable {Item : Type} {test : Item → Bool}

/-- Dropping repetitions among neighbours keeps the first item that passes a test, if items
that repeat one another pass it alike. -/
theorem erase_reps_find (same : Item → Item → Bool) (alike : ∀ a b, same a b → test a = test b)
    (items : List Item) : (items.eraseRepsBy same).find? test = items.find? test := by
  cases items with
  | nil => rfl
  | cons first items =>
      induction items generalizing first with
      | nil => rfl
      | cons next items ih =>
          rw [erase_reps_cons]
          split
          · rename_i repeated
            rw [ih first, List.find?_cons, List.find?_cons, List.find?_cons,
              ← alike first next repeated]
            cases test first <;> rfl
          · rw [List.find?_cons, ih next, List.find?_cons (a := first)]

/-- Sorting keeps the first item that passes a test, if the order does not tell items apart
that pass it. -/
theorem merge_sort_find {order : Item → Item → Bool}
    (trans : ∀ a b c, order a b → order b c → order a c)
    (total : ∀ a b, order a b || order b a) (alike : ∀ a b, test a → test b → order a b)
    (items : List Item) : (items.mergeSort order).find? test = items.find? test := by
  have together : (items.filter test).Pairwise fun a b => order a b := by
    apply List.Pairwise.imp_of_mem _ (List.pairwise_of_forall fun _ _ => trivial)
    intro a b first second _
    exact alike a b (List.mem_filter.mp first).2 (List.mem_filter.mp second).2
  -- Sorting is stable, so the items that pass stay in their order.
  have kept := (List.sublist_mergeSort trans total together List.filter_sublist).filter test
  rw [List.filter_filter] at kept
  simp only [Bool.and_self] at kept
  have size := ((List.mergeSort_perm items order).filter test).length_eq
  rw [← List.head?_filter, ← kept.eq_of_length size.symm, List.head?_filter]

end

/-- The entry is the first of those with its phrase. -/
def GazetteerEntry.FirstGiven (entries : List GazetteerEntry) (entry : GazetteerEntry) : Prop :=
  ∃ before after, entries = before ++ entry :: after ∧
    ∀ other ∈ before, other.tokens ≠ entry.tokens

theorem first_given_iff {entries : List GazetteerEntry} {entry : GazetteerEntry} :
    entry.FirstGiven entries ↔ entries.find? (·.tokens == entry.tokens) = some entry := by
  rw [List.find?_eq_some_iff_append]
  simp [GazetteerEntry.FirstGiven]

theorem of_entries_find (entries : List GazetteerEntry) {tokens : List String}
    (nonempty : tokens ≠ []) :
    (Gazetteer.ofEntries entries).entries.find? (fun entry => entry.tokens == tokens) =
      entries.find? fun entry => entry.tokens == tokens := by
  have kept : (entries.filter fun entry => !entry.tokens.isEmpty).find?
      (fun entry => entry.tokens == tokens) =
        entries.find? fun entry => entry.tokens == tokens := by
    rw [List.find?_filter]
    congr 1
    funext entry
    rw [Bool.eq_iff_iff, decide_eq_true_iff, beq_iff_eq, and_iff_right_iff_imp]
    rintro rfl
    simpa using nonempty
  unfold Gazetteer.ofEntries
  dsimp only
  rw [erase_reps_find, merge_sort_find precedes_trans precedes_total, kept]
  · intro a b first second
    have same := (beq_iff_eq.mp first).trans (beq_iff_eq.mp second).symm
    exact precedes_iff.mpr (not_after_of_same same)
  · intro a b same
    rw [beq_iff_eq.mp same]

theorem mem_of_entries_iff {entries : List GazetteerEntry} {entry : GazetteerEntry} :
    entry ∈ (Gazetteer.ofEntries entries).entries ↔
      entry.tokens ≠ [] ∧ entry.FirstGiven entries := by
  have ordered := of_entries_in_order entries
  rw [first_given_iff]
  constructor
  · intro member
    have nonempty := ordered.nonempty entry member
    refine ⟨nonempty, ?_⟩
    rw [← of_entries_find entries nonempty]
    cases found : (Gazetteer.ofEntries entries).entries.find?
        fun other => other.tokens == entry.tokens with
    | none => exact absurd (beq_self_eq_true _) (List.find?_eq_none.mp found entry member)
    | some other =>
        have same : other.tokens = entry.tokens := by simpa using List.find?_some found
        have listed := List.mem_of_find?_eq_some found
        rw [List.inj_on_of_nodup_map ordered.distinct listed member same]
  · rintro ⟨nonempty, found⟩
    rw [← of_entries_find entries nonempty] at found
    exact List.mem_of_find?_eq_some found

end TableTalk.Language
