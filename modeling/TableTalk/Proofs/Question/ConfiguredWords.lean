import TableTalk.Proofs.Language.BaseForms
import TableTalk.Proofs.Question.Linking
import TableTalk.Proofs.Question.Ranking
import TableTalk.Proofs.Text.AsciiCase

/-!
# The spelling of configured words

Questions are lower-cased before configured words are looked for in them, the words themselves
are not. So a word with a capital letter is never found, and a configuration is read as if such
words were missing; all others are found whenever they occur.
-/

namespace TableTalk.Question

open TableTalk.Catalog
open TableTalk.Language
open TableTalk.Text

set_option autoImplicit false

/-- Two configurations differ at most in the case of the letters of their words. -/
structure Options.SpelledAlike (first second : Options) : Prop where
  others : second = { first with
    providerKeywords := second.providerKeywords, entityWords := second.entityWords }
  providerKeywords : List.Forall₂ (fun a b => equalAsciiCase a b)
    first.providerKeywords second.providerKeywords
  entityWords : List.Forall₂ (fun a b => equalAsciiCase a b)
    first.entityWords second.entityWords

/-- A word occurs in the text of a question, or is the base form of one of its words. -/
def Context.Names (context : Context) (word : String) : Prop :=
  Occurs word context.text ∨ ∃ token ∈ context.analysis.tokens, token.base = word

/-- Of the words that are named when they are put in lower case, the same ones are spelled in
lower case in both lists. -/
def CasedAlike (named : String → Prop) (first second : List String) : Prop :=
  List.Forall₂ (fun a b => named (lower a) → (lower a = a ↔ lower b = b)) first second

instance (context : Context) (word : String) : Decidable (context.Names word) := by
  unfold Context.Names
  infer_instance

instance (named : String → Prop) [DecidablePred named] (first second : List String) :
    Decidable (CasedAlike named first second) := by
  unfold CasedAlike
  infer_instance

/-- Two queries differ at most in the case of the values that they filter by. -/
def AgreeUpToCase (first second : Query) : Prop :=
  { first with filters := [] } = { second with filters := [] } ∧
    List.Forall₂ (fun a b => a.column = b.column ∧ a.operator = b.operator ∧
      lower a.value = lower b.value) first.filters second.filters

def Options.inLowerCase (options : Options) : Options :=
  { options with
    providerKeywords := options.providerKeywords.filter fun word => lower word = word
    entityWords := options.entityWords.filter fun word => lower word = word }

/-- Two lists give the same answer to whoever looks for a word in lower case that is named. -/
def FoundAlike (named : String → Prop) (first second : List String) : Prop :=
  ∀ matching : String → Bool, (∀ word, matching word → lower word = word ∧ named word) →
    first.find? matching = second.find? matching

/-! ## Lists of words -/

theorem found_alike_in_lower_case (named : String → Prop) (words : List String) :
    FoundAlike named words (words.filter fun word => lower word = word) := by
  intro matching lowered
  rw [List.find?_filter]
  congr 1
  funext word
  cases found : matching word with
  | false => simp
  | true => simp [(lowered word found).1]

theorem found_alike_of_cased {named : String → Prop} {first second : List String}
    (alike : List.Forall₂ (fun a b => equalAsciiCase a b) first second)
    (cased : CasedAlike named first second) : FoundAlike named first second := by
  intro matching lowered
  induction alike with
  | nil => rfl
  | @cons a b first second same _ ih =>
      obtain ⟨here, later⟩ := List.forall₂_cons.mp cased
      have folded : lower a = lower b := lower_eq_of_equal_ascii_case same
      -- A word that is found is in lower case, and so is the other one, which then equals it.
      have equal : matching a ∨ matching b → a = b := by
        rintro (found | found)
        · obtain ⟨small, isNamed⟩ := lowered a found
          rw [← small, folded]
          exact (here (small.symm ▸ isNamed)).mp small
        · obtain ⟨small, isNamed⟩ := lowered b found
          rw [← small, ← folded]
          exact ((here (folded.trans small ▸ isNamed)).mpr small).symm
      by_cases found : matching a ∨ matching b
      · rw [equal found, List.find?_cons, List.find?_cons, ih later]
      · obtain ⟨missed, otherMissed⟩ := not_or.mp found
        rw [List.find?_cons_of_neg missed, List.find?_cons_of_neg otherMissed, ih later]

theorem found_alike_exists {named : String → Prop} {first second : List String}
    (alike : FoundAlike named first second) {sought : String → Prop} [DecidablePred sought]
    (lowered : ∀ word, sought word → lower word = word ∧ named word) :
    (∃ word ∈ first, sought word) ↔ ∃ word ∈ second, sought word := by
  have found := congrArg Option.isSome (alike (fun word => decide (sought word)) fun word known =>
    lowered word (of_decide_eq_true known))
  rw [Bool.eq_iff_iff, List.find?_isSome, List.find?_isSome] at found
  simpa only [decide_eq_true_eq] using found

/-! ## Rules -/

theorem occurs_lowered {word question : String} (occurs : Occurs word (lower question)) :
    lower word = word :=
  lower_part_of_lowered occurs.subset

def Context.withWords (context : Context) (keywords entityWords : List String) : Context :=
  { context with options := { context.options with
      providerKeywords := keywords, entityWords := entityWords } }

structure Context.IsLowered (context : Context) : Prop where
  text : ∀ word, Occurs word context.text → lower word = word
  bases : ∀ token ∈ context.analysis.tokens, lower token.base = token.base

section

variable {context : Context} {keywords entityWords : List String}

theorem ranking_with_words (lowered : context.IsLowered)
    (alike : FoundAlike context.Names context.options.entityWords entityWords) :
    ranking? (context.withWords keywords entityWords) = ranking? context := by
  have mentioned : (∃ word ∈ context.options.entityWords, Occurs word context.text) ↔
      ∃ word ∈ entityWords, Occurs word context.text :=
    found_alike_exists alike fun word occurs => ⟨lowered.text word occurs, .inl occurs⟩
  have hinted : ∀ token ∈ context.analysis.tokens,
      (∃ word ∈ context.options.entityWords, word = token.base) ↔
        ∃ word ∈ entityWords, word = token.base := by
    intro token listed
    apply found_alike_exists alike
    rintro _ rfl
    exact ⟨lowered.bases token listed, .inr ⟨token, listed, rfl⟩⟩
  have same : ∀ index,
      RanksEntitiesAt (context.withWords keywords entityWords) index ↔
        RanksEntitiesAt context index := by
    intro index
    refine or_congr (exists_congr fun token => and_congr_right fun present => ?_) mentioned.symm
    have listed := hinted token (List.mem_of_getElem? present)
    rw [exists_eq_right, exists_eq_right] at listed
    exact listed.symm
  apply Option.ext
  rintro ⟨n, column⟩
  rw [ranking_eq_some_iff, ranking_eq_some_iff]
  simp only [same]
  rfl

theorem pinned_provider_with_words (lowered : context.IsLowered)
    (alike : FoundAlike context.Names context.options.providerKeywords keywords) :
    pinnedProvider? (context.withWords keywords entityWords) = pinnedProvider? context := by
  symm
  apply alike
  intro word found
  have occurs := occurs_of_append ((mentions_iff _ _).mp found)
  exact ⟨lowered.text word occurs, .inl occurs⟩

theorem link_provider_with_words (lowered : context.IsLowered)
    (alike : FoundAlike context.Names context.options.providerKeywords keywords)
    (draft : Draft) :
    linkProvider (context.withWords keywords entityWords) draft =
      linkProvider context draft := by
  have found : (context.withWords keywords entityWords).options.providerKeywords.find?
      (context.withWords keywords entityWords).mentions =
        context.options.providerKeywords.find? context.mentions := by
    symm
    apply alike
    intro word found
    have occurs := (mentions_iff _ _).mp found
    exact ⟨lowered.text word occurs, .inl occurs⟩
  unfold linkProvider
  rw [found]
  rfl

theorem run_cascade_with_words (lowered : context.IsLowered)
    (alikeKeywords : FoundAlike context.Names context.options.providerKeywords keywords)
    (alikeWords : FoundAlike context.Names context.options.entityWords entityWords) :
    runCascade (context.withWords keywords entityWords) = runCascade context := by
  have ranking : ranking? (context.withWords keywords entityWords) = ranking? context :=
    ranking_with_words lowered alikeWords
  have pinned : pinnedProvider? (context.withWords keywords entityWords) =
      pinnedProvider? context :=
    pinned_provider_with_words lowered alikeKeywords
  have linked : ∀ draft, linkProvider (context.withWords keywords entityWords) draft =
      linkProvider context draft :=
    link_provider_with_words lowered alikeKeywords
  apply run_rules_congr
  intro rule member draft
  simp only [cascade, List.mem_cons, List.not_mem_nil, or_false] at member
  rcases member with rfl | rfl | rfl | rfl | rfl | rfl | rfl
  · simp only [Rule.run, rankEntities, ranking]
    rfl
  · rfl
  · rfl
  · simp only [Rule.run, if_true, addEntityFilters, linked]
    rfl
  · simp only [Rule.run, selectService, pinned]
    rfl
  · rfl
  · rfl

end

/-! ## Questions -/

theorem of_question_lowered (analyze : String → Analysis) (table : Table) (options : Options)
    {question : String}
    (bases : ∀ token ∈ (analyze (lower question)).tokens, lower token.base = token.base) :
    (Context.ofQuestion analyze table options question).IsLowered :=
  ⟨fun _ occurs => occurs_lowered occurs, bases⟩

theorem parse_with_words (analyze : String → Analysis) (table : Table) (options : Options)
    {question : String} {keywords entityWords : List String}
    (bases : ∀ token ∈ (analyze (lower question)).tokens, lower token.base = token.base)
    (alikeKeywords : FoundAlike (Context.ofQuestion analyze table options question).Names
      options.providerKeywords keywords)
    (alikeWords : FoundAlike (Context.ofQuestion analyze table options question).Names
      options.entityWords entityWords) :
    parseWith analyze table
        { options with providerKeywords := keywords, entityWords := entityWords } question =
      parseWith analyze table options question := by
  have same := run_cascade_with_words (of_question_lowered analyze table options bases)
    alikeKeywords alikeWords
  unfold parseWith
  rw [← same]
  rfl

/-- Words that are not in lower case are as good as missing. Two configurations that differ at
most in the case of their words lead to one query, if of the words that the question names the
same ones are in lower case in both. -/
theorem words_in_lower_case_decide (table : Table) {first second : Options} (question : String)
    (alike : first.SpelledAlike second)
    (keywords : CasedAlike (Context.ofQuestion (Gazetteer.ofTable table organizationNames).analyze
      table first question).Names first.providerKeywords second.providerKeywords)
    (entityWords : CasedAlike (Context.ofQuestion
      (Gazetteer.ofTable table organizationNames).analyze table first question).Names
      first.entityWords second.entityWords) :
    parse table first question = parse table second question ∧
    (table.name ≠ "" → table.columns ≠ [] →
      ∃ query, parse table first question = .ok query ∧
        parse table second question = .ok query) ∧
    parse table first.inLowerCase question = parse table first question ∧
    parse table second.inLowerCase question = parse table second question := by
  have bases : ∀ token ∈ ((Gazetteer.ofTable table organizationNames).analyze
      (lower question)).tokens, lower token.base = token.base := fun _ member =>
    lower_token_base member
  have same : parse table second question = parse table first question := by
    rw [alike.others]
    exact parse_with_words _ table first bases (found_alike_of_cased alike.providerKeywords keywords)
      (found_alike_of_cased alike.entityWords entityWords)
  have reduced : ∀ options : Options,
      parse table options.inLowerCase question = parse table options question := fun options =>
    parse_with_words _ table options bases (found_alike_in_lower_case _ options.providerKeywords)
      (found_alike_in_lower_case _ options.entityWords)
  refine ⟨same.symm, ?_, reduced first, reduced second⟩
  intro named listed
  obtain ⟨query, parsed⟩ : ∃ query, parse table first question = .ok query :=
    ⟨_, parse_with_available _ first question named listed⟩
  exact ⟨query, parsed, same.trans parsed⟩

def providerUpdates : Table where
  name := "update"
  columns := [⟨"title", .text, false, []⟩, ⟨"provider", .text, false, []⟩,
    ⟨"product_name", .text, false, []⟩]

def wordsOfUpdates : Options where
  providerKeywords := ["AWS", "azure", "GCP"]
  entityWords := ["Product", "service"]

def otherWordsOfUpdates : Options where
  providerKeywords := ["aWS", "azure", "gcp"]
  entityWords := ["PRODUCT", "service"]

theorem capital_keywords_passed_over :
    wordsOfUpdates.SpelledAlike otherWordsOfUpdates ∧
      ∃ query, parse providerUpdates wordsOfUpdates "Top 3 AWS or Azure services" = .ok query ∧
        parse providerUpdates otherWordsOfUpdates "Top 3 AWS or Azure services" = .ok query ∧
        parse providerUpdates wordsOfUpdates.inLowerCase "Top 3 AWS or Azure services" =
          .ok query ∧
        query.limit = some 3 ∧ query.filters = [.equals "provider" "azure"] := by
  have alike : wordsOfUpdates.SpelledAlike otherWordsOfUpdates := ⟨rfl, by decide, by decide⟩
  have decided := words_in_lower_case_decide providerUpdates "Top 3 AWS or Azure services" alike
    (by decide +kernel) (by decide +kernel)
  obtain ⟨_, parses, reduced, _⟩ := decided
  obtain ⟨query, parsed, otherParsed⟩ := parses (by decide) (by decide)
  have seen : (parse providerUpdates wordsOfUpdates "Top 3 AWS or Azure services").toOption.map
      (fun query => (query.limit, query.filters)) =
        some (some 3, [.equals "provider" "azure"]) := by
    decide +kernel
  rw [parsed] at seen
  obtain ⟨limit, filters⟩ := Prod.mk.inj (Option.some.inj seen)
  exact ⟨alike, query, parsed, otherParsed, reduced.trans parsed, limit, filters⟩

/-- A provider that is configured in capitals is not found, not even where the question has it in
capitals too. -/
theorem capital_keyword_not_found :
    ({} : Options).SpelledAlike { providerKeywords := ["AWS", "azure"] } ∧
      ∃ first second, parse providerUpdates {} "AWS updates" = .ok first ∧
        parse providerUpdates { providerKeywords := ["AWS", "azure"] } "AWS updates" =
          .ok second ∧
        first.filters = [.equals "provider" "aws"] ∧ second.filters = [] ∧
        ¬AgreeUpToCase first second := by
  let found : Query := {
    selectColumns := ({} : Options).defaultSelectColumns
    filters := [.equals "provider" "aws"]
    targetTable := "update" }
  have alike : ({} : Options).SpelledAlike { providerKeywords := ["AWS", "azure"] } :=
    ⟨rfl, by decide, by decide⟩
  have first : parse providerUpdates {} "AWS updates" = .ok found :=
    eq_ok_of_to_option (by decide +kernel)
  have second : parse providerUpdates { providerKeywords := ["AWS", "azure"] } "AWS updates" =
      .ok { found with filters := [] } :=
    eq_ok_of_to_option (by decide +kernel)
  refine ⟨alike, found, _, first, second, rfl, rfl, ?_⟩
  rintro ⟨_, filters⟩
  exact absurd filters.length_eq (by decide)

end TableTalk.Question
