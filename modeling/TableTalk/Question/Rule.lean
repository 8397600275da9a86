import TableTalk.Question.Ranking

/-!
# The rule cascade

A rule is a guard and an effect on the draft. The rules run in one fixed order
over an empty draft; which of them decides is left to the guards, which look at
what earlier rules have settled.
-/

namespace TableTalk.Question

open TableTalk.Catalog
open TableTalk.Language

set_option autoImplicit false

structure Rule where
  name : String
  guard : Context → Draft → Bool
  effect : Context → Draft → Draft

def Rule.run (rule : Rule) (context : Context) (draft : Draft) : Draft :=
  if rule.guard context draft then rule.effect context draft else draft

def mentionCount : String := "mention_count"

def totalCount : String := "total_count"

def updateCount : String := "update_count"

def servicePhrase : String := "service with the most updates"

def rankEntities (context : Context) (draft : Draft) : Draft :=
  match ranking? context with
  | none => draft
  | some (limit, column) =>
      { draft with
        intent := some .findMostFrequentEntity
        aggregations := [.count context.countedColumn mentionCount]
        orderBy := some (.descending mentionCount)
        limit := some limit
        selectColumns := [column]
        groupBy := some column
        ranked := true }

def asksCount (context : Context) (draft : Draft) : Bool :=
  !(draft.intent == some .findMostFrequentEntity && draft.ranked) &&
    (context.mentions "count" || context.mentions "how many")

def countRows (context : Context) (draft : Draft) : Draft :=
  { draft with
    intent := some .count
    selectColumns := []
    aggregations := [.count context.countedColumn totalCount] }

def asksMostFrequent (context : Context) (draft : Draft) : Bool :=
  draft.intent != some .findMostFrequentEntity &&
    context.mentions "most" && context.mentions "updates" && !context.mentions servicePhrase

def productOr (context : Context) (fallback : String) : String :=
  let product := context.options.productColumn
  if context.table.hasColumn product then product else fallback

def groupMostFrequent (context : Context) (draft : Draft) : Draft :=
  let product := context.options.productColumn
  { draft with
    intent := some .findMostFrequent
    groupBy := some product
    aggregations := [.count context.countedColumn updateCount]
    orderBy := some (.descending updateCount)
    limit := some context.options.mostFrequentLimit
    selectColumns := [productOr context (context.table.firstColumn?.getD product)] }

/-- The first text column with an example that the text equals up to case, and
that example. -/
def linkText (table : Table) (text : String) : Option (String × String) :=
  table.textColumns.findSome? fun column =>
    (column.exampleMatching text).map fun found => (column.name, found)

def linkEntity (context : Context) (draft : Draft) (entity : Entity) : Draft :=
  match linkText context.table entity.text with
  | some (column, found) => draft.addFilter (.equals column found)
  | none => draft

def linkEntities (context : Context) (draft : Draft) : Draft :=
  (context.analysis.entities.filter fun entity => entity.label.isLinkable).foldl
    (linkEntity context) draft

/-- A provider keyword inside the text, for want of a filter on the provider. -/
def linkProvider (context : Context) (draft : Draft) : Draft :=
  let provider := context.options.providerColumn
  if draft.hasFilterOn provider || !context.table.hasColumn provider then draft
  else match context.options.providerKeywords.find? context.mentions with
    | some keyword => { draft with filters := draft.filters ++ [.equals provider keyword] }
    | none => draft

/-- A product example inside the text, for want of a filter on the product. -/
def linkProduct (context : Context) (draft : Draft) : Draft :=
  let product := context.options.productColumn
  if draft.hasFilterOn product then draft
  else
    let examples := ((context.table.column? product).map Column.examples).getD []
    match examples.find? fun candidate => context.mentions (Text.lower candidate) with
    | some found => draft.addFilter (.equals product found)
    | none => draft

def addEntityFilters (context : Context) (draft : Draft) : Draft :=
  linkProduct context (linkProvider context (linkEntities context draft))

def asksService (context : Context) (draft : Draft) : Bool :=
  !draft.ranked && context.mentions servicePhrase

/-- The first provider keyword that stands before "service" in the text. -/
def pinnedProvider? (context : Context) : Option String :=
  context.options.providerKeywords.find? fun keyword => context.mentions (keyword ++ " service")

/-- Leaves `keyword` as the only provider, in the spelling of a filter that
already names it. -/
def pinProvider (provider keyword : String) (draft : Draft) : Draft :=
  let kept := draft.filters.filter fun filter =>
    filter.column != provider || Text.equalAsciiCase filter.value keyword
  if kept.any fun filter => filter.column == provider then { draft with filters := kept }
  else { draft with filters := kept ++ [.equals provider keyword] }

def selectService (context : Context) (draft : Draft) : Draft :=
  let ranked : Draft := { draft with
    intent := some .findMostFrequentEntity
    groupBy := some context.options.productColumn
    aggregations := [.count context.countedColumn updateCount]
    orderBy := some (.descending updateCount)
    limit := some 1
    selectColumns := [productOr context context.countedColumn] }
  match pinnedProvider? context with
  | some keyword => pinProvider context.options.providerColumn keyword ranked
  | none => ranked

/-- The filters whose key is not among `seen` and has not come before. -/
def firstOfEachKey (seen : List (String × String × String)) : List Filter → List Filter
  | [] => []
  | filter :: rest =>
      if seen.contains filter.key then firstOfEachKey seen rest
      else filter :: firstOfEachKey (filter.key :: seen) rest

def dropRepeatedFilters (_ : Context) (draft : Draft) : Draft :=
  { draft with filters := firstOfEachKey [] draft.filters }

def findData (context : Context) (draft : Draft) : Draft :=
  { draft with
    intent := some .findData
    selectColumns := context.options.defaultSelectColumns }

def cascade : List Rule := [
  { name := "top_n_entity", guard := fun context _ => (ranking? context).isSome,
    effect := rankEntities },
  { name := "count", guard := asksCount, effect := countRows },
  { name := "most_frequent", guard := asksMostFrequent, effect := groupMostFrequent },
  { name := "entity_filters", guard := fun _ _ => true, effect := addEntityFilters },
  { name := "service_most_updates", guard := asksService, effect := selectService },
  { name := "dedupe_filters", guard := fun _ _ => true, effect := dropRepeatedFilters },
  { name := "default_find_data", guard := fun _ draft => draft.intent.isNone,
    effect := findData }]

def runRules (rules : List Rule) (context : Context) (draft : Draft) : Draft :=
  rules.foldl (fun current rule => rule.run context current) draft

def runCascade (context : Context) : Draft := runRules cascade context {}

end TableTalk.Question
