import TableTalk.Document.Reading
import TableTalk.Question.Draft

/-!
# Parser options as document values
-/

namespace TableTalk.Question

open TableTalk.Document

set_option autoImplicit false

def Options.fieldNames : List String := [
  "provider_column", "product_column", "default_select_columns", "provider_keywords",
  "most_frequent_limit", "entity_words"]

def Options.toValue (options : Options) : Value := .record [
  ("provider_column", .text options.providerColumn),
  ("product_column", .text options.productColumn),
  ("default_select_columns", .texts options.defaultSelectColumns),
  ("provider_keywords", .texts options.providerKeywords),
  ("most_frequent_limit", .integer options.mostFrequentLimit.toNat),
  ("entity_words", .texts options.entityWords)]

def Options.ofValue? (conventions : Conventions) (value : Value) : Option Options := do
  let field ← conventions.fields fieldNames value
  let given : Options := {}
  return {
    providerColumn := ← readField given.providerColumn readText (field "provider_column")
    productColumn := ← readField given.productColumn readText (field "product_column")
    defaultSelectColumns :=
      ← readField given.defaultSelectColumns (readList readText) (field "default_select_columns")
    providerKeywords :=
      ← readField given.providerKeywords (readList readText) (field "provider_keywords")
    mostFrequentLimit :=
      ← readField given.mostFrequentLimit readUInt64 (field "most_frequent_limit")
    entityWords := ← readField given.entityWords (readList readText) (field "entity_words") }

end TableTalk.Question
