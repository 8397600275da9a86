import TableTalk.Language.Gazetteer
import TableTalk.Question.Rule

/-!
# Parsing questions

A question is lower-cased, analysed and run through the rules. Ambiguous
questions are no errors; only a table without a name or without columns is.
-/

namespace TableTalk.Question

open TableTalk.Catalog
open TableTalk.Language

set_option autoImplicit false

inductive UnavailableReason where
  | noName
  | noColumns
  deriving Repr, DecidableEq, Inhabited

structure ParseError where
  table : String
  reason : UnavailableReason
  deriving Repr, DecidableEq, Inhabited

def UnavailableReason.message : UnavailableReason → String
  | noName => "table has no name"
  | noColumns => "table has no columns"

def ParseError.message (error : ParseError) : String :=
  "schema for table '" ++ error.table ++ "' is unavailable: " ++ error.reason.message

def checkTable (table : Table) : Except ParseError Unit :=
  if table.name.isEmpty then .error ⟨table.name, .noName⟩
  else if table.columns.isEmpty then .error ⟨table.name, .noColumns⟩
  else .ok ()

def Context.ofQuestion (analyze : String → Analysis) (table : Table) (options : Options)
    (question : String) : Context :=
  let text := Text.lower question
  { text, analysis := analyze text, table, options }

/-- Parses a question with an analysis of the caller's choice. -/
def parseWith (analyze : String → Analysis) (table : Table) (options : Options)
    (question : String) : Except ParseError Query := do
  checkTable table
  return (runCascade (.ofQuestion analyze table options question)).finish table.name

def parse (table : Table) (options : Options) (question : String) : Except ParseError Query :=
  parseWith (Gazetteer.ofTable table organizationNames).analyze table options question

end TableTalk.Question
