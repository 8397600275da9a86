import TableTalk.Query.Compiler
import TableTalk.Question.Parser

/-!
# Translating questions

The way from a question to a statement, for one table and its options.
-/

namespace TableTalk

set_option autoImplicit false

structure Engine where
  table : Catalog.Table
  parser : Question.Options := {}
  compiler : CompileOptions := {}
  deriving Repr, DecidableEq, Inhabited

structure Translation where
  parsed : Query
  statement : Sql.Statement
  deriving Repr, Inhabited

inductive TranslateError where
  | parse (error : Question.ParseError)
  | compile (error : CompileError)
  deriving Repr, DecidableEq, Inhabited

def TranslateError.message : TranslateError → String
  | parse error => error.message
  | compile error => error.message

def Engine.translate (engine : Engine) (question : String) :
    Except TranslateError Translation := do
  let parsed ← (Question.parse engine.table engine.parser question).mapError .parse
  let statement ← (compile engine.table engine.compiler parsed).mapError .compile
  return { parsed, statement }

end TableTalk
