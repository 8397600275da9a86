import TableTalk.CommandLine.Arguments
import TableTalk.Database.Opening
import TableTalk.Database.Outcome
import TableTalk.Document.Json.Printer
import TableTalk.Engine.Document
import TableTalk.Engine.Loading
import TableTalk.Settings.Loading

/-!
# Commands and their reports

What the program writes for each command. An error is reported in one message, and
nothing else is written then.
-/

namespace TableTalk.CommandLine

open TableTalk.Database
open TableTalk.File

set_option autoImplicit false

/-- What a run of the program leaves behind: the exit code, the text on standard
output and the message on standard error. -/
structure Report where
  code : Nat := 0
  output : String := ""
  message : String := ""
  deriving Repr, DecidableEq, Inhabited

def Report.failure (message : String) : Report := { code := 1, message }

def Report.ofValue (value : Document.Value) : Report :=
  { output := Document.Json.pretty value ++ "\n" }

def versionText : String := "nlquery 0.1.0\n"

def Report.ofEnding : Ending → Report
  | .help => {}
  | .version => { output := versionText }
  | .wrong => { code := 2 }

/-! ## Texts -/

/-- A statement in one line, with its parameters in a comment below it. -/
def statementText (statement : Sql.Statement) : String :=
  let values := ", ".intercalate (statement.parameters.map Sql.Value.display)
  statement.text ++ "\n" ++
    (if statement.parameters.isEmpty then "" else "-- parameters: [" ++ values ++ "]\n")

def columnText (column : Catalog.Column) : String :=
  "  " ++ column.name ++ " " ++ column.type.name ++
    (if column.isPrimaryKey then " (primary key)" else "") ++ "\n" ++
    (if column.examples.isEmpty then ""
      else "    examples: " ++ ", ".intercalate column.examples ++ "\n")

def tableText (table : Catalog.Table) : String :=
  "Table: " ++ table.name ++ "\n\n" ++ String.join (table.columns.map columnText)

/-! ## Commands -/

def parseReport (engine : Engine) (question : String) : Report :=
  match Question.parse engine.table engine.parser question with
  | .ok query => .ofValue query.toValue
  | .error error => .failure ("Parse error: " ++ error.message)

def translated (engine : Engine) (question : String) (report : Translation → Report) : Report :=
  match engine.translate question with
  | .ok translation => report translation
  | .error error => .failure ("Compilation error: " ++ error.message)

def compileReport (engine : Engine) (question : String) (form : Form) : Report :=
  translated engine question fun translation => match form with
    | .sql => { output := statementText translation.statement }
    | .json => .ofValue translation.toValue

/-- A statement that fails is reported as an outcome too, with another exit code. -/
def runReport (engine : Engine) (question path : String) (opening : Opening) : Report :=
  let report (execute : Sql.Statement → Except ExecutionError Answer) : Report :=
    translated engine question fun translation =>
      let outcome := Outcome.of (execute translation.statement)
      { Report.ofValue outcome.toValue with code := if outcome.success then 0 else 1 }
  match opening with
  | .failed reason =>
      .failure ("Error opening database '" ++ path ++ "': SQLite error: " ++ reason)
  | .damaged => report fun _ => .error .notADatabase
  | .contents contents => report contents.execute

section

variable {m : Type → Type} [Monad m] [Surroundings m]

def withEngine (settings : Settings) (report : Engine → m Report) : m Report := do
  match ← Engine.ofSettings settings with
  | .ok engine => report engine
  | .error error => return .failure ("Error loading catalog: " ++ error.message)

/-- The database that is asked for, or else the one of the settings. -/
def databasePath (settings : Settings) (asked : Option String) : m (Except Report String) :=
  match asked with
  | some path => return .ok path
  | none => do
      let resolved ← settings.resolvedDatabase
      return match resolved with
        | .ok (some path) => .ok path
        | .ok none =>
            .error (.failure "No database given; pass --database or set [database].path")
        | .error error =>
            .error (.failure ("Error resolving database path: " ++ error.message))

def execute [Databases m] (settings : Settings) : Command → m Report
  | .parse question => withEngine settings fun engine => return parseReport engine question
  | .compile question dialect form =>
      let compiler := { settings.compiler with dialect := dialect.getD settings.compiler.dialect }
      withEngine { settings with compiler } fun engine =>
        return compileReport engine question form
  | .run question asked => do
      match ← databasePath settings asked with
      | .error report => return report
      | .ok path => withEngine settings fun engine => do
          return runReport engine question path (← openDatabase path)
  | .catalog => withEngine settings fun engine => return { output := tableText engine.table }

def run [Databases m] (arguments : List String) : m Report := do
  match Invocation.ofArguments arguments with
  | .error ending => return .ofEnding ending
  | .ok invocation =>
      let settings ← match invocation.config with
        | some path => Settings.load path
        | none => Settings.loadDefault
      match settings with
      | .error error => return .failure ("Error loading settings: " ++ error.message)
      | .ok settings => execute settings invocation.command

end

end TableTalk.CommandLine
