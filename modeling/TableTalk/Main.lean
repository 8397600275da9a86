import TableTalk.CommandLine.Console

/-!
# The program
-/

open TableTalk

def main (arguments : List String) : IO UInt32 := do
  let report ← CommandLine.run (m := IO) arguments
  (← IO.getStdout).putStr report.output
  unless report.message.isEmpty do
    (← IO.getStderr).putStrLn report.message
  return report.code.toUInt32
