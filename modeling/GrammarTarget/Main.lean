import GrammarTarget.CommandLine.Console

/-!
# The command

Executes the command under the logger that reads the names of levels. The variable `RUST_LOG` gives
the logger its setting.
-/

open GrammarTarget CommandLine

/-- Writes what an event stands for. -/
def perform (event : Event) : IO Unit :=
  match event with
  | .stdout text => IO.print text
  | .stderr text => IO.eprint text
  | .record r    => IO.eprintln r.line

/-- Runs the command with the arguments of the process. -/
def main (args : List String) : IO UInt32 := do
  let setting? ← IO.getEnv "RUST_LOG"
  let execution := execute Log.Logger.byName setting? args
  IO.eprint execution.notice
  for event in execution.events do
    perform event
  -- the text of an error comes without a line feed
  if execution.exitCode ≠ 0 then
    IO.eprintln ""
  pure execution.exitCode.toUInt32
