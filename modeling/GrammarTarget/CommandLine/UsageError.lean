import GrammarTarget.CommandLine.Options
import GrammarTarget.Text.Line
import GrammarTarget.Text.Plain

/-!
# Usage errors — why a command line is refused

A message quotes arguments as they show without a terminal.
-/

namespace GrammarTarget.CommandLine

/-- Why a command line is refused. -/
inductive UsageError where
  | unexpectedArgument (shown : String)
  | missingValue (setting : Setting)
  | repeatedSetting (setting : Setting)
  | repeatedSwitch (switch : Switch)
  | unexpectedValue (switch : Switch) (value : String)
  deriving DecidableEq, Repr

namespace UsageError

/-- The message of an error. Only texts that come from the command line need to be made plain. -/
def message : UsageError → String
  | unexpectedArgument shown =>
    "error: unexpected argument '" ++ Text.plain shown ++ "' found"
  | missingValue setting =>
    "error: a value is required for '" ++ setting.usage ++ "' but none was supplied"
  | repeatedSetting setting =>
    "error: the argument '" ++ setting.usage ++ "' cannot be used multiple times"
  | repeatedSwitch switch =>
    "error: the argument '" ++ switch.usage ++ "' cannot be used multiple times"
  | unexpectedValue switch value =>
    "error: unexpected value '" ++ Text.plain value ++ "' for '" ++ switch.usage ++
      "' found; no more were expected"

/-- What is shown of a message: its first line, since a quoted argument may hold more. -/
def headline (e : UsageError) : String :=
  Text.firstLine e.message

end UsageError

end GrammarTarget.CommandLine
