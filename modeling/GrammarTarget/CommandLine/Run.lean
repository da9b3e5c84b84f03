import GrammarTarget.CommandLine.Parse
import GrammarTarget.CommandLine.Report

/-!
# Runs — what a command line prints

A run ends with an exit code and two texts: 0 for an answer, 1 for a grammar that cannot be
reported on, 2 for a command line that is refused, 101 for a fault of the command itself. The table
of reserved words is built after the command line has been read, so a run without options writes no
log.
-/

namespace GrammarTarget.CommandLine

open Log (Logged)

/-- What a run leaves behind. -/
structure Output where
  exitCode : UInt8
  stdout   : String
  stderr   : String
  deriving DecidableEq, Repr

/-- The lines of the help, which lists all options. -/
def helpLines : List String :=
  ["Usage: rusttarget [OPTIONS] [SYMBOLS]...",
   "",
   "Arguments:",
   "  [SYMBOLS]...  Rule and token names to check",
   "",
   "Options:",
   "      --name <NAME>     The declared name of the grammar",
   "  -k, --kind <KIND>     The grammar kind: parser, lexer or combined [default: combined]",
   "      --header          Name header files (no effect for Rust)",
   "      --reserved        Print every reserved identifier and exit",
   "      --target-version  Print the target version and exit",
   "  -h, --help            Print help",
   "  -V, --version         Print version"]

/-- The help, as standard output shows it. -/
def helpText : String :=
  String.join (helpLines.map (· ++ "\n"))

/-- The name and the version of the command. -/
def versionText : String := "rusttarget-cli 0.1.0\n"

/-- The language and the version of a target. -/
def targetLine (t : Target) : String :=
  t.language ++ " target " ++ t.version ++ "\n"

/-- A reserved word at the left of a column, and what it is reserved as. -/
def reservedLine (entry : String × Reserved.Category) : String :=
  Text.alignLeft 24 entry.1 ++ entry.2.label ++ "\n"

/-- All reserved words of a target, one on each line. -/
def reservedLines (t : Target) : String :=
  String.join (t.reserved.toList.map reservedLine)

/-- What is printed for a report, or for want of one. -/
def Output.ofReport (language : String) : Except ReportError Report → Output
  | .error e => ⟨e.exitCode, "", e.message⟩
  | .ok r    => ⟨0, r.fileLines, r.warningLines language⟩

/-- Answers options. -/
def answer (t : Target) (o : Options) : Logged Output :=
  if o.targetVersion then pure ⟨0, targetLine t, ""⟩
  else if o.reserved then pure ⟨0, reservedLines t, ""⟩
  else Output.ofReport t.language <$> report t o

/-- Runs a command line. -/
def run (args : List String) : Logged Output :=
  match Options.ofArguments args with
  | .error .help        => pure ⟨0, helpText, ""⟩
  | .error .version     => pure ⟨0, versionText, ""⟩
  | .error (.refused e) => pure ⟨2, "", e.headline⟩
  | .ok options         => do answer (← Target.load) options

end GrammarTarget.CommandLine
