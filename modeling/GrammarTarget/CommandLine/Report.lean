import GrammarTarget.Artifact
import GrammarTarget.Collision
import GrammarTarget.CommandLine.Options
import GrammarTarget.Text.Style

/-!
# Reports — the files of a grammar and the symbols that collide

A report names the three files of a grammar and warns of every symbol that the target's language
reserves. There is none for a grammar without a name or of an unknown kind. The name is looked at
before the files are named, since naming them needs one; the kind is looked at only after that,
when the recognizer turns out to have no name.
-/

namespace GrammarTarget.CommandLine

open Log (Logged)
open Reserved (Category)

/-- Why there is no report. -/
inductive ReportError where
  | nameAbsent
  | nameEmpty
  | kind (e : UnknownKind)
  /-- The recognizer has no name although the kind of the grammar is known. -/
  | unnamed (grammar : String)
  /-- The files cannot be named, and the name was not refused before: a fault of the command. -/
  | naming (e : NameError)
  deriving DecidableEq, Repr

namespace ReportError

/-- Why there is no report, as standard error tells it. -/
def message : ReportError → String
  | nameAbsent      => "a grammar name is required, pass one with --name"
  | nameEmpty       => "the grammar name must not be empty"
  | kind e          => e.message
  | unnamed grammar => "could not name the recognizer of grammar " ++ grammar
  | naming e        => e.message

/-- The exit code for want of a report. A fault of the command has a code of its own. -/
def exitCode : ReportError → UInt8
  | naming _ => 101
  | _        => 1

end ReportError

/-- A symbol that collides, and what its text is reserved as. -/
structure Warning where
  symbol    : String
  category? : Option Category
  deriving DecidableEq, Repr

/-- A warning as standard error shows it. The symbol stands in it as it is. -/
def Warning.line (language : String) (w : Warning) : String :=
  Text.bold (Text.brightYellow "warning") ++ ": symbol " ++ Text.bold w.symbol ++
    " collides with a " ++ language ++ " " ++ (w.category?.elim "" Category.label) ++ "\n"

/-- What there is to say of a grammar: the names of its files, and the symbols that collide. -/
structure Report where
  files    : ArtifactNames
  warnings : List Warning
  deriving DecidableEq, Repr

/-- A file as standard output shows it: the artifact at the right of a column, the name in bold
    face. -/
def fileLine (entry : Artifact × String) : String :=
  Text.alignRight 10 entry.1.label ++ ": " ++ Text.bold entry.2 ++ "\n"

/-- The files of a report, one on each line. -/
def Report.fileLines (r : Report) : String :=
  String.join (r.files.toList.map fileLine)

/-- The warnings of a report, one on each line. -/
def Report.warningLines (language : String) (r : Report) : String :=
  String.join (r.warnings.map (·.line language))

/-- Checks the symbols that the options give. -/
def checkSymbols (t : Target) (o : Options) : Logged (List Warning) := do
  let found ← t.collisions o.symbols
  let warnings := found.map fun symbol => ⟨symbol, t.reserved.category? symbol⟩
  Logged.write (.symbolsChecked o.symbols.length warnings.length)
  pure warnings

/-- The report once the files are named, or why there is none. -/
def reportOn (t : Target) (o : Options) (name : String) (files : ArtifactNames) :
    Logged (Except ReportError Report) :=
  if files.isValid then do
    let warnings ← checkSymbols t o
    pure (.ok ⟨files, warnings⟩)
  else
    match Kind.ofTag o.kindTag with
    | .error e => pure (.error (.kind e))
    | .ok _    => pure (.error (.unnamed name))

/-- The report that the options ask for. -/
def report (t : Target) (o : Options) : Logged (Except ReportError Report) :=
  match o.name? with
  | none      => pure (.error .nameAbsent)
  | some name =>
    if name = "" then pure (.error .nameEmpty)
    else
      match o.grammar.descriptor.artifactFiles t o.header with
      | .error e  => pure (.error (.naming e))
      | .ok files => files >>= reportOn t o name

end GrammarTarget.CommandLine
