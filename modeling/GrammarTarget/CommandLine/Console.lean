import GrammarTarget.CommandLine.Run
import GrammarTarget.Log.Logger

/-!
# The console — a run as the steps that it takes

`run` sums a run up: its output stands at the end, and its log holds every record, whether it is
shown or not. At the console each step writes when it is taken. A step that has a record asks the
logger first and writes only what is shown, so nothing in the type of a step keeps the answer from
deciding what the step comes to or what is written later. That it decides neither, and that `run` is
the sum of the steps, is `Console.prints_command` in the proofs.

The logger is given its setting before anything else happens, and may write to standard error then.
-/

namespace GrammarTarget.CommandLine

open Log (Record Logger)

/-- Something that is written while the command runs. -/
inductive Event where
  /-- A text on standard output. -/
  | stdout (text : String)
  /-- A text of the command on standard error. -/
  | stderr (text : String)
  /-- A record that the logger shows, as a line on standard error. -/
  | record (r : Record)
  deriving DecidableEq, Repr

namespace Event

/-- What stands on standard output. -/
def stdoutText : Event → String
  | stdout text => text
  | _           => ""

/-- What stands on standard error and is no line of the log. -/
def stderrText : Event → String
  | stderr text => text
  | _           => ""

/-- The record that is shown, if it is one. -/
def record? : Event → Option Record
  | record r => some r
  | _        => none

end Event

/-- A computation that writes. Given the test that tells which records are shown, it comes to a
    value and leaves events behind, the earliest first. -/
structure Console (α : Type) where
  run : (Record → Bool) → α × List Event

namespace Console

/-- One computation after another writes the events of both, under the same test. -/
instance : Monad Console where
  pure a := ⟨fun _ => (a, [])⟩
  bind x f :=
    ⟨fun shown =>
      (((f (x.run shown).1).run shown).1,
        (x.run shown).2 ++ ((f (x.run shown).1).run shown).2)⟩

/-- Writes a text to standard output. -/
def print (text : String) : Console Unit :=
  ⟨fun _ => ((), [.stdout text])⟩

/-- Writes a text to standard error. -/
def eprint (text : String) : Console Unit :=
  ⟨fun _ => ((), [.stderr text])⟩

/-- Hands a record to the logger, which writes it if it is shown. -/
def tell (r : Record) : Console Unit :=
  ⟨fun shown => ((), if shown r then [.record r] else [])⟩

variable {α : Type}

/-- Keeps the elements that pass a test, asked from left to right. -/
def filterEach (p : α → Console Bool) : List α → Console (List α)
  | []      => pure []
  | a :: as => do
    let keep ← p a
    let rest ← filterEach p as
    pure (if keep then a :: rest else rest)

/-! ## The steps of the command -/

variable (t : Target) (o : Options)

/-- Makes the Rust target ready for use: its table is built, which the logger is told. -/
def load : Console Target := do
  tell (.tableBuilt Target.rust.language Reserved.Table.standard.size)
  pure { Target.rust with reserved := Reserved.Table.standard }

/-- Whether a text is a reserved word. If it is, the logger is told. -/
def collides (text : String) : Console Bool := do
  if t.reserved.contains text then
    tell (.collision t.language text)
    pure true
  else
    pure false

/-- The texts that are reserved words. Each is told when it is found, their number at the end. -/
def collisions (texts : List String) : Console (List String) := do
  let found ← filterEach (collides t) texts
  (t.countRecords found).forM tell
  pure found

/-- The file of the recognizer. Without a kind it has no name, which the logger is told. -/
def recognizerFile (name : DeclaredName) (kind? : Option Kind) (header : Bool) : Console String :=
  match kind? with
  | some kind =>
    pure (t.fileName (kind.recognizerStem name.text) kind.recognizerRole header)
  | none => do
    tell (.unnamedRecognizer name.text)
    pure ArtifactNames.noName

/-- Names the files of a grammar. -/
def artifactFiles (name : DeclaredName) (kind? : Option Kind) (header : Bool) :
    Console ArtifactNames := do
  let recognizer ← recognizerFile t name kind? header
  pure ⟨recognizer, t.listenerFile name header, t.visitorFile name header⟩

/-- Warns of a symbol that collides. -/
def warn (symbol : String) : Console Unit :=
  eprint (Warning.line t.language ⟨symbol, t.reserved.category? symbol⟩)

/-- Looks for collisions among the symbols and warns of them one by one once all are found. -/
def checkSymbols : Console Unit := do
  let found ← collisions t o.symbols
  found.forM (warn t)
  tell (.symbolsChecked o.symbols.length found.length)

/-- Ends for want of a report. -/
def fail (e : ReportError) : Console UInt8 := do
  eprint e.message
  pure e.exitCode

/-- Prints the files that were named, and checks the symbols after that. -/
def reportOn (name : String) (files : ArtifactNames) : Console UInt8 :=
  if files.isValid then do
    files.toList.forM fun entry => print (fileLine entry)
    checkSymbols t o
    pure 0
  else
    match Kind.ofTag o.kindTag with
    | .error e => fail (.kind e)
    | .ok _    => fail (.unnamed name)

/-- Reports on the grammar that the options declare. -/
def report : Console UInt8 :=
  match o.name? with
  | none      => fail .nameAbsent
  | some name =>
    if name = "" then fail .nameEmpty
    else
      match o.grammar.descriptor.declaredName with
      | .error e => fail (.naming e)
      | .ok n    => artifactFiles t n o.grammar.descriptor.kind? o.header >>= reportOn t o name

/-- Answers options. -/
def answer : Console UInt8 :=
  if o.targetVersion then do
    print (targetLine t)
    pure 0
  else if o.reserved then do
    t.reserved.toList.forM fun entry => print (reservedLine entry)
    pure 0
  else report t o

/-- The command: the arguments are read first, and the target is loaded if they are accepted. -/
def command (args : List String) : Console UInt8 :=
  match Options.ofArguments args with
  | .error .help => do
    print helpText
    pure 0
  | .error .version => do
    print versionText
    pure 0
  | .error (.refused e) => do
    eprint e.headline
    pure 2
  | .ok options => do answer (← load) options

end Console

/-! ## Executions -/

/-- What there is to see of a run from its beginning to its end. -/
structure Execution where
  exitCode : UInt8
  /-- What the logger said of its setting before the command began. -/
  notice   : String
  /-- What was written after that, the earliest first. -/
  events   : List Event
  deriving DecidableEq, Repr

/-- Executes the command under a logger with a setting. -/
def execute (g : Logger) (setting? : Option String) (args : List String) : Execution where
  exitCode := ((Console.command args).run (g.shows setting?)).1
  notice   := g.notice setting?
  events   := ((Console.command args).run (g.shows setting?)).2

namespace Execution

/-- What the command itself leaves behind: nothing of it comes from the logger. -/
def own (e : Execution) : Output where
  exitCode := e.exitCode
  stdout   := String.join (e.events.map Event.stdoutText)
  stderr   := String.join (e.events.map Event.stderrText)

/-- What is left behind when the log lines are taken out of standard error. -/
def withoutLog (e : Execution) : Output :=
  { e.own with stderr := e.notice ++ e.own.stderr }

/-- The lines of the log. -/
def log (e : Execution) : List String :=
  (e.events.filterMap Event.record?).map Record.line

end Execution

end GrammarTarget.CommandLine
