import GrammarTarget.Text.Column
import GrammarTarget.Text.Line
import GrammarTarget.Text.Plain

/-!
# Log records — what the library tells about its work

A record says what happened. Its level, the channel that it is written to and its text follow from
that. Which records are shown is up to a logger; the lines of a log are those of the records that
are as grave as a given level, or graver. No record is an error, so `Level.error` shows none.
-/

namespace GrammarTarget.Log

/-- How much a record matters, from the gravest to the most detailed. -/
inductive Level where
  | error
  | warn
  | info
  | debug
  | trace
  deriving DecidableEq, Repr

namespace Level

/-- How detailed a level is, from the gravest on: a log that is set to a level shows what has at
    most its rank. -/
def rank : Level → Nat
  | error => 1
  | warn  => 2
  | info  => 3
  | debug => 4
  | trace => 5

/-- A level as a setting of the log names it. -/
def label : Level → String
  | error => "error"
  | warn  => "warn"
  | info  => "info"
  | debug => "debug"
  | trace => "trace"

/-- A level as it stands in the lines of a log. -/
def heading : Level → String
  | error => "ERROR"
  | warn  => "WARN"
  | info  => "INFO"
  | debug => "DEBUG"
  | trace => "TRACE"

end Level

/-- Something that happened. -/
inductive Record where
  | tableBuilt (language : String) (size : Nat)
  | collision (language symbol : String)
  | collisionCount (language : String) (count : Nat)
  | unnamedRecognizer (grammar : String)
  | symbolsChecked (total colliding : Nat)
  deriving DecidableEq, Repr

namespace Record

/-- How much a record matters. -/
def level : Record → Level
  | tableBuilt ..        => .debug
  | collision ..         => .trace
  | collisionCount ..    => .debug
  | unnamedRecognizer .. => .warn
  | symbolsChecked ..    => .info

/-- The part of the program that writes a record, as the lines of a log name it. -/
def channel : Record → String
  | tableBuilt ..        => "rusttarget_rust::reserved"
  | collision ..         => "rusttarget_rust"
  | collisionCount ..    => "rusttarget_codegen"
  | unnamedRecognizer .. => "rusttarget_rust::naming"
  | symbolsChecked ..    => "rusttarget"

/-- What a record says. The texts of grammars stand in it as they are, with any control characters
    that they have. -/
def text : Record → String
  | tableBuilt language size =>
    "built table of " ++ toString size ++ " reserved " ++ language ++ " identifiers"
  | collision language symbol =>
    "grammar symbol " ++ symbol ++ " collides with a reserved " ++ language ++ " identifier"
  | collisionCount language count =>
    toString count ++ " grammar symbols collide with " ++ language ++ " identifiers"
  | unnamedRecognizer grammar =>
    "cannot name the recognizer of grammar " ++ grammar ++ ", its kind is unknown"
  | symbolsChecked total colliding =>
    "checked " ++ toString total ++ " symbols, " ++ toString colliding ++ " unsafe"

/-- The line of a record in a log: its text as it shows without a terminal, up to the first
    line feed. -/
def line (r : Record) : String :=
  "[" ++ Text.alignLeft 5 r.level.heading ++ " " ++ r.channel ++ "] " ++
    Text.untilLineFeed (Text.plain r.text)

/-- Whether a record is shown when `most?` is the most detailed level that is shown, or none is. -/
def isShown (most? : Option Level) (r : Record) : Bool :=
  match most? with
  | none      => false
  | some most => r.level.rank ≤ most.rank

end Record

/-- The lines of the records that are shown, in the order of the records. -/
def lines (most? : Option Level) (records : List Record) : List String :=
  (records.filter (·.isShown most?)).map Record.line

end GrammarTarget.Log
