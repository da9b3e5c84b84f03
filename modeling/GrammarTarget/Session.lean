import GrammarTarget.CommandLine.Run
import GrammarTarget.Log.Logger
import GrammarTarget.Escape

/-!
# Sessions — requests that share one text

A session answers requests one after the other. Two of them write to a text that the session
holds, and answer with the whole of it; all others leave it alone, and so does a request that
fails. Each answer carries the log records of its own request.
-/

namespace GrammarTarget

open Log (Logged Level)
open Reserved (Category Table)

/-- A question to the library. -/
inductive Request where
  | describeTarget
  | kind (tag : String)
  | describeGrammar (grammar : Descriptor)
  | artifactFile (grammar : Descriptor) (artifact : Artifact) (header : Bool)
  | artifactFiles (grammar : Descriptor) (header : Bool)
  | describeArtifacts (names : ArtifactNames)
  | textCollisions (texts : List String)
  | symbolCollisions (symbols : List Symbol)
  | checkTexts (texts : List String)
  | checkSymbols (symbols : List Symbol)
  | classify (words : List String)
  | compareCategories (a b : String)
  | buildTable
  | integerTypeNames
  | appendEscape (codePoint : UInt32)
  | appendText (text : String)
  | run (args : List String) (most? : Option Level)
  deriving Repr

/-- What a request is answered with. -/
inductive Answer where
  | target (language version : String)
  | kind (kind : Kind)
  | grammar (grammar : Descriptor)
  | file (name : String)
  | files (names : ArtifactNames)
  | texts (texts : List String)
  | textChecks (checks : List Bool)
  | symbolChecks (checks : List (Symbol × Bool))
  | categories (categories : List (Option Category))
  | order (order : Ordering)
  /-- A table, and whether it equals the one that the target uses. -/
  | table (table : Table) (isShared : Bool)
  | text (text : String)
  | output (output : CommandLine.Output) (log : List String)

/-- Why a request has no answer. -/
inductive Failure where
  | unknownKind (e : UnknownKind)
  | name (e : NameError)
  deriving DecidableEq, Repr

/-- What comes back for a request. -/
abbrev Reply : Type := Except Failure (Logged Answer)

namespace Request

/-- What a request writes to the text of the session, if it is one that writes. -/
def addition? : Request → Option String
  | appendEscape codePoint => some (Escape.escape codePoint)
  | appendText text        => some text
  | _                      => none

/-- The answer of a target to a request when the session holds the given text, to which what the
    request writes has been added. -/
def reply (t : Target) (text : String) : Request → Reply
  | describeTarget => .ok (pure (.target t.language t.version))
  | kind tag => ((Kind.ofTag tag).mapError .unknownKind).map fun k => pure (.kind k)
  | describeGrammar grammar => .ok (pure (.grammar grammar))
  | artifactFile grammar artifact header =>
    ((grammar.artifactFile t artifact header).mapError .name).map (Answer.file <$> ·)
  | artifactFiles grammar header =>
    ((grammar.artifactFiles t header).mapError .name).map (Answer.files <$> ·)
  | describeArtifacts names => .ok (pure (.files names))
  | textCollisions texts => .ok (Answer.texts <$> t.collisions texts)
  | symbolCollisions symbols => .ok (Answer.texts <$> t.collisions symbols)
  | checkTexts texts => .ok (Answer.textChecks <$> Logged.mapEach t.symbolCollides texts)
  | checkSymbols symbols =>
    .ok ((Answer.symbolChecks ∘ symbols.zip) <$> Logged.mapEach t.symbolCollides symbols)
  | classify words => .ok (pure (.categories (words.map t.reserved.category?)))
  | compareCategories a b =>
    .ok (pure (.order (Reserved.compareCategories (t.reserved.category? a)
      (t.reserved.category? b))))
  | buildTable => .ok ((fun table => .table table (table = t.reserved)) <$> Table.build t.language)
  | integerTypeNames => .ok (pure (.texts Reserved.integerTypeNames))
  | appendEscape _ => .ok (pure (.text text))
  | appendText _ => .ok (pure (.text text))
  | run args most? =>
    let ran := CommandLine.run args
    .ok (pure (.output ran.value (Log.lines most? ran.log)))

end Request

namespace Session

/-- Answers one request: the text that the session holds afterwards, and the reply. -/
def step (t : Target) (text : String) (request : Request) : String × Reply :=
  let text := text ++ request.addition?.getD ""
  (text, request.reply t text)

/-- Answers requests from left to right, each with what the session holds by then. -/
def replies (t : Target) (text : String) : List Request → List Reply
  | []                  => []
  | request :: requests =>
    let (text, reply) := step t text request
    reply :: replies t text requests

end Session

end GrammarTarget
