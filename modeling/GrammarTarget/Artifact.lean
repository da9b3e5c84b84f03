import GrammarTarget.Target
import GrammarTarget.Grammar.Descriptor
import GrammarTarget.Unicode.Lowercase

/-!
# Artifacts — the files generated for a grammar

A grammar gets a recognizer, a listener and a visitor. A file is named in lower case after the
grammar, followed by the role that it plays. The recognizer of a parser grammar plays the role of a
parser and is named after the grammar less a final `Parser`, that of a lexer grammar the role of a
lexer, less a final `Lexer`; a combined grammar keeps its whole name, and so do all listeners and
visitors. If the kind is not known the recognizer has no name, and `ArtifactNames.noName` stands
for it.
-/

namespace GrammarTarget

open Log (Logged)

/-- A file that is generated for every grammar. -/
inductive Artifact where
  | recognizer
  | listener
  | visitor
  deriving DecidableEq, Repr

/-- An artifact as a report shows it. -/
def Artifact.label : Artifact → String
  | recognizer => "recognizer"
  | listener   => "listener"
  | visitor    => "visitor"

/-- The role that a file plays, which its name ends with. -/
inductive FileRole where
  | parser
  | lexer
  | listener
  | visitor
  deriving DecidableEq, Repr

/-- A role as the names of files show it. -/
def FileRole.label : FileRole → String
  | parser   => "parser"
  | lexer    => "lexer"
  | listener => "listener"
  | visitor  => "visitor"

/-- The role of the recognizer. What recognizes both tokens and rules is a parser. -/
def Kind.recognizerRole : Kind → FileRole
  | parser   => .parser
  | lexer    => .lexer
  | combined => .parser

/-- The text without the ending, if it ends so, and the whole text otherwise. -/
def withoutEnding (ending text : String) : String :=
  if ending.toList.isSuffixOf text.toList then
    String.ofList (text.toList.take (text.length - ending.length))
  else
    text

/-- The part of a grammar's name that its recognizer is named after. -/
def Kind.recognizerStem : Kind → String → String
  | parser,   name => withoutEnding "Parser" name
  | lexer,    name => withoutEnding "Lexer" name
  | combined, name => name

/-- The names of a grammar's files. -/
structure ArtifactNames where
  recognizer : String
  listener   : String
  visitor    : String
  deriving DecidableEq, Repr

namespace ArtifactNames

/-- What stands for the name of a recognizer that has none. -/
def noName : String := "INVALID_FILE_NAME"

/-- Whether the recognizer has a name. -/
def isValid (names : ArtifactNames) : Bool :=
  names.recognizer != noName

/-- The files with their names: recognizer, listener, visitor. -/
def toList (names : ArtifactNames) : List (Artifact × String) :=
  [(.recognizer, names.recognizer), (.listener, names.listener), (.visitor, names.visitor)]

end ArtifactNames

namespace Target

/-- The name of a file: the stem in lower case, the role behind an underscore, and the extension of
    the language. -/
def fileName (t : Target) (stem : String) (role : FileRole) (header : Bool) : String :=
  Unicode.lowercase stem ++ "_" ++ role.label ++ t.extension header

/-- The file of the recognizer. Without a kind it has no name, which the log tells. -/
def recognizerFile (t : Target) (name : DeclaredName) (kind? : Option Kind) (header : Bool) :
    Logged String := do
  match kind? with
  | some kind =>
    pure (t.fileName (kind.recognizerStem name.text) kind.recognizerRole header)
  | none =>
    Logged.write (.unnamedRecognizer name.text)
    pure ArtifactNames.noName

/-- The file of the listener, which has its name from the whole name of the grammar whatever its
    kind. -/
def listenerFile (t : Target) (name : DeclaredName) (header : Bool) : String :=
  t.fileName name.text .listener header

/-- The file of the visitor, which is named as that of the listener is. -/
def visitorFile (t : Target) (name : DeclaredName) (header : Bool) : String :=
  t.fileName name.text .visitor header

/-- The file of one artifact. Only the recognizer depends on the kind and writes to the log. -/
def artifactFile (t : Target) (artifact : Artifact) (name : DeclaredName) (kind? : Option Kind)
    (header : Bool) : Logged String :=
  match artifact with
  | .recognizer => t.recognizerFile name kind? header
  | .listener   => pure (t.listenerFile name header)
  | .visitor    => pure (t.visitorFile name header)

/-- The files of all artifacts, named from the recognizer on. -/
def artifactFiles (t : Target) (name : DeclaredName) (kind? : Option Kind) (header : Bool) :
    Logged ArtifactNames := do
  let recognizer ← t.recognizerFile name kind? header
  pure ⟨recognizer, t.listenerFile name header, t.visitorFile name header⟩

end Target

namespace Descriptor

/-- Names one file of a grammar, or tells why it has no name to go by. The name is asked for before
    the kind is looked at. -/
def artifactFile (d : Descriptor) (t : Target) (artifact : Artifact) (header : Bool) :
    Except NameError (Logged String) :=
  d.declaredName.map fun name => t.artifactFile artifact name d.kind? header

/-- Names all files of a grammar, or tells why it has no name to go by. -/
def artifactFiles (d : Descriptor) (t : Target) (header : Bool) :
    Except NameError (Logged ArtifactNames) :=
  d.declaredName.map fun name => t.artifactFiles name d.kind? header

end Descriptor

/-! ## With and without a name -/

namespace Descriptor

variable {d : Descriptor} {n : DeclaredName} {e : NameError} (t : Target) (header : Bool)

theorem artifactFile_of_ok (h : d.declaredName = .ok n) (x : Artifact) :
    d.artifactFile t x header = .ok (t.artifactFile x n d.kind? header) := by
  rw [artifactFile, h]
  rfl

/-- Without a name no file is named, whatever the kind. -/
theorem artifactFile_of_error (h : d.declaredName = .error e) (x : Artifact) :
    d.artifactFile t x header = .error e := by
  rw [artifactFile, h]
  rfl

theorem artifactFiles_of_ok (h : d.declaredName = .ok n) :
    d.artifactFiles t header = .ok (t.artifactFiles n d.kind? header) := by
  rw [artifactFiles, h]
  rfl

/-- One name serves all files, so without it none of them is named. -/
theorem artifactFiles_of_error (h : d.declaredName = .error e) :
    d.artifactFiles t header = .error e := by
  rw [artifactFiles, h]
  rfl

end Descriptor

/-! ## Endings -/

/-- An ending is taken off once. -/
theorem withoutEnding_append (stem ending : String) :
    withoutEnding ending (stem ++ ending) = stem := by
  have h : ending.toList.isSuffixOf (stem ++ ending).toList := by
    simp [List.isSuffixOf_iff_suffix]
  rw [withoutEnding, if_pos h, String.length_append, Nat.add_sub_cancel, String.toList_append,
    ← String.length_toList, List.take_left, String.ofList_toList]

/-- An ending leaves a text before it. -/
theorem exists_eq_append_of_suffix {ending text : String} (h : ending.toList <:+ text.toList) :
    ∃ stem, text = stem ++ ending := by
  obtain ⟨cs, hcs⟩ := h
  refine ⟨String.ofList cs, ?_⟩
  rw [← String.toList_inj, String.toList_append, String.toList_ofList, hcs]

/-- A text that does not end so is left whole. -/
theorem withoutEnding_of_not_suffix {ending text : String} (h : ¬ ending.toList <:+ text.toList) :
    withoutEnding ending text = text := by
  have h' : ¬ ending.toList.isSuffixOf text.toList := by
    simpa [List.isSuffixOf_iff_suffix] using h
  simp [withoutEnding, h']

end GrammarTarget
