import GrammarTarget.Grammar.Descriptor

/-!
# Options — what a command line asks for

Two settings take a value, the name and the kind of a grammar. The switches take none. All other
arguments are symbols to check.
-/

namespace GrammarTarget.CommandLine

/-- An option with a value. -/
inductive Setting where
  | name
  | kind
  deriving DecidableEq, Repr

/-- A setting as messages show it. -/
def Setting.usage : Setting → String
  | name => "--name <NAME>"
  | kind => "--kind <KIND>"

/-- The setting that a long option names, if it names one in full. -/
def Setting.ofLong? (long : String) : Option Setting :=
  if long = "name" then some .name
  else if long = "kind" then some .kind
  else none

/-- An option without a value. -/
inductive Switch where
  | header
  | reserved
  | targetVersion
  | help
  | version
  deriving DecidableEq, Repr

/-- A switch as messages show it. -/
def Switch.usage : Switch → String
  | header        => "--header"
  | reserved      => "--reserved"
  | targetVersion => "--target-version"
  | help          => "--help"
  | version       => "--version"

/-- The switch that a long option names, if it names one in full. -/
def Switch.ofLong? (long : String) : Option Switch :=
  if long = "header" then some .header
  else if long = "reserved" then some .reserved
  else if long = "target-version" then some .targetVersion
  else if long = "help" then some .help
  else if long = "version" then some .version
  else none

/-- What a command line asks for. -/
structure Options where
  name?         : Option String := none
  kind?         : Option String := none
  header        : Bool := false
  reserved      : Bool := false
  targetVersion : Bool := false
  symbols       : List String := []
  deriving DecidableEq, Repr

namespace Options

/-- The tag for the kind of the grammar; a grammar is combined unless another kind is given. -/
def kindTag (o : Options) : String :=
  o.kind?.getD Kind.combined.tag

/-- The value of a setting, if it has one. -/
def value? (o : Options) : Setting → Option String
  | .name => o.name?
  | .kind => o.kind?

/-- Gives a setting a value, in place of any that it had. -/
def set (o : Options) (setting : Setting) (value : String) : Options :=
  match setting with
  | .name => { o with name? := some value }
  | .kind => { o with kind? := some value }

/-- Puts symbols behind those that are there. -/
def addSymbols (o : Options) (symbols : List String) : Options :=
  { o with symbols := o.symbols ++ symbols }

/-- The grammar that the options declare. Its kind is a tag that may name none. -/
def grammar (o : Options) : TaggedGrammar :=
  ⟨o.name?, o.kindTag⟩

end Options

end GrammarTarget.CommandLine
