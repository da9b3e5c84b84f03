import GrammarTarget.Escape
import GrammarTarget.Reserved.Table

/-!
# Targets — the languages that recognizers are generated in

A target is given by its language, the version of the generator's support for it, the extension of
its files and the words that its language reserves.
-/

namespace GrammarTarget

open Log (Logged)

/-- A language that recognizers are generated in. -/
structure Target where
  language  : String
  version   : String
  /-- The extension of a file; the argument tells whether it is a header. -/
  extension : Bool → String
  reserved  : Reserved.Table

/-- Recognizers in Rust. There are no headers, so all files have one extension. -/
def Target.rust : Target where
  language  := "Rust"
  version   := "4.7.1"
  extension := fun _ => ".rs"
  reserved  := Reserved.Table.standard

/-- Writes the escape of a code point after a text, for a literal of the target's language. -/
def Target.appendEscape (_ : Target) (text : String) (codePoint : UInt32) : String :=
  Escape.append text codePoint

/-- Makes the Rust target ready for use: its table is built, which the log tells. -/
def Target.load : Logged Target := do
  let reserved ← Reserved.Table.build Target.rust.language
  pure { Target.rust with reserved := reserved }

end GrammarTarget
