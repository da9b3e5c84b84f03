/-!
# Grammar symbols — the identifiers that a grammar declares

Rules and tokens are named by identifiers. What is asked of a symbol is its text alone, so plain
text serves as a symbol too.
-/

namespace GrammarTarget

/-- Whether a symbol names a rule or a token. -/
inductive SymbolRole where
  | rule
  | token
  deriving DecidableEq, Repr

/-- A role by its name. -/
def SymbolRole.label : SymbolRole → String
  | rule  => "rule"
  | token => "token"

/-- An identifier that a grammar declares, with its role. -/
structure Symbol where
  role : SymbolRole
  text : String
  deriving DecidableEq, Repr

/-- Types whose values have the text of an identifier. -/
class HasText (α : Type) where
  text : α → String

/-- A text is its own text. -/
instance : HasText String := ⟨id⟩

/-- The text of a symbol, whose role does not matter. -/
instance : HasText Symbol := ⟨Symbol.text⟩

/-- Texts are their own texts, so a list of them is checked as it stands. -/
theorem HasText.map_text (texts : List String) : texts.map HasText.text = texts :=
  List.map_id texts

end GrammarTarget
