import GrammarTarget.Reserved.Category

/-!
# The words of each category

The words that Rust reserves, those that its prelude and its primitive types take, and the names
that generated code declares itself. Integer types are spelled from their sign and their size.
-/

namespace GrammarTarget.Reserved

/-- The words that are keywords everywhere. -/
def keywords : List String :=
  ["as", "break", "const", "continue", "crate", "else", "enum", "extern", "false", "fn", "for",
   "if", "impl", "in", "let", "loop", "match", "mod", "move", "mut", "pub", "ref", "return",
   "Self", "self", "static", "struct", "super", "trait", "true", "type", "unsafe", "use", "where",
   "while"]

/-- The keywords kept for later use. -/
def reservedKeywords : List String :=
  ["abstract", "alignof", "become", "box", "do", "final", "macro", "offsetof", "override", "priv",
   "proc", "pure", "sizeof", "typeof", "unsized", "virtual", "yield"]

/-- The words that are keywords in some places only. -/
def contextualKeywords : List String :=
  ["union", "dyn"]

/-- The keywords that the edition of 2018 added. -/
def edition2018Keywords : List String :=
  ["async", "await", "try", "catch"]

/-- The names that every file has in scope without importing them. -/
def preludeNames : List String :=
  ["Copy", "Send", "Sized", "Sync", "Drop", "Fn", "FnMut", "FnOnce", "drop", "Box", "ToOwned",
   "Clone", "PartialEq", "PartialOrd", "Eq", "Ord", "AsRef", "AsMut", "Into", "From", "Default",
   "Iterator", "Extend", "IntoIterator", "DoubleEndedIterator", "ExactSizeIterator", "Option",
   "Some", "None", "Result", "Ok", "Err", "SliceConcatExt", "String", "ToString", "Vec"]

/-- The primitive types other than integers. -/
def primitiveTypes : List String :=
  ["bool", "char", "f32", "f64", "fn"]

/-- How the name of an integer type begins: signed, then unsigned. -/
def integerSigns : List String :=
  ["i", "u"]

/-- How the name of an integer type ends. -/
def integerSizes : List String :=
  ["8", "16", "32", "64", "128", "size"]

/-- The names of the integer types, by size and then by sign. -/
def integerTypeNames : List String :=
  integerSizes.flatMap fun size => integerSigns.map fun sign => sign ++ size

/-- The names that generated code declares itself. -/
def generatorInternalNames : List String :=
  ["rule", "parser_rule", "action"]

/-- The words that a category lists. A word may be in the lists of several categories. -/
def Category.words : Category → List String
  | keyword            => keywords
  | reservedKeyword    => reservedKeywords
  | contextualKeyword  => contextualKeywords
  | edition2018Keyword => edition2018Keywords
  | prelude            => preludeNames
  | primitiveType      => primitiveTypes
  | integerType        => integerTypeNames
  | generatorInternal  => generatorInternalNames

/-- All categories in their order, which is the order in which a table is filled. -/
def Category.all : List Category :=
  [keyword, reservedKeyword, contextualKeyword, edition2018Keyword, prelude, primitiveType,
   integerType, generatorInternal]

/-- No category is left out when a table is filled. -/
theorem Category.mem_all (c : Category) : c ∈ Category.all := by
  cases c <;> decide

end GrammarTarget.Reserved
