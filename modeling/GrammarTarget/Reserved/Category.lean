/-!
# Categories of reserved words

The categories are ordered as they are declared here: a word that several of them list belongs to
the first.
-/

namespace GrammarTarget.Reserved

/-- Why a word cannot be used as an identifier. -/
inductive Category where
  | keyword
  | reservedKeyword
  | contextualKeyword
  | edition2018Keyword
  | prelude
  | primitiveType
  | integerType
  | generatorInternal
  deriving DecidableEq, Repr

namespace Category

/-- The place of a category in the order of the declaration. -/
def rank : Category → Nat
  | keyword            => 0
  | reservedKeyword    => 1
  | contextualKeyword  => 2
  | edition2018Keyword => 3
  | prelude            => 4
  | primitiveType      => 5
  | integerType        => 6
  | generatorInternal  => 7

/-- Categories are compared by their places. -/
instance : Ord Category := ⟨fun a b => compare a.rank b.rank⟩

/-- A category as listings and warnings show it. -/
def label : Category → String
  | keyword            => "keyword"
  | reservedKeyword    => "reserved keyword"
  | contextualKeyword  => "contextual keyword"
  | edition2018Keyword => "2018 edition keyword"
  | prelude            => "prelude name"
  | primitiveType      => "primitive type"
  | integerType        => "integer type"
  | generatorInternal  => "generator internal name"

/-- No two categories share a place. -/
theorem rank_injective {a b : Category} (h : a.rank = b.rank) : a = b := by
  cases a <;> cases b <;> first | rfl | cases h

end Category

/-- Orders what two words are reserved as; a word that is not reserved comes before all others. -/
def compareCategories : Option Category → Option Category → Ordering
  | none,   none   => .eq
  | none,   some _ => .lt
  | some _, none   => .gt
  | some a, some b => compare a b

end GrammarTarget.Reserved
