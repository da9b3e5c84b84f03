import Std.Data.ExtTreeMap
import GrammarTarget.Reserved.Words
import GrammarTarget.Log.Logged

/-!
# Tables of reserved words

A table gives each of its words one category. The first category that a word is added under is
the one it keeps (`Table.category?_add`), so in the standard table a word has the first of the
categories that list it (`Table.category?_standard`). The entries are listed in the order of the
words, and two tables are equal exactly if they answer alike (`Table.ext_category?`).
-/

namespace GrammarTarget.Reserved

/-- Words and the category of each. -/
structure Table where
  entries : Std.ExtTreeMap String Category
  deriving DecidableEq

namespace Table

/-- The table without words. -/
def empty : Table := ⟨∅⟩

/-- The category of a word, if the table has the word. -/
def category? (t : Table) (word : String) : Option Category :=
  t.entries[word]?

/-- Whether a word is in the table. -/
def contains (t : Table) (word : String) : Bool :=
  t.entries.contains word

/-- How many words the table has, each counted once. -/
def size (t : Table) : Nat :=
  t.entries.size

/-- Whether the table has no words. -/
def isEmpty (t : Table) : Bool :=
  t.entries.isEmpty

/-- The words with their categories, in the order of the words. -/
def toList (t : Table) : List (String × Category) :=
  t.entries.toList

/-- Adds a word under a category, unless the table has it already. -/
def add (t : Table) (word : String) (category : Category) : Table :=
  ⟨t.entries.insertIfNew word category⟩

/-- Adds words under one category, from left to right. -/
def addAll (t : Table) (words : List String) (category : Category) : Table :=
  words.foldl (fun t word => t.add word category) t

/-- The table of the words of all categories, added in the order of the categories. -/
def standard : Table :=
  Category.all.foldl (fun t c => t.addAll c.words c) empty

/-- Builds the standard table and tells of it. -/
def build (language : String) : Log.Logged Table := do
  Log.Logged.write (.tableBuilt language standard.size)
  pure standard

/-! ## What a table answers -/

@[simp] theorem category?_empty (word : String) : empty.category? word = none := by
  simp [empty, category?]

/-- Adding gives a category to the added word alone, and only if it had none. -/
theorem category?_add (t : Table) (word other : String) (c : Category) :
    (t.add word c).category? other =
      if word = other ∧ t.category? word = none then some c else t.category? other := by
  simp [add, category?, Std.ExtTreeMap.getElem?_insertIfNew, Std.LawfulEqCmp.compare_eq_iff_eq]

/-- Words that are added together leave what is there and give the rest one category. -/
theorem category?_addAll (t : Table) (words : List String) (c : Category) (other : String) :
    (t.addAll words c).category? other =
      (t.category? other).or (if other ∈ words then some c else none) := by
  induction words generalizing t with
  | nil => exact (Option.or_none ..).symm
  | cons word words ih =>
      show ((t.add word c).addAll words c).category? other = _
      rw [ih, category?_add]
      -- a word that has just been added keeps its category through the rest
      by_cases hword : word = other
      · subst hword
        cases t.category? word <;> simp
      · cases t.category? other <;> simp [hword, Ne.symm hword]

/-- Adding the words of categories in turn leaves what is there and gives any other word the first
    of the categories that list it. -/
theorem category?_foldl_addAll (cs : List Category) (t : Table) (word : String) :
    (cs.foldl (fun t c => t.addAll c.words c) t).category? word =
      (t.category? word).or (cs.find? fun c => word ∈ c.words) := by
  induction cs generalizing t with
  | nil => exact (Option.or_none ..).symm
  | cons c cs ih =>
      rw [List.foldl_cons, ih, category?_addAll, Option.or_assoc, List.find?_cons]
      by_cases hword : word ∈ c.words <;> simp [hword]

/-- A word has the first of the categories that list it. -/
theorem category?_standard (word : String) :
    standard.category? word = Category.all.find? fun c => word ∈ c.words := by
  rw [standard, category?_foldl_addAll, category?_empty, Option.none_or]

/-- What the standard table finds is listed under the category found. -/
theorem mem_words_of_category?_standard {word : String} {c : Category}
    (h : standard.category? word = some c) : word ∈ c.words := by
  rw [category?_standard] at h
  simpa using List.find?_some h

theorem contains_eq_isSome (t : Table) (word : String) :
    t.contains word = (t.category? word).isSome := by
  simp [contains, category?]

/-- The reserved words are those that some category lists. -/
theorem contains_standard (word : String) :
    standard.contains word = (Category.all.find? fun c => word ∈ c.words).isSome := by
  rw [contains_eq_isSome, category?_standard]

/-- A table is known by its answers; how its words came in does not show. -/
theorem ext_category? {t u : Table} (h : ∀ word, t.category? word = u.category? word) : t = u := by
  rcases t with ⟨t⟩; rcases u with ⟨u⟩
  exact congrArg Table.mk (Std.ExtTreeMap.ext_getElem? h)

/-- The entries listed are the answers given. -/
theorem mem_toList_iff {t : Table} {word : String} {c : Category} :
    (word, c) ∈ t.toList ↔ t.category? word = some c :=
  Std.ExtTreeMap.mem_toList_iff_getElem?_eq_some

/-- No word is listed twice, and none is left out. -/
theorem length_toList (t : Table) : t.toList.length = t.size :=
  Std.ExtTreeMap.length_toList

end Table

end GrammarTarget.Reserved
