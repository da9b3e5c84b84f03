import Mathlib.Data.Finset.Card
import Mathlib.Data.Finset.Dedup
import GrammarTarget.Reserved.Table

/-!
# Tables and their histories

A table is built by insertions, one word or a row of words at a time. One insertion leaves what is
there and gives the other words that it has its category (`Table.category?_insert`); from that, by
induction, a table answers with the first insertion that has the word
(`Table.category?_ofHistory`). Histories in another order hold the same words, and they come to the
same table exactly if no word changes its first category (`Table.ofHistory_eq_iff`).
-/

namespace GrammarTarget.Reserved

/-- An operation that adds to a table. -/
inductive Insertion where
  | add (word : String) (category : Category)
  | addAll (words : List String) (category : Category)
  deriving DecidableEq, Repr

namespace Insertion

/-- The words that are added, from left to right. -/
def words : Insertion → List String
  | add word _     => [word]
  | addAll words _ => words

/-- The category that the words are added under. -/
def category : Insertion → Category
  | add _ category    => category
  | addAll _ category => category

end Insertion

/-- The category of the first insertion that has the word. -/
def firstCategory? (history : List Insertion) (word : String) : Option Category :=
  (history.find? fun i => word ∈ i.words).map Insertion.category

/-- All words that are inserted, each once. -/
def insertedWords (history : List Insertion) : Finset String :=
  (history.flatMap Insertion.words).toFinset

namespace Table

/-- The table after an insertion. -/
def insert (t : Table) : Insertion → Table
  | .add word category     => t.add word category
  | .addAll words category => t.addAll words category

/-- The table that is reached from the empty one. -/
def ofHistory (history : List Insertion) : Table :=
  history.foldl insert empty

/-! ## One insertion -/

theorem insert_eq_addAll (t : Table) (i : Insertion) :
    t.insert i = t.addAll i.words i.category := by
  cases i with
  | add word category => rfl
  | addAll words category => rfl

theorem category?_insert (t : Table) (i : Insertion) (word : String) :
    (t.insert i).category? word =
      (t.category? word).or (if word ∈ i.words then some i.category else none) := by
  rw [insert_eq_addAll, category?_addAll]

/-- Words that are all there change nothing, whatever category they come with. -/
theorem insert_eq_self {t : Table} {i : Insertion} (h : ∀ word ∈ i.words, t.contains word = true) :
    t.insert i = t := by
  apply ext_category?
  intro word
  rw [category?_insert]
  by_cases hword : word ∈ i.words
  · have hthere := h word hword
    rw [contains_eq_isSome] at hthere
    exact Option.or_of_isSome hthere
  · rw [if_neg hword, Option.or_none]

/-! ## A whole history -/

/-- What a table has stays, and any other word gets the category of its first insertion. -/
theorem category?_foldl_insert (history : List Insertion) (t : Table) (word : String) :
    (history.foldl insert t).category? word
      = (t.category? word).or (firstCategory? history word) := by
  induction history generalizing t with
  | nil => exact (Option.or_none ..).symm
  | cons i history ih =>
      rw [List.foldl_cons, ih, category?_insert, Option.or_assoc, firstCategory?, firstCategory?,
        List.find?_cons]
      by_cases hword : word ∈ i.words <;> simp [hword]

/-- The table of a history answers with the first insertion that has the word. -/
theorem category?_ofHistory (history : List Insertion) (word : String) :
    (ofHistory history).category? word = firstCategory? history word := by
  rw [ofHistory, category?_foldl_insert, category?_empty, Option.none_or]

/-- A table has the words of its history and no others. -/
theorem contains_ofHistory_iff {history : List Insertion} {word : String} :
    (ofHistory history).contains word = true ↔ word ∈ insertedWords history := by
  rw [contains_eq_isSome, category?_ofHistory, firstCategory?, Option.isSome_map, List.find?_isSome]
  simp only [insertedWords, decide_eq_true_eq, List.mem_toFinset, List.mem_flatMap]

/-- Histories come to one table if they agree on who was first, for every word. -/
theorem ofHistory_eq_iff {history other : List Insertion} :
    ofHistory other = ofHistory history ↔
      ∀ word, firstCategory? other word = firstCategory? history word := by
  constructor
  · intro h word
    rw [← category?_ofHistory, ← category?_ofHistory, h]
  · intro h
    apply ext_category?
    intro word
    rw [category?_ofHistory, category?_ofHistory, h word]

/-! ## How many words -/

/-- A table has as many entries as words. -/
theorem size_eq_card {t : Table} {words : Finset String}
    (h : ∀ word, t.contains word = true ↔ word ∈ words) : t.size = words.card := by
  -- no key occurs twice, so to count the keys is to count them as a set
  have hkeys : t.entries.keys.toFinset = words := by
    ext word
    rw [List.mem_toFinset, Std.ExtTreeMap.mem_keys, ← h word]
    exact Std.ExtTreeMap.mem_iff_contains
  rw [← hkeys, List.toFinset_card_of_nodup Std.ExtTreeMap.nodup_keys]
  exact Std.ExtTreeMap.length_keys.symm

/-- The size counts different words, however often they were added. -/
theorem size_ofHistory (history : List Insertion) :
    (ofHistory history).size = (insertedWords history).card :=
  size_eq_card fun _ => contains_ofHistory_iff

/-! ## Histories in another order -/

/-- The order of insertions does not matter for the words. -/
theorem insertedWords_of_perm {history other : List Insertion} (h : other.Perm history) :
    insertedWords other = insertedWords history :=
  List.toFinset_eq_of_perm _ _ (h.flatMap_right Insertion.words)

/-- A table answers as its history says. -/
structure FollowsHistory (t : Table) (history : List Insertion) : Prop where
  /-- A word has the category that it was first added under, and none if it never was. -/
  category?_eq : ∀ word, t.category? word = firstCategory? history word
  contains_iff : ∀ word, t.contains word = true ↔ ∃ c, t.category? word = some c
  size_eq : t.size = (insertedWords history).card
  /-- Words that are there already may be added again, under any category. -/
  insert_eq : ∀ i, (∀ word ∈ i.words, t.contains word = true) → t.insert i = t

/-- The table of a history answers as that history says. -/
theorem followsHistory_ofHistory (history : List Insertion) :
    (ofHistory history).FollowsHistory history where
  category?_eq := category?_ofHistory history
  contains_iff := by
    intro word
    rw [contains_eq_isSome, Option.isSome_iff_exists]
  size_eq := size_ofHistory history
  insert_eq := fun _ => insert_eq_self

/-- **A table keeps the first category of each word, in whatever order the words came.** What it
    answers is decided by its history; the history in another order holds the same words, and comes
    to the same table exactly if each word is still first added under the same category. -/
theorem history_decides_table {history reordered : List Insertion} (h : reordered.Perm history) :
    (ofHistory history).FollowsHistory history ∧
      (∀ word, (ofHistory reordered).contains word = (ofHistory history).contains word) ∧
      (ofHistory reordered).size = (ofHistory history).size ∧
      (ofHistory reordered = ofHistory history ↔
        ∀ word, firstCategory? reordered word = firstCategory? history word) := by
  have hwords : insertedWords reordered = insertedWords history := insertedWords_of_perm h
  refine ⟨followsHistory_ofHistory history, ?_, ?_, ofHistory_eq_iff⟩
  · intro word
    rw [Bool.eq_iff_iff, contains_ofHistory_iff, contains_ofHistory_iff, hwords]
  · rw [size_ofHistory, size_ofHistory, hwords]

/-- The two orders hold the same words, but `fn` is first a keyword in one of them alone. -/
theorem history_decides_table_swapped :
    [Insertion.add "fn" .primitiveType, .addAll ["as", "fn"] .keyword].Perm
        [.addAll ["as", "fn"] .keyword, .add "fn" .primitiveType] ∧
      (ofHistory [.addAll ["as", "fn"] .keyword, .add "fn" .primitiveType]).category? "fn"
        = some .keyword ∧
      (ofHistory [.add "fn" .primitiveType, .addAll ["as", "fn"] .keyword]).size = 2 ∧
      ofHistory [.add "fn" .primitiveType, .addAll ["as", "fn"] .keyword]
        ≠ ofHistory [.addAll ["as", "fn"] .keyword, .add "fn" .primitiveType] := by
  have hperm := List.Perm.swap (Insertion.addAll ["as", "fn"] .keyword)
    (.add "fn" .primitiveType) []
  obtain ⟨hfollows, -, hsize, hsame⟩ := history_decides_table hperm
  refine ⟨hperm, hfollows.category?_eq "fn", ?_, ?_⟩
  · rw [hsize, hfollows.size_eq]
    decide
  · intro heq
    exact absurd (hsame.mp heq "fn") (by decide)

/-! ## The standard table -/

/-- The insertions of the standard table; the integer types are added one by one. -/
def standardHistory : List Insertion :=
  [.addAll keywords .keyword, .addAll reservedKeywords .reservedKeyword,
   .addAll contextualKeywords .contextualKeyword, .addAll edition2018Keywords .edition2018Keyword,
   .addAll preludeNames .prelude, .addAll primitiveTypes .primitiveType] ++
  integerTypeNames.map (.add · .integerType) ++ [.addAll generatorInternalNames .generatorInternal]

/-- The standard table has a history, in which integer types come one by one. -/
theorem standard_eq_ofHistory : standard = ofHistory standardHistory := by
  rw [ofHistory, standardHistory, List.foldl_append, List.foldl_append, List.foldl_map]
  rfl

theorem standard_followsHistory : standard.FollowsHistory standardHistory := by
  rw [standard_eq_ofHistory]
  exact followsHistory_ofHistory standardHistory

end Table

end GrammarTarget.Reserved
