import GrammarTarget.Reserved.Table

/-!
# What the standard table holds

The standard table is built by eight insertions, one for each category, and several lists may have
the same word. Which category a word ends up with is decided by the order of the insertions, and
how two words compare by the order of the categories. These are two orders, written down in two
places; that they agree (`insertions_ascending`) is what makes the table answer with the least
category that lists a word (`Table.category?_standard_eq_some_iff`), and what lets categories be
compared in place of the insertions that they come from (`compareCategories_standard`).
-/

namespace GrammarTarget.Reserved

/-- A category lists a word. Integer types are not written down one by one: such a name is a sign
    followed by a size. -/
def Category.Lists : Category → String → Prop
  | keyword,            word => word ∈ keywords
  | reservedKeyword,    word => word ∈ reservedKeywords
  | contextualKeyword,  word => word ∈ contextualKeywords
  | edition2018Keyword, word => word ∈ edition2018Keywords
  | prelude,            word => word ∈ preludeNames
  | primitiveType,      word => word ∈ primitiveTypes
  | integerType,        word => ∃ sign ∈ integerSigns, ∃ size ∈ integerSizes, word = sign ++ size
  | generatorInternal,  word => word ∈ generatorInternalNames

/-- The lists that are written down. -/
def wordLists : List (List String) :=
  [keywords, reservedKeywords, contextualKeywords, edition2018Keywords, preludeNames,
   primitiveTypes, generatorInternalNames]

/-- The insertions that the standard table is built by: words, and the category that they are
    added under. -/
def insertions : List (List String × Category) :=
  [(keywords, .keyword), (reservedKeywords, .reservedKeyword),
   (contextualKeywords, .contextualKeyword), (edition2018Keywords, .edition2018Keyword),
   (preludeNames, .prelude), (primitiveTypes, .primitiveType), (integerTypeNames, .integerType),
   (generatorInternalNames, .generatorInternal)]

/-- The place, among the insertions, of the first that has the word. -/
def firstInsertion? (word : String) : Option Nat :=
  insertions.findIdx? fun i => word ∈ i.1

/-! ## Words and lists -/

/-- The names of integer types are those that can be put together. -/
theorem mem_integerTypeNames_iff {word : String} :
    word ∈ integerTypeNames ↔
      ∃ sign ∈ integerSigns, ∃ size ∈ integerSizes, word = sign ++ size := by
  constructor
  · intro h
    obtain ⟨size, hsize, hword⟩ := List.mem_flatMap.mp h
    obtain ⟨sign, hsign, rfl⟩ := List.mem_map.mp hword
    exact ⟨sign, hsign, size, hsize, rfl⟩
  · rintro ⟨sign, hsign, size, hsize, rfl⟩
    exact List.mem_flatMap.mpr ⟨size, hsize, List.mem_map.mpr ⟨sign, hsign, rfl⟩⟩

/-- What a category lists are its words, also where they are put together. -/
theorem Category.lists_iff {c : Category} {word : String} : c.Lists word ↔ word ∈ c.words := by
  cases c with
  | integerType => exact mem_integerTypeNames_iff.symm
  | _ => exact Iff.rfl

/-- The lists that are written down are those of all categories but the integer types. -/
theorem wordLists_eq :
    wordLists = (Category.all.filter (· ≠ .integerType)).map Category.words := rfl

/-- A word is listed somewhere if it is written down or put together. -/
theorem Category.exists_lists_iff {word : String} :
    (∃ c : Category, c.Lists word) ↔
      (∃ words ∈ wordLists, word ∈ words) ∨
        ∃ sign ∈ integerSigns, ∃ size ∈ integerSizes, word = sign ++ size := by
  constructor
  · rintro ⟨c, h⟩
    by_cases hc : c = .integerType
    · subst hc
      exact Or.inr h
    · have hmem : c.words ∈ wordLists := by
        rw [wordLists_eq]
        exact List.mem_map_of_mem (List.mem_filter.mpr ⟨c.mem_all, decide_eq_true hc⟩)
      exact Or.inl ⟨c.words, hmem, Category.lists_iff.mp h⟩
  · rintro (⟨words, hwords, hword⟩ | h)
    · rw [wordLists_eq] at hwords
      obtain ⟨c, -, rfl⟩ := List.mem_map.mp hwords
      exact ⟨c, Category.lists_iff.mpr hword⟩
    · exact ⟨.integerType, h⟩

theorem insertions_eq : insertions = Category.all.map fun c => (c.words, c) := rfl

theorem Table.standard_eq :
    Table.standard = insertions.foldl (fun t i => t.addAll i.1 i.2) Table.empty := by
  rw [insertions_eq, List.foldl_map]
  rfl

/-! ## The two orders -/

theorem Category.isLE_compare_iff {c d : Category} : (compare c d).isLE ↔ c.rank ≤ d.rank :=
  Nat.isLE_compare

theorem Category.compare_eq_lt_iff {c d : Category} : compare c d = .lt ↔ c.rank < d.rank :=
  Nat.compare_eq_lt

/-- Later insertions are made under greater categories. -/
theorem insertions_ascending :
    insertions.Pairwise fun i j => compare i.2 j.2 = .lt := by
  decide

/-- The first of ascending categories that passes a test is not above any other that does. -/
theorem isLE_of_find?_eq_some {cs : List Category} {p : Category → Bool} {c d : Category}
    (hcs : cs.Pairwise fun c d => compare c d = .lt) (hfind : cs.find? p = some c) (hd : d ∈ cs)
    (hpd : p d = true) : (compare c d).isLE := by
  obtain ⟨-, before, after, rfl, hbefore⟩ := List.find?_eq_some_iff_append.mp hfind
  rw [Category.isLE_compare_iff]
  rcases List.mem_append.mp hd with hd | hd
  -- what comes before the first fails, and what comes after it is greater
  · have hfail := hbefore d hd
    rw [hpd] at hfail
    exact nomatch hfail
  · rcases List.mem_cons.mp hd with rfl | hd
    · exact Nat.le_refl _
    · have hlt := (List.pairwise_cons.mp (List.pairwise_append.mp hcs).2.1).1 d hd
      exact Nat.le_of_lt (Category.compare_eq_lt_iff.mp hlt)

/-- The first of ascending categories that passes a test is the least one that does. -/
theorem find?_eq_some_iff_least {cs : List Category} {p : Category → Bool} {c : Category}
    (hcs : cs.Pairwise fun c d => compare c d = .lt) :
    cs.find? p = some c ↔
      (c ∈ cs ∧ p c = true) ∧ ∀ d ∈ cs, p d = true → (compare c d).isLE := by
  constructor
  · intro h
    exact ⟨⟨List.mem_of_find?_eq_some h, List.find?_some h⟩, fun _ => isLE_of_find?_eq_some hcs h⟩
  · rintro ⟨⟨hmem, hpc⟩, hc⟩
    cases hfind : cs.find? p with
    | none => exact absurd hpc (List.find?_eq_none.mp hfind c hmem)
    | some b =>
        -- each of the two is least, so neither is above the other
        have hbc := isLE_of_find?_eq_some hcs hfind hmem hpc
        have hcb := hc b (List.mem_of_find?_eq_some hfind) (List.find?_some hfind)
        rw [Category.isLE_compare_iff] at hbc hcb
        rw [Category.rank_injective (Nat.le_antisymm hbc hcb)]

theorem Category.all_ascending : Category.all.Pairwise fun c d => compare c d = .lt := by
  have h := insertions_ascending
  rw [insertions_eq, List.pairwise_map] at h
  exact h

/-- Among categories that are numbered in their order, the first to pass a test has the number of
    its place. -/
theorem map_rank_find? {cs : List Category} {k : Nat} (p : Category → Bool)
    (hcs : cs.map Category.rank = List.range' k cs.length) :
    (cs.find? p).map Category.rank = (cs.findIdx? p).map (· + k) := by
  induction cs generalizing k with
  | nil => rfl
  | cons c cs ih =>
      rw [List.map_cons, List.length_cons, List.range'_succ, List.cons.injEq] at hcs
      rw [List.find?_cons, List.findIdx?_cons]
      cases p c with
      | true => simp [hcs.1]
      | false =>
          simp only [Bool.false_eq_true, if_false, ih hcs.2, Option.map_map]
          congr 1
          funext i
          simp only [Function.comp_apply]
          omega

/-! ## What the table answers -/

/-- The standard table gives a word the least of the categories that list it. -/
theorem Table.category?_standard_eq_some_iff {word : String} {c : Category} :
    Table.standard.category? word = some c ↔
      c.Lists word ∧ ∀ d : Category, d.Lists word → (compare c d).isLE := by
  rw [Table.category?_standard, find?_eq_some_iff_least Category.all_ascending]
  simp only [Category.mem_all, true_and, decide_eq_true_eq, true_implies, Category.lists_iff]

/-- A word has no category only if no category lists it. -/
theorem Table.contains_standard_iff {word : String} :
    Table.standard.contains word = true ↔ ∃ c : Category, c.Lists word := by
  rw [Table.contains_standard, List.find?_isSome]
  simp only [Category.mem_all, true_and, decide_eq_true_eq, Category.lists_iff]

/-- The place of the category of a word is that of the first insertion which has the word. -/
theorem map_rank_category?_standard (word : String) :
    (Table.standard.category? word).map Category.rank = firstInsertion? word := by
  have hranks : Category.all.map Category.rank = List.range' 0 Category.all.length := by decide
  rw [Table.category?_standard, map_rank_find? _ hranks, firstInsertion?, insertions_eq,
    List.findIdx?_map]
  exact Option.map_id'

/-- To compare categories is to compare their places; what has none comes first. -/
theorem compareCategories_eq (a b : Option Category) :
    compareCategories a b = compare (a.map Category.rank) (b.map Category.rank) := by
  cases a <;> cases b <;> rfl

/-- Two words compare as the first insertions that have them do. -/
theorem compareCategories_standard (a b : String) :
    compareCategories (Table.standard.category? a) (Table.standard.category? b)
      = compare (firstInsertion? a) (firstInsertion? b) := by
  rw [compareCategories_eq, map_rank_category?_standard, map_rank_category?_standard]

/-- A table answers as the lists say. -/
structure Table.FollowsLists (t : Table) : Prop where
  contains_iff_category : ∀ word, t.contains word = true ↔ ∃ c, t.category? word = some c
  contains_iff : ∀ word, t.contains word = true ↔
    (∃ words ∈ wordLists, word ∈ words) ∨
      ∃ sign ∈ integerSigns, ∃ size ∈ integerSizes, word = sign ++ size
  /-- The category of a word is the least of those that list it. -/
  category_iff : ∀ word c, t.category? word = some c ↔
    c.Lists word ∧ ∀ d : Category, d.Lists word → (compare c d).isLE
  /-- Words compare as the first insertions that have them; a word that none has comes first. -/
  compare_eq : ∀ a b, compareCategories (t.category? a) (t.category? b)
    = compare (firstInsertion? a) (firstInsertion? b)

/-- **The table that is built answers as its lists say:** a word is in it exactly if a list has it
    or it is a sign and a size, and then its category is the least of those that list it. The
    insertions that build the table are made under ascending categories. -/
theorem Table.build_follows_lists (language : String) :
    (Table.build language).value.FollowsLists ∧
      (Table.build language).value = insertions.foldl (fun t i => t.addAll i.1 i.2) Table.empty ∧
      insertions.Pairwise fun i j => compare i.2 j.2 = .lt := by
  refine ⟨⟨?_, ?_, ?_, compareCategories_standard⟩, Table.standard_eq, insertions_ascending⟩
  · intro word
    rw [Table.contains_eq_isSome, Option.isSome_iff_exists]
  · intro word
    exact Table.contains_standard_iff.trans Category.exists_lists_iff
  · intro word c
    exact Table.category?_standard_eq_some_iff

end GrammarTarget.Reserved
