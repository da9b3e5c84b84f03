import Mathlib.Data.List.Nodup
import Mathlib.Data.List.Perm.Subperm
import GrammarTarget.Proofs.ByteOrder
import GrammarTarget.Reserved.Table

/-!
# The listing of a table

A table may be kept in a map that gives its entries in any order at all. An `Enumeration` is such
an order, and its listing is what comes of sorting it. Since no word has two entries, the words of
a listing ascend strictly, and the categories never decide (`Enumeration.ascending_listing`). A
list that ascends is determined by what is in it (`IsListing.unique`), so nothing of the order is
left: the listing is that of the table (`Enumeration.listing_eq_toList`), and tables are equal
exactly if their listings are.
-/

namespace GrammarTarget.Reserved

open Text (bytes compare_bytes)

/-! ## The order of entries -/

/-- The places of categories make their order transitive. -/
instance : Std.TransOrd Category :=
  inferInstanceAs (Std.TransCmp (compareOn Category.rank))

/-- Entries are ordered by the bytes of their words, and those of one word by their categories. -/
def compareEntries : String × Category → String × Category → Ordering :=
  compareLex (compareOn fun entry => bytes entry.1) (compareOn Prod.snd)

/-- The order of entries is transitive, which sorting asks for. -/
instance : Std.TransCmp compareEntries :=
  inferInstanceAs (Std.TransCmp (compareLex _ _))

/-- Each word comes before all that follow it. -/
def Ascending (words : List String) : Prop :=
  words.Pairwise fun a b => compare (bytes a) (bytes b) = .lt

variable {words : List String} {entries others : List (String × Category)}

theorem ne_of_compare_bytes_lt {a b : String} (h : compare (bytes a) (bytes b) = .lt) : a ≠ b := by
  rintro rfl
  rw [Std.compare_self] at h
  cases h

/-- In an ascending list no word stands twice. -/
theorem Ascending.nodup (h : Ascending words) : words.Nodup :=
  List.Pairwise.imp ne_of_compare_bytes_lt h

/-- Entries of different words are ordered by their words. -/
theorem compare_bytes_of_isLE {a b : String × Category} (hle : (compareEntries a b).isLE)
    (hne : a.1 ≠ b.1) : compare (bytes a.1) (bytes b.1) = .lt := by
  have hthen : ((compare (bytes a.1) (bytes b.1)).then (compare a.2 b.2)).isLE := hle
  cases hwords : compare (bytes a.1) (bytes b.1) with
  | lt => rfl
  | eq =>
      rw [compare_bytes] at hwords
      exact absurd (Std.compare_eq_iff_eq.mp hwords) hne
  | gt =>
      rw [hwords] at hthen
      cases hthen

namespace Table

variable {t u : Table}

/-! ## Listings -/

/-- The entries of a table, in the order of the words. -/
structure IsListing (t : Table) (entries : List (String × Category)) : Prop where
  ascending : Ascending (entries.map Prod.fst)
  mem_iff : ∀ word c, (word, c) ∈ entries ↔ t.category? word = some c

theorem IsListing.nodup (h : t.IsListing entries) : entries.Nodup :=
  h.ascending.nodup.of_map

/-- A table has one listing. -/
theorem IsListing.unique (h : t.IsListing entries) (ho : t.IsListing others) :
    entries = others := by
  have hperm : entries.Perm others := by
    rw [List.perm_ext_iff_of_nodup h.nodup ho.nodup]
    rintro ⟨word, c⟩
    rw [h.mem_iff, ho.mem_iff]
  have hascending := List.pairwise_map.mp h.ascending
  have hoascending := List.pairwise_map.mp ho.ascending
  refine List.Perm.eq_of_pairwise ?_ hascending hoascending hperm
  -- no two words come each before the other
  intro a b _ _ hab hba
  rw [Std.OrientedCmp.gt_of_lt hba] at hab
  cases hab

/-- The entries as the table itself gives them are its listing. -/
theorem isListing_toList (t : Table) : t.IsListing t.toList where
  ascending := by
    rw [Ascending, List.pairwise_map]
    refine List.Pairwise.imp ?_ Std.ExtTreeMap.ordered_keys_toList
    intro a b h
    rw [compare_bytes]
    exact h
  mem_iff := fun _ _ => mem_toList_iff

/-! ## Enumerations -/

/-- The entries of a table in some order. -/
structure Enumeration (t : Table) where
  entries : List (String × Category)
  nodup_words : (entries.map Prod.fst).Nodup
  mem_iff : ∀ word c, (word, c) ∈ entries ↔ t.category? word = some c

/-- Every table can be enumerated, for one in the order of its words. -/
instance (t : Table) : Inhabited t.Enumeration :=
  ⟨⟨t.toList, (isListing_toList t).ascending.nodup, (isListing_toList t).mem_iff⟩⟩

namespace Enumeration

/-- The entries sorted by the bytes of their words, and then by their categories. -/
def listing (e : t.Enumeration) : List (String × Category) :=
  e.entries.mergeSort fun a b => (compareEntries a b).isLE

/-- Whether another table is equal: it has as many entries, and these among them. -/
def agrees (e : t.Enumeration) (u : Table) : Bool :=
  e.entries.length == u.size && e.entries.all fun entry => u.category? entry.1 == some entry.2

variable (e : t.Enumeration)

/-- Two enumerations of a table differ in the order of the entries alone. -/
theorem perm_entries (other : t.Enumeration) : e.entries.Perm other.entries := by
  rw [List.perm_ext_iff_of_nodup e.nodup_words.of_map other.nodup_words.of_map]
  rintro ⟨word, c⟩
  rw [e.mem_iff, other.mem_iff]

theorem length_entries : e.entries.length = t.size := by
  rw [(e.perm_entries default).length_eq]
  exact length_toList t

theorem perm_listing : e.listing.Perm e.entries :=
  List.mergeSort_perm _ _

/-- No two entries have one word, so what is sorted ascends strictly. -/
theorem ascending_listing : Ascending (e.listing.map Prod.fst) := by
  have hsorted : e.listing.Pairwise fun a b => (compareEntries a b).isLE := by
    apply List.pairwise_mergeSort
    · intro a b c hab hbc
      exact Std.TransCmp.isLE_trans hab hbc
    · intro a b
      have hswap : compareEntries b a = (compareEntries a b).swap := Std.OrientedCmp.eq_swap
      rw [hswap]
      cases compareEntries a b <;> rfl
  have hdistinct : e.listing.Pairwise fun a b => a.1 ≠ b.1 := by
    have hwords : (e.listing.map Prod.fst).Nodup :=
      (e.perm_listing.map Prod.fst).nodup_iff.mpr e.nodup_words
    exact List.pairwise_map.mp hwords
  -- in order and never equal is strictly in order
  rw [Ascending, List.pairwise_map]
  refine (hsorted.and hdistinct).imp ?_
  rintro a b ⟨hle, hne⟩
  exact compare_bytes_of_isLE hle hne

theorem isListing_listing : t.IsListing e.listing where
  ascending := e.ascending_listing
  mem_iff := by
    intro word c
    rw [e.perm_listing.mem_iff, e.mem_iff]

/-- The order in which the entries were kept is not seen any more in the listing. -/
theorem listing_eq_toList : e.listing = t.toList :=
  e.isListing_listing.unique (isListing_toList t)

/-! ## Equal tables -/

/-- Tables that have the same entries in some orders are equal. -/
theorem eq_of_perm {f : u.Enumeration} (h : e.entries.Perm f.entries) : t = u := by
  apply ext_category?
  intro word
  apply Option.ext
  intro c
  rw [← e.mem_iff, ← f.mem_iff, h.mem_iff]

/-- Tables are told apart by their listings. -/
theorem eq_iff_listing_eq (f : u.Enumeration) : t = u ↔ e.listing = f.listing := by
  constructor
  · rintro rfl
    exact e.isListing_listing.unique f.isListing_listing
  · intro h
    have hentries : e.listing.Perm f.entries := by
      rw [h]
      exact f.perm_listing
    exact e.eq_of_perm (e.perm_listing.symm.trans hentries)

/-- Comparing entry by entry finds out whether tables are equal; a table that has more words is
    found out by its size. -/
theorem agrees_iff : e.agrees u = true ↔ t = u := by
  simp only [agrees, Bool.and_eq_true, beq_iff_eq, List.all_eq_true, Prod.forall]
  constructor
  · rintro ⟨hlength, hall⟩
    have f : u.Enumeration := default
    have hsubset : e.entries ⊆ f.entries := by
      rintro ⟨word, c⟩ hmem
      exact (f.mem_iff word c).mpr (hall word c hmem)
    -- as many different entries as the other table has are all of its entries
    have hlengths : f.entries.length ≤ e.entries.length :=
      Nat.le_of_eq (f.length_entries.trans hlength.symm)
    have hsubperm := List.subperm_of_subset e.nodup_words.of_map hsubset
    exact e.eq_of_perm (hsubperm.perm_of_length_le hlengths)
  · rintro rfl
    exact ⟨e.length_entries, fun word c hmem => (e.mem_iff word c).mp hmem⟩

end Enumeration

/-- **A table has one listing, in whatever order its entries are kept.** The words come in the order
    of their bytes, each once and with its category; the tables are equal, entry by entry, exactly
    if their listings are the same. -/
theorem listing_is_canonical (e other : t.Enumeration) (f : u.Enumeration) :
    e.listing = t.toList ∧
      Ascending (e.listing.map Prod.fst) ∧
      (∀ word c, (word, c) ∈ e.listing ↔ t.category? word = some c) ∧
      e.listing.Nodup ∧
      e.listing.length = t.size ∧
      other.listing = e.listing ∧
      (t = u ↔ e.listing = f.listing) ∧
      (e.agrees u = true ↔ e.listing = f.listing) := by
  have hlisting := e.isListing_listing
  refine ⟨e.listing_eq_toList, hlisting.ascending, hlisting.mem_iff, hlisting.nodup, ?_,
    other.isListing_listing.unique hlisting, e.eq_iff_listing_eq f,
    e.agrees_iff.trans (e.eq_iff_listing_eq f)⟩
  rw [e.listing_eq_toList, length_toList]

end Table

end GrammarTarget.Reserved
