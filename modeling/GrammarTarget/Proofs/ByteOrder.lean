import Mathlib.Tactic.SplitIfs

/-!
# The order of bytes

Texts are ordered by their bytes in UTF-8. That this is the order of their characters
(`compare_bytes`) is a property of the encoding: of two characters, the bytes of the lesser come
first whatever follows them (`compare_utf8EncodeChar_append`), so the first difference between two
texts decides for the bytes as well.
-/

namespace GrammarTarget.Text

/-- A text in UTF-8. -/
def bytes (text : String) : List UInt8 :=
  text.toByteArray.data.toList

theorem bytes_eq (text : String) : bytes text = text.toList.flatMap String.utf8EncodeChar := by
  rw [bytes, ← String.utf8Encode_toList, List.utf8Encode, List.toList_data_toByteArray]

/-! ## Characters -/

/-- Of two characters the lesser has the lesser bytes, and the difference is within them. -/
theorem compare_utf8EncodeChar_append {c d : Char} (h : c < d) (r s : List UInt8) :
    compare (String.utf8EncodeChar c ++ r) (String.utf8EncodeChar d ++ s) = .lt := by
  have hlt : c.val.toNat < d.val.toNat := h
  have hlast : d.val.toNat < 0x110000 := by
    rcases d.valid with hlow | ⟨-, hhigh⟩
    · exact Nat.lt_trans hlow (by decide)
    · exact hhigh
  unfold String.utf8EncodeChar
  generalize c.val.toNat = n at hlt ⊢
  generalize d.val.toNat = m at hlt hlast ⊢
  dsimp only
  -- the first byte tells the number of bytes, which grows with the character; bytes of the same
  -- number are the digits of the character to the base 64
  split_ifs
  all_goals
    simp (disch := omega) only [List.cons_append, List.nil_append, List.compare_cons_cons,
      Ordering.then_eq_lt, Std.compare_eq_lt, Std.compare_eq_iff_eq, UInt8.lt_iff_toNat_lt,
      ← UInt8.toNat_inj, UInt8.toNat_ofNat', Nat.reducePow, Nat.mod_eq_of_lt]
    omega

/-! ## Texts -/

/-- What two rows of bytes begin with in common does not decide between them. -/
theorem compare_append_left (bs r s : List UInt8) : compare (bs ++ r) (bs ++ s) = compare r s := by
  induction bs with
  | nil => rfl
  | cons b bs ih =>
      rw [List.cons_append, List.cons_append, List.compare_cons_cons, Std.compare_self, ih]
      rfl

/-- The first characters that differ decide, and a text comes after what it begins with. -/
theorem compare_flatMap_of_lt {cs ds : List Char} (h : cs < ds) :
    compare (cs.flatMap String.utf8EncodeChar) (ds.flatMap String.utf8EncodeChar) = .lt := by
  induction cs generalizing ds with
  | nil =>
      cases ds with
      | nil => exact absurd h (List.not_lt_nil _)
      | cons d ds =>
          have hpos : 0 < (String.utf8EncodeChar d).length := by
            rw [String.length_utf8EncodeChar]
            exact d.utf8Size_pos
          obtain ⟨b, bs, hd⟩ := List.exists_cons_of_length_pos hpos
          rw [List.flatMap_cons, hd]
          rfl
  | cons c cs ih =>
      cases ds with
      | nil => exact absurd h (List.not_lt_nil _)
      | cons d ds =>
          rw [List.flatMap_cons, List.flatMap_cons]
          rcases List.cons_lt_cons_iff.mp h with hlt | ⟨rfl, hlt⟩
          · exact compare_utf8EncodeChar_append hlt _ _
          · rw [compare_append_left]
            exact ih hlt

theorem compare_bytes_of_lt {a b : String} (h : a < b) : compare (bytes a) (bytes b) = .lt := by
  rw [bytes_eq, bytes_eq]
  exact compare_flatMap_of_lt (String.lt_iff.mp h)

theorem compare_eq_lt_iff {a b : String} : compare a b = .lt ↔ a < b :=
  compareOfLessAndEq_eq_lt

/-- **The order of the bytes is the order of the characters.** -/
theorem compare_bytes (a b : String) : compare (bytes a) (bytes b) = compare a b := by
  cases h : compare a b with
  | lt => exact compare_bytes_of_lt (compare_eq_lt_iff.mp h)
  | eq =>
      rw [Std.compare_eq_iff_eq.mp h]
      exact Std.compare_self
  | gt =>
      have hba : b < a := compare_eq_lt_iff.mp (Std.OrientedCmp.lt_of_gt h)
      exact Std.OrientedCmp.gt_of_lt (compare_bytes_of_lt hba)

end GrammarTarget.Text
