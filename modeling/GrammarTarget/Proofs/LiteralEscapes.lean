import GrammarTarget.Proofs.EscapeCode

/-!
# Which escapes a literal takes

A literal takes the escape of a character: one to six hexadecimal digits in their signs, whose
value is a character's. Escapes are written for any number of 32 bits, and with as many digits as
it needs, so there are two ways in which one may be refused: it has too many digits, or the number
is no character. The first never happens without the second, since all numbers of seven digits are
beyond the last character (`hexWidth_le_six`). The second alone is the case of the surrogates, which
have four digits, and of the numbers of six digits that are too great.

So an escape is taken exactly if it was written for a character, and then it stands for that one
(`denotes_escape_iff`).
-/

namespace GrammarTarget.Escape

/-! ## Characters -/

/-- The number of a character: none of the surrogates, and not beyond the last one. -/
structure IsScalar (n : Nat) : Prop where
  le_last : n ≤ 0x10FFFF
  not_surrogate : ¬ (0xD800 ≤ n ∧ n ≤ 0xDFFF)

/-- The bounds can be compared, so whether a number is that of a character can be decided. -/
instance (n : Nat) : Decidable (IsScalar n) :=
  decidable_of_iff (n ≤ 0x10FFFF ∧ ¬ (0xD800 ≤ n ∧ n ≤ 0xDFFF))
    ⟨fun h => ⟨h.1, h.2⟩, fun h => ⟨h.1, h.2⟩⟩

/-- The bounds leave exactly the characters. -/
theorem isScalar_iff {n : Nat} : IsScalar n ↔ ∃ c : Char, c.toNat = n := by
  constructor
  · rintro ⟨hlast, hsurrogate⟩
    have hvalid : n.isValidChar := by
      show n < 0xD800 ∨ (0xDFFF < n ∧ n < 0x110000)
      omega
    refine ⟨Char.ofNat n, ?_⟩
    rw [Char.ofNat, dif_pos hvalid]
    rfl
  · rintro ⟨c, rfl⟩
    have hvalid : c.toNat < 0xD800 ∨ (0xDFFF < c.toNat ∧ c.toNat < 0x110000) := c.valid
    refine ⟨?_, ?_⟩
    · omega
    · omega

theorem isScalar_toNat_iff {codePoint : UInt32} :
    IsScalar codePoint.toNat ↔ ∃ c : Char, c.val = codePoint := by
  rw [isScalar_iff]
  exact exists_congr fun c => UInt32.toNat_inj

/-! ## Literals -/

/-- The digits of an escape that a literal takes. -/
structure IsLiteral (digits : List Char) : Prop where
  isDigit : ∀ d ∈ digits, (digitValue? d).isSome
  one_le_length : 1 ≤ digits.length
  length_le_six : digits.length ≤ 6
  scalar : IsScalar (hexValue digits)

/-- A text that is an escape in a literal, and the number of the character that it stands for. -/
def Denotes (text : String) (n : Nat) : Prop :=
  ∃ digits, text.toList = enclose digits ∧ IsLiteral digits ∧ hexValue digits = n

/-- The signs around the digits can be taken off again. -/
theorem enclose_injective {ds es : List Char} (h : enclose ds = enclose es) : ds = es :=
  List.append_cancel_left (List.append_cancel_right h)

/-- A text has its digits at one place, so what it denotes is asked of these. -/
theorem denotes_iff {text : String} {ds : List Char} (h : text.toList = enclose ds) {n : Nat} :
    Denotes text n ↔ IsLiteral ds ∧ hexValue ds = n := by
  constructor
  · rintro ⟨es, hes, hliteral, hn⟩
    rw [enclose_injective (h.symm.trans hes)]
    exact ⟨hliteral, hn⟩
  · rintro ⟨hliteral, hn⟩
    exact ⟨ds, h, hliteral, hn⟩

/-! ## Escapes as they are written -/

/-- A number that is not beyond the last character needs six digits at most. -/
theorem hexWidth_le_six {n : Nat} (h : n ≤ 0x10FFFF) : hexWidth n ≤ 6 := by
  unfold hexWidth
  split_ifs <;> omega

/-- The digits that are written for a code point. -/
def digitsOf (codePoint : UInt32) : List Char :=
  hexDigits (hexWidth codePoint.toNat) codePoint.toNat

section

variable (codePoint : UInt32)

/-- An escape as it is written has the form of an escape in a literal. -/
theorem toList_escape : (escape codePoint).toList = enclose (digitsOf codePoint) := by
  rw [escape, String.toList_ofList]
  rfl

theorem length_digitsOf : (digitsOf codePoint).length = hexWidth codePoint.toNat :=
  length_hexDigits _ _

theorem hexValue_digitsOf : hexValue (digitsOf codePoint) = codePoint.toNat :=
  hexValue_hexDigits (lt_pow_hexWidth (toNat_lt_pow codePoint))

theorem isDigit_of_mem_digitsOf {d : Char} (h : d ∈ digitsOf codePoint) :
    (digitValue? d).isSome := by
  obtain ⟨v, hv, rfl⟩ := (isCapitalDigit_of_mem_hexDigits h).exists_hexDigit
  rw [digitValue?_hexDigit hv]
  rfl

/-- The digits are those of a literal if only their value is that of a character. -/
theorem isLiteral_digitsOf_iff : IsLiteral (digitsOf codePoint) ↔ IsScalar codePoint.toNat := by
  have hwidth := length_digitsOf codePoint
  have hfour := four_le_hexWidth codePoint.toNat
  constructor
  · intro h
    rw [← hexValue_digitsOf]
    exact h.scalar
  · intro h
    have hsix := hexWidth_le_six h.le_last
    refine ⟨fun d hd => isDigit_of_mem_digitsOf codePoint hd, ?_, ?_, ?_⟩
    · omega
    · omega
    · rw [hexValue_digitsOf]
      exact h

/-- An escape denotes the code point that it was written for, or nothing. -/
theorem denotes_escape_iff {n : Nat} :
    Denotes (escape codePoint) n ↔ n = codePoint.toNat ∧ IsScalar codePoint.toNat := by
  rw [denotes_iff (toList_escape codePoint), isLiteral_digitsOf_iff, hexValue_digitsOf, and_comm,
    eq_comm]

end

/-- **A literal takes the escapes of characters, and no others.** The escape that is written for a
    character has four to six digits and stands for that character alone; the escape of a surrogate
    or of a number beyond the last character is refused. -/
theorem literal_takes_scalars (w : Writer) (text : String) (codePoint : UInt32) :
    w.append text codePoint = text ++ escape codePoint ∧
    (Denotes (escape codePoint) codePoint.toNat ↔ IsScalar codePoint.toNat) ∧
    (IsScalar codePoint.toNat ↔ ∃ c : Char, c.val = codePoint) ∧
    (∀ c : Char, c.val = codePoint →
      (∃ digits, (escape codePoint).toList = enclose digits ∧
        4 ≤ digits.length ∧ digits.length ≤ 6) ∧
      ∀ n, Denotes (escape codePoint) n ↔ n = c.toNat) ∧
    (¬ IsScalar codePoint.toNat → ∀ n, ¬ Denotes (escape codePoint) n) := by
  refine ⟨w.append_eq text codePoint, ?_, isScalar_toNat_iff, ?_, ?_⟩
  · rw [denotes_escape_iff]
    exact and_iff_right rfl
  · rintro c rfl
    have hscalar : IsScalar c.val.toNat := isScalar_toNat_iff.mpr ⟨c, rfl⟩
    refine ⟨⟨digitsOf c.val, toList_escape c.val, ?_, ?_⟩, ?_⟩
    · rw [length_digitsOf]
      exact four_le_hexWidth _
    · rw [length_digitsOf]
      exact hexWidth_le_six hscalar.le_last
    · intro n
      rw [denotes_escape_iff]
      exact and_iff_left hscalar
  · intro h n hn
    exact h ((denotes_escape_iff codePoint).mp hn).2

/-- The last character, a surrogate, and the first numbers that are refused for their value alone
    and for their length as well. -/
theorem literal_takes_scalars_bounds :
    (∀ n, Denotes (escape 0x10FFFF) n ↔ n = 0x10FFFF) ∧
      (∀ n, ¬ Denotes (escape 0xDFFF) n) ∧
      (∀ n, ¬ Denotes (escape 0x110000) n) ∧
      ∀ n, ¬ Denotes (escape 0x1000000) n := by
  obtain ⟨-, -, -, htaken, -⟩ := literal_takes_scalars .direct "" 0x10FFFF
  obtain ⟨-, -, -, -, hsurrogate⟩ := literal_takes_scalars .direct "" 0xDFFF
  obtain ⟨-, -, -, -, hsix⟩ := literal_takes_scalars .direct "" 0x110000
  obtain ⟨-, -, -, -, hseven⟩ := literal_takes_scalars .direct "" 0x1000000
  exact ⟨(htaken ⟨0x10FFFF, by decide⟩ rfl).2, hsurrogate (by decide), hsix (by decide),
    hseven (by decide)⟩

end GrammarTarget.Escape
