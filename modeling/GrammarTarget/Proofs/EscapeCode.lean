import Mathlib.Data.List.Basic
import Mathlib.Data.List.Induction
import Mathlib.Tactic.IntervalCases
import Mathlib.Tactic.Ring
import GrammarTarget.Target

/-!
# The escapes are a uniquely decodable code

Escapes of different code points have different lengths, so it is not obvious that a row of them
can be taken apart again. `decode` does so: it reads `\u`, a brace, hexadecimal digits up to the
closing brace, and goes on after it. It is not made for the escapes that are written here, but takes
small digits and any number of them as well.

The two directions meet in the digits of one escape. `hexValue` reads what `hexDigits` writes, up
to the width (`hexValue_hexDigits`), and `hexDigits` writes back any capital digits that were read
(`hexDigits_hexValue`). What singles out the written forms is their width: `hexWidth` is the number
of digits exactly for those that are `IsCanonical`, four to eight with no needless zero in front.
-/

namespace GrammarTarget.Escape

/-! ## Reading -/

/-- The value of a hexadecimal digit, capital or small. -/
def digitValue? (c : Char) : Option Nat :=
  if '0' ≤ c ∧ c ≤ '9' then some (c.toNat - '0'.toNat)
  else if 'A' ≤ c ∧ c ≤ 'F' then some (c.toNat - 'A'.toNat + 10)
  else if 'a' ≤ c ∧ c ≤ 'f' then some (c.toNat - 'a'.toNat + 10)
  else none

mutual

/-- The numbers of a row of escapes. -/
def decode : List Char → Option (List Nat)
  | []                       => some []
  | '\\' :: 'u' :: '{' :: cs => decodeNumber none cs
  | _                        => none

/-- The numbers of a row of escapes that begins within the digits of the first, of which those
    that are already read have the given value, if there are any. -/
def decodeNumber (value? : Option Nat) : List Char → Option (List Nat)
  | []      => none
  | c :: cs =>
    if c = '}' then
      value?.bind fun n => (decode cs).map (n :: ·)
    else
      (digitValue? c).bind fun d => decodeNumber (some (16 * value?.getD 0 + d)) cs

end

theorem decode_nil : decode [] = some [] := by
  rw [decode]

theorem decode_open (cs : List Char) :
    decode ('\\' :: 'u' :: '{' :: cs) = decodeNumber none cs := by
  rw [decode]

theorem decodeNumber_close (n : Nat) (cs : List Char) :
    decodeNumber (some n) ('}' :: cs) = (decode cs).map (n :: ·) := by
  rw [decodeNumber, if_pos rfl]
  rfl

/-- A digit is taken in behind those that were read. -/
theorem decodeNumber_digit (value? : Option Nat) {c : Char} {d : Nat} (cs : List Char)
    (h : digitValue? c = some d) :
    decodeNumber value? (c :: cs) = decodeNumber (some (16 * value?.getD 0 + d)) cs := by
  -- the brace that ends an escape is no digit
  have hc : c ≠ '}' := by
    rintro rfl
    exact nomatch h
  rw [decodeNumber, if_neg hc, h]
  rfl

/-! ## The number of a row of digits -/

/-- The number that hexadecimal digits stand for, read after those of the number `n`. -/
def hexValueAfter (n : Nat) (digits : List Char) : Nat :=
  digits.foldl (fun n c => 16 * n + (digitValue? c).getD 0) n

/-- The number that hexadecimal digits stand for. -/
def hexValue (digits : List Char) : Nat :=
  hexValueAfter 0 digits

theorem hexValueAfter_cons (n : Nat) (d : Char) (ds : List Char) :
    hexValueAfter n (d :: ds) = hexValueAfter (16 * n + (digitValue? d).getD 0) ds := rfl

/-- What was read before stands in front of the number of the digits. -/
theorem hexValueAfter_eq (n : Nat) (ds : List Char) :
    hexValueAfter n ds = n * 16 ^ ds.length + hexValue ds := by
  induction ds generalizing n with
  | nil => simp [hexValue, hexValueAfter]
  | cons d ds ih =>
      rw [hexValue, hexValueAfter_cons, hexValueAfter_cons, ih, ih (16 * 0 + _),
        List.length_cons, Nat.pow_succ]
      ring

/-- The first digit counts by the place that it has. -/
theorem hexValue_cons (d : Char) (ds : List Char) :
    hexValue (d :: ds) = (digitValue? d).getD 0 * 16 ^ ds.length + hexValue ds := by
  rw [hexValue, hexValueAfter_cons, hexValueAfter_eq, Nat.mul_zero, Nat.zero_add]

/-- The last digit counts once, and moves all others by one place. -/
theorem hexValue_concat (ds : List Char) (d : Char) :
    hexValue (ds ++ [d]) = 16 * hexValue ds + (digitValue? d).getD 0 := by
  rw [hexValue, hexValueAfter, List.foldl_append]
  rfl

/-- A row of digits is read up to its brace, and the rest by itself. -/
theorem decodeNumber_digits {ds : List Char} (h : ∀ d ∈ ds, (digitValue? d).isSome)
    (n : Nat) (cs : List Char) :
    decodeNumber (some n) (ds ++ '}' :: cs) = (decode cs).map (hexValueAfter n ds :: ·) := by
  induction ds generalizing n with
  | nil => exact decodeNumber_close n cs
  | cons d ds ih =>
      obtain ⟨v, hv⟩ := Option.isSome_iff_exists.mp (h d List.mem_cons_self)
      have hds : ∀ e ∈ ds, (digitValue? e).isSome :=
        fun e he => h e (List.mem_cons_of_mem d he)
      rw [List.cons_append, decodeNumber_digit _ _ hv, ih hds, hexValueAfter_cons, hv]
      rfl

/-! ## Capital digits -/

/-- The digits that an escape is written with: no small letters. -/
def IsCapitalDigit (c : Char) : Prop :=
  ('0' ≤ c ∧ c ≤ '9') ∨ ('A' ≤ c ∧ c ≤ 'F')

/-- A digit that is written is read as its value. -/
theorem digitValue?_hexDigit {d : Nat} (h : d < 16) : digitValue? (hexDigit d) = some d := by
  interval_cases d <;> rfl

theorem isCapitalDigit_hexDigit {d : Nat} (h : d < 16) : IsCapitalDigit (hexDigit d) := by
  rw [IsCapitalDigit]
  interval_cases d <;> decide

/-- The capital digits are those that escapes are written with. -/
theorem IsCapitalDigit.exists_hexDigit {c : Char} (h : IsCapitalDigit c) :
    ∃ d, d < 16 ∧ c = hexDigit d := by
  -- a digit is as far from its value as `0` from zero, a letter as `A` from ten
  have hc : c = Char.ofNat c.toNat := (Char.ofNat_toNat c).symm
  rcases h with ⟨hlo, hhi⟩ | ⟨hlo, hhi⟩
  · have h1 : 48 ≤ c.toNat := hlo
    have h2 : c.toNat ≤ 57 := hhi
    refine ⟨c.toNat - 48, by omega, ?_⟩
    generalize c.toNat = k at hc h1 h2
    interval_cases k <;> exact hc
  · have h1 : 65 ≤ c.toNat := hlo
    have h2 : c.toNat ≤ 70 := hhi
    refine ⟨c.toNat - 55, by omega, ?_⟩
    generalize c.toNat = k at hc h1 h2
    interval_cases k <;> exact hc

theorem isCapitalDigit_of_mem_hexDigits {width n : Nat} {c : Char} (h : c ∈ hexDigits width n) :
    IsCapitalDigit c := by
  induction width generalizing n with
  | zero => exact nomatch h
  | succ width ih =>
      rcases List.mem_append.mp h with hmem | hmem
      · exact ih hmem
      · rw [List.mem_singleton.mp hmem]
        exact isCapitalDigit_hexDigit (Nat.mod_lt n (by decide))

/-- Digits stand for a number below the power of sixteen that has one digit more. -/
theorem hexValue_lt {ds : List Char} (h : ∀ d ∈ ds, IsCapitalDigit d) :
    hexValue ds < 16 ^ ds.length := by
  induction ds with
  | nil => exact Nat.one_pos
  | cons d ds ih =>
      obtain ⟨v, hv, rfl⟩ := (h d List.mem_cons_self).exists_hexDigit
      have hds := ih fun e he => h e (List.mem_cons_of_mem _ he)
      -- the first digit leaves room for one more of its place, which the others do not fill
      have hle : v * 16 ^ ds.length ≤ 15 * 16 ^ ds.length :=
        Nat.mul_le_mul_right _ (Nat.le_of_lt_succ hv)
      rw [hexValue_cons, digitValue?_hexDigit hv, List.length_cons, Nat.pow_succ]
      show v * 16 ^ ds.length + hexValue ds < 16 ^ ds.length * 16
      omega

/-! ## Writing and reading -/

/-- Reading digits gives the number that was written, if it fits the width. -/
theorem hexValue_hexDigits {width n : Nat} (h : n < 16 ^ width) :
    hexValue (hexDigits width n) = n := by
  induction width generalizing n with
  | zero =>
      have hn : n = 0 := Nat.lt_one_iff.mp h
      rw [hn]
      rfl
  | succ width ih =>
      have hq : n / 16 < 16 ^ width := by
        rw [Nat.pow_succ] at h
        omega
      rw [hexDigits, hexValue_concat, ih hq, digitValue?_hexDigit (Nat.mod_lt n (by decide))]
      show 16 * (n / 16) + n % 16 = n
      omega

/-- Writing gives back capital digits that were read, zeros in front included. -/
theorem hexDigits_hexValue {ds : List Char} (h : ∀ d ∈ ds, IsCapitalDigit d) :
    hexDigits ds.length (hexValue ds) = ds := by
  -- the last digit is the one that writing splits off, so the induction is from the end
  induction ds using List.reverseRecOn with
  | nil => rfl
  | append_singleton ds d ih =>
      obtain ⟨v, hv, rfl⟩ := (h d (by simp)).exists_hexDigit
      have hds := ih fun e he => h e (List.mem_append_left _ he)
      have hdiv : (16 * hexValue ds + v) / 16 = hexValue ds := by omega
      have hmod : (16 * hexValue ds + v) % 16 = v := by omega
      rw [hexValue_concat, digitValue?_hexDigit hv, List.length_append]
      show hexDigits ds.length ((16 * hexValue ds + v) / 16)
        ++ [hexDigit ((16 * hexValue ds + v) % 16)] = _
      rw [hdiv, hmod, hds]

/-- The first digit is what is left of the number without the places of all others. -/
theorem head?_hexDigits (width n : Nat) :
    (hexDigits (width + 1) n).head? = some (hexDigit (n / 16 ^ width % 16)) := by
  induction width generalizing n with
  | zero => simp [hexDigits]
  | succ width ih =>
      rw [hexDigits, List.head?_append, ih, Nat.div_div_eq_div_mul, Nat.pow_succ, Nat.mul_comm 16]
      rfl

/-! ## The width -/

/-- A width is that of a number if the number fits it and, beyond four digits, fits no less. -/
theorem hexWidth_eq {n width : Nat} (hmin : 4 ≤ width) (hmax : width ≤ 8) (hlt : n < 16 ^ width)
    (hge : 4 < width → 16 ^ (width - 1) ≤ n) : hexWidth n = width := by
  unfold hexWidth
  interval_cases width <;> split_ifs <;> omega

theorem four_le_hexWidth (n : Nat) : 4 ≤ hexWidth n := by
  unfold hexWidth
  split_ifs <;> omega

theorem hexWidth_le_eight (n : Nat) : hexWidth n ≤ 8 := by
  unfold hexWidth
  split_ifs <;> omega

/-- The digits of an escape are enough for its number. -/
theorem lt_pow_hexWidth {n : Nat} (h : n < 16 ^ 8) : n < 16 ^ hexWidth n := by
  unfold hexWidth
  split_ifs <;> omega

/-- Beyond four digits, one digit less would not be enough. -/
theorem pow_le_of_four_lt_hexWidth {n : Nat} (h : 4 < hexWidth n) : 16 ^ (hexWidth n - 1) ≤ n := by
  unfold hexWidth at h ⊢
  split_ifs at h ⊢ <;> omega

/-- The digits of an escape: four to eight capital ones, with no zero in front that four digits do
    not need. -/
structure IsCanonical (digits : List Char) : Prop where
  capital : ∀ d ∈ digits, IsCapitalDigit d
  four_le_length : 4 ≤ digits.length
  length_le_eight : digits.length ≤ 8
  head_ne_zero : 4 < digits.length → digits.head? ≠ some '0'

/-- The digits that are written for a number of 32 bits are canonical. -/
theorem isCanonical_hexDigits {n : Nat} (h : n < 16 ^ 8) :
    IsCanonical (hexDigits (hexWidth n) n) := by
  refine ⟨fun d hd => isCapitalDigit_of_mem_hexDigits hd, ?_, ?_, ?_⟩
  · rw [length_hexDigits]
    exact four_le_hexWidth n
  · rw [length_hexDigits]
    exact hexWidth_le_eight n
  · intro hlen
    rw [length_hexDigits] at hlen
    have hge := pow_le_of_four_lt_hexWidth hlen
    have hlt := lt_pow_hexWidth h
    obtain ⟨width, hwidth⟩ : ∃ width, hexWidth n = width + 1 := ⟨hexWidth n - 1, by omega⟩
    rw [hwidth] at hge hlt ⊢
    rw [Nat.add_sub_cancel] at hge
    rw [head?_hexDigits]
    -- the first digit is the quotient, which lies between one and fifteen
    have hpos : 0 < n / 16 ^ width := Nat.div_pos hge (by positivity)
    have hsmall : n / 16 ^ width < 16 := Nat.div_lt_of_lt_mul hlt
    rw [Nat.mod_eq_of_lt hsmall]
    generalize n / 16 ^ width = d at hpos hsmall
    interval_cases d <;> decide

/-- Canonical digits are those that are written for their number. -/
theorem IsCanonical.hexWidth_hexValue {ds : List Char} (h : IsCanonical ds) :
    hexWidth (hexValue ds) = ds.length := by
  refine hexWidth_eq h.four_le_length h.length_le_eight (hexValue_lt h.capital) ?_
  intro hlen
  cases ds with
  | nil => exact absurd hlen (by decide)
  | cons d ds =>
      -- a first digit that is not zero makes the number too large for one digit less
      obtain ⟨v, hv, hd⟩ := (h.capital d List.mem_cons_self).exists_hexDigit
      have hv0 : v ≠ 0 := by
        rintro rfl
        exact h.head_ne_zero hlen (congrArg some hd)
      rw [hexValue_cons, hd, digitValue?_hexDigit hv]
      show 16 ^ ds.length ≤ v * 16 ^ ds.length + hexValue ds
      have hle : 1 * 16 ^ ds.length ≤ v * 16 ^ ds.length :=
        Nat.mul_le_mul_right _ (Nat.pos_of_ne_zero hv0)
      omega

/-- Canonical digits stand for a number of 32 bits. -/
theorem IsCanonical.hexValue_lt {ds : List Char} (h : IsCanonical ds) : hexValue ds < 16 ^ 8 :=
  Nat.lt_of_lt_of_le (Escape.hexValue_lt h.capital)
    (Nat.pow_le_pow_right (by decide) h.length_le_eight)

/-! ## Rows of escapes -/

/-- Digits between the signs that make them an escape. -/
def enclose (digits : List Char) : List Char :=
  ['\\', 'u', '{'] ++ digits ++ ['}']

/-- The escapes of code points in a row. -/
def escapeAll (codePoints : List UInt32) : String :=
  String.ofList (codePoints.flatMap escapeChars)

theorem escapeAll_cons (codePoint : UInt32) (codePoints : List UInt32) :
    escapeAll (codePoint :: codePoints) = escape codePoint ++ escapeAll codePoints := by
  rw [escapeAll, List.flatMap_cons, String.ofList_append]
  rfl

/-- Who writes an escape: a target, by its method, or the function that writes escapes for all. -/
inductive Writer where
  | target (t : Target)
  | direct

/-- The text after a writer has written an escape behind it. -/
def Writer.append : Writer → String → UInt32 → String
  | target t, text, codePoint => t.appendEscape text codePoint
  | direct,   text, codePoint => Escape.append text codePoint

/-- The text after writers have written escapes behind it in turn. -/
def appendAll (text : String) (steps : List (Writer × UInt32)) : String :=
  steps.foldl (fun text step => step.1.append text step.2) text

/-- A text that is a row of digits in their signs, all of them canonical. -/
def IsRow (text : String) : Prop :=
  ∃ row : List (List Char), (∀ digits ∈ row, IsCanonical digits) ∧
    text.toList = row.flatMap enclose

/-- It does not matter who writes. -/
theorem Writer.append_eq (w : Writer) (text : String) (codePoint : UInt32) :
    w.append text codePoint = text ++ escape codePoint := by
  cases w <;> rfl

/-- Writing leaves the text before it and adds the escapes in a row. -/
theorem appendAll_eq (text : String) (steps : List (Writer × UInt32)) :
    appendAll text steps = text ++ escapeAll (steps.map Prod.snd) := by
  induction steps generalizing text with
  | nil => exact String.append_empty.symm
  | cons step steps ih =>
      show appendAll (step.1.append text step.2) steps = _
      rw [ih, Writer.append_eq, String.append_assoc, ← escapeAll_cons, List.map_cons]

/-- Digits in their signs are read as their number, whatever comes after them. -/
theorem decode_enclose {ds : List Char} (h : ∀ d ∈ ds, IsCapitalDigit d) (hne : ds ≠ [])
    (cs : List Char) : decode (enclose ds ++ cs) = (decode cs).map (hexValue ds :: ·) := by
  have hval : ∀ d ∈ ds, (digitValue? d).isSome := by
    intro d hd
    obtain ⟨v, hv, rfl⟩ := (h d hd).exists_hexDigit
    rw [digitValue?_hexDigit hv]
    rfl
  cases ds with
  | nil => exact absurd rfl hne
  | cons d ds =>
      -- the first digit opens the number, which a brace could not end before
      obtain ⟨v, hv⟩ := Option.isSome_iff_exists.mp (hval d List.mem_cons_self)
      have htail : ∀ e ∈ ds, (digitValue? e).isSome :=
        fun e he => hval e (List.mem_cons_of_mem d he)
      rw [show enclose (d :: ds) ++ cs = '\\' :: 'u' :: '{' :: d :: (ds ++ '}' :: cs) by
        simp [enclose]]
      rw [decode_open, decodeNumber_digit none _ hv, decodeNumber_digits htail, hexValue,
        hexValueAfter_cons, hv]
      rfl

theorem IsCanonical.decode_enclose {ds : List Char} (h : IsCanonical ds) (cs : List Char) :
    decode (enclose ds ++ cs) = (decode cs).map (hexValue ds :: ·) := by
  refine Escape.decode_enclose h.capital ?_ cs
  rintro rfl
  exact absurd h.four_le_length (by decide)

theorem toNat_lt_pow (codePoint : UInt32) : codePoint.toNat < 16 ^ 8 :=
  codePoint.toNat_lt

/-- Canonical digits are the escape of a code point, that of their number. -/
theorem IsCanonical.enclose_eq {ds : List Char} (h : IsCanonical ds) :
    enclose ds = escapeChars (UInt32.ofNat (hexValue ds)) := by
  have hn : (UInt32.ofNat (hexValue ds)).toNat = hexValue ds :=
    UInt32.toNat_ofNat_of_lt' h.hexValue_lt
  rw [escapeChars, hn, h.hexWidth_hexValue, hexDigits_hexValue h.capital]
  rfl

/-- A row of escapes is read as the code points that it was written for. -/
theorem decode_escapeAll (codePoints : List UInt32) :
    decode (escapeAll codePoints).toList = some (codePoints.map UInt32.toNat) := by
  rw [escapeAll, String.toList_ofList]
  induction codePoints with
  | nil => exact decode_nil
  | cons c cs ih =>
      have hc := isCanonical_hexDigits (toNat_lt_pow c)
      have hread := hc.decode_enclose (cs.flatMap escapeChars)
      rw [hexValue_hexDigits (lt_pow_hexWidth (toNat_lt_pow c)), ih] at hread
      exact hread

/-- What is written is a row of canonical digits. -/
theorem isRow_escapeAll (codePoints : List UInt32) : IsRow (escapeAll codePoints) := by
  refine ⟨codePoints.map fun c => hexDigits (hexWidth c.toNat) c.toNat, ?_, ?_⟩
  · intro digits hdigits
    obtain ⟨c, -, rfl⟩ := List.mem_map.mp hdigits
    exact isCanonical_hexDigits (toNat_lt_pow c)
  · rw [escapeAll, String.toList_ofList, List.flatMap_map]
    rfl

/-- A row of canonical digits could have been written, for the numbers that they stand for. -/
theorem IsRow.exists_escapeAll {text : String} (h : IsRow text) :
    ∃ codePoints, text = escapeAll codePoints := by
  obtain ⟨row, hrow, htext⟩ := h
  refine ⟨row.map fun digits => UInt32.ofNat (hexValue digits), ?_⟩
  have hchars : row.flatMap enclose
      = (row.map fun digits => UInt32.ofNat (hexValue digits)).flatMap escapeChars := by
    rw [List.flatMap_map]
    exact List.flatMap_congr fun digits hdigits => (hrow digits hdigits).enclose_eq
  rw [escapeAll, ← hchars, ← htext, String.ofList_toList]

/-- **Escapes are uniquely decodable.** Whoever writes them, the text before them is kept and the
    code points are read back in their order. The texts that are written so are the rows of
    canonical digits, and writing what was read of such a text gives it again. -/
theorem escapes_uniquely_decodable :
    (∀ (text : String) (steps : List (Writer × UInt32)),
      appendAll text steps = text ++ escapeAll (steps.map Prod.snd)) ∧
    (∀ codePoints : List UInt32,
      decode (escapeAll codePoints).toList = some (codePoints.map UInt32.toNat)) ∧
    (∀ text : String, (∃ codePoints, text = escapeAll codePoints) ↔ IsRow text) ∧
    (∀ text : String, IsRow text ↔
      ∃ codePoints : List UInt32, decode text.toList = some (codePoints.map UInt32.toNat) ∧
        escapeAll codePoints = text) := by
  refine ⟨appendAll_eq, decode_escapeAll, fun text => ⟨?_, IsRow.exists_escapeAll⟩,
    fun text => ⟨?_, ?_⟩⟩
  · rintro ⟨codePoints, rfl⟩
    exact isRow_escapeAll codePoints
  · intro h
    obtain ⟨codePoints, rfl⟩ := h.exists_escapeAll
    exact ⟨codePoints, decode_escapeAll codePoints, rfl⟩
  · rintro ⟨codePoints, -, rfl⟩
    exact isRow_escapeAll codePoints

end GrammarTarget.Escape
