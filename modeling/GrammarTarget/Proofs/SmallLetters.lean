import GrammarTarget.Unicode.Lowercase

/-!
# Small letters — text that is its own lower case

A character is small if it is its own lower case. Putting a text in lower case leaves small
characters only: the runs of the mapping lead to no capital of any run (`lowercaseRuns_miss`), and
the two characters that are no part of a run become small letters as well. A text of small
characters is left as it is, so lower case is a canonical form (`lowercase_lowercase`).

No character is lost on the way, and how many come of one does not depend on its neighbours
(`length_lowercase_append`). A text therefore never has the lower case of a longer one that begins
with it (`lowercase_append_ne`), whatever becomes of the sigma where the two part.
-/

namespace GrammarTarget.Unicode

/-! ## Runs -/

namespace CaseRun

/-- The small letter of `last`. -/
def lastImage (r : CaseRun) : Nat :=
  r.image + (r.last - r.first)

/-- All small letters of the run are characters. -/
def HasCharacters (r : CaseRun) : Prop :=
  r.lastImage < 0xD800 ∨ (0xDFFF < r.image ∧ r.lastImage < 0x110000)

/-- Bounds of numbers can be compared, so the whole table can be checked. -/
instance (r : CaseRun) : Decidable r.HasCharacters :=
  inferInstanceAs (Decidable (_ ∨ _))

/-- The small letters of `r` stand before the capitals of `q`, behind them, or between them. -/
def misses (r q : CaseRun) : Bool :=
  r.lastImage.blt q.first || q.last.blt r.image ||
    (((r.step % q.step).beq 0 || r.first.beq r.last) && !(r.image % q.step).beq (q.first % q.step))

variable {r q : CaseRun} {n : Nat}

theorem contains_iff :
    r.contains n = true ↔ (r.first ≤ n ∧ n ≤ r.last) ∧ r.step ∣ n - r.first := by
  simp [contains, Nat.dvd_iff_mod_eq_zero]

theorem lower_le_lastImage (h : r.contains n) : r.lower n ≤ r.lastImage := by
  obtain ⟨⟨-, hlast⟩, -⟩ := contains_iff.mp h
  exact Nat.add_le_add_left (Nat.sub_le_sub_right hlast r.first) r.image

/-- Nothing that a run gives falls into the gap of the surrogates. -/
theorem isValidChar_lower (hr : r.HasCharacters) (h : r.contains n) : (r.lower n).isValidChar := by
  have hle : r.lower n ≤ r.lastImage := lower_le_lastImage h
  have hge : r.image ≤ r.lower n := Nat.le_add_right ..
  rcases hr with hlow | ⟨hfirst, hlast⟩
  · exact Or.inl (by omega)
  · exact Or.inr (by omega)

/-- The two cases of missing, as they are used: apart from each other, or in step and never
    meeting. -/
theorem misses_iff :
    r.misses q = true ↔
      (r.lastImage < q.first ∨ q.last < r.image) ∨
        (q.step ∣ r.step ∨ r.first = r.last) ∧ r.image % q.step ≠ q.first % q.step := by
  simp only [misses, Bool.or_eq_true, Bool.and_eq_true, Nat.blt_eq, Nat.beq_eq, Bool.not_eq_true',
    ← Bool.not_eq_true, ne_eq, Nat.dvd_iff_mod_eq_zero]

/-- A run that misses another one does not lead into it. -/
theorem contains_lower_of_misses (h : r.misses q) (hn : r.contains n) :
    q.contains (r.lower n) = false := by
  rw [Bool.eq_false_iff]
  intro hq
  obtain ⟨⟨hfirst, hlast⟩, hstep⟩ := contains_iff.mp hn
  obtain ⟨⟨hqfirst, hqlast⟩, hqstep⟩ := contains_iff.mp hq
  rcases misses_iff.mp h with (hbefore | hbehind) | ⟨hsteps, hbetween⟩
  · have hle := lower_le_lastImage hn
    omega
  · have hge : r.image ≤ r.lower n := Nat.le_add_right ..
    omega
  -- the steps of `q` lead from its first capital to the small letter, and back to `r.image`
  · have hback : q.step ∣ n - r.first := by
      rcases hsteps with hdvd | hpoint
      · exact Nat.dvd_trans hdvd hstep
      · rw [Nat.sub_eq_zero_of_le (by omega)]
        exact Nat.dvd_zero _
    obtain ⟨i, hi⟩ := hback
    obtain ⟨j, hj⟩ := hqstep
    have hmeet : r.image + q.step * i = q.first + q.step * j := by
      rw [← hi, ← hj]
      exact (Nat.add_sub_cancel' hqfirst).symm
    have hmod := congrArg (· % q.step) hmeet
    simp only [Nat.add_mul_mod_self_left] at hmod
    exact hbetween hmod

end CaseRun

/-- All capitals, as runs: to those of the mapping come the two that have no single small letter. -/
def capitalRuns : List CaseRun :=
  ⟨0x0130, 0x0130, 1, 0x0069⟩ :: ⟨0x03A3, 0x03A3, 1, 0x03C3⟩ :: lowercaseRuns

/-- Every run of the table gives characters. -/
theorem hasCharacters_of_mem : ∀ r ∈ lowercaseRuns, r.HasCharacters := by
  decide +kernel

/-- No run leads to a capital. -/
theorem lowercaseRuns_miss : (lowercaseRuns.all fun r => capitalRuns.all r.misses) = true := by
  decide +kernel

/-! ## Characters -/

/-- A character that is its own lower case, be it a small letter, a character without case or one
    of the capitals that have no small letter. -/
structure IsSmall (c : Char) : Prop where
  ne_capitalSigma : c ≠ capitalSigma
  lowerChar_eq    : lowerChar c = [c]

/-- Whether a character is small is found out by mapping it. -/
instance (c : Char) : Decidable (IsSmall c) :=
  decidable_of_iff (c ≠ capitalSigma ∧ lowerChar c = [c]) ⟨fun h => ⟨h.1, h.2⟩, fun h => ⟨h.1, h.2⟩⟩

/-- A character is the capital of a run, or the mapping leaves it as it is. -/
theorem simpleLower_cases (c : Char) :
    (∃ r ∈ lowercaseRuns, r.contains c.toNat = true ∧
        simpleLower c = Char.ofNat (r.lower c.toNat)) ∨
      ((∀ r ∈ lowercaseRuns, r.contains c.toNat = false) ∧ simpleLower c = c) := by
  rw [simpleLower]
  cases hfind : lowercaseRuns.find? (·.contains c.toNat) with
  | some r =>
      have hc : r.contains c.toNat = true :=
        List.find?_some (p := fun r : CaseRun => r.contains c.toNat) hfind
      exact Or.inl ⟨r, List.mem_of_find?_eq_some hfind, hc, rfl⟩
  | none =>
      refine Or.inr ⟨?_, rfl⟩
      intro r hr
      exact Bool.eq_false_iff.mpr (List.find?_eq_none.mp hfind r hr)

/-- What is the capital of no run is small. -/
theorem isSmall_of_not_capital {c : Char} (h : ∀ q ∈ capitalRuns, q.contains c.toNat = false) :
    IsSmall c := by
  obtain ⟨hdotted, hsigma, hruns⟩ :
      c ≠ dottedCapitalI ∧ c ≠ capitalSigma ∧ ∀ r ∈ lowercaseRuns, r.contains c.toNat = false := by
    refine ⟨?_, ?_, ?_⟩
    · rintro rfl
      exact absurd (h _ List.mem_cons_self) (by decide)
    · rintro rfl
      exact absurd (h _ (List.mem_cons_of_mem _ List.mem_cons_self)) (by decide)
    · intro r hr
      exact h r (List.mem_cons_of_mem _ (List.mem_cons_of_mem _ hr))
  refine ⟨hsigma, ?_⟩
  rcases simpleLower_cases c with ⟨r, hr, hc, -⟩ | ⟨-, hself⟩
  · rw [hruns r hr] at hc
    cases hc
  · rw [lowerChar, if_neg hdotted, hself]

/-- The simple mapping gives small letters, since no run leads to a capital. -/
theorem isSmall_simpleLower {c : Char} (hdotted : c ≠ dottedCapitalI) (hsigma : c ≠ capitalSigma) :
    IsSmall (simpleLower c) := by
  rcases simpleLower_cases c with ⟨r, hr, hc, heq⟩ | ⟨hruns, hself⟩
  · have hnat : (simpleLower c).toNat = r.lower c.toNat := by
      rw [heq, Char.ofNat, dif_pos (CaseRun.isValidChar_lower (hasCharacters_of_mem r hr) hc)]
      rfl
    -- the run of the capital misses all others, so what it gives is the capital of none
    have hmisses := List.all_eq_true.mp lowercaseRuns_miss r hr
    apply isSmall_of_not_capital
    intro q hq
    rw [hnat]
    exact CaseRun.contains_lower_of_misses (List.all_eq_true.mp hmisses q hq) hc
  · refine ⟨by rwa [hself], ?_⟩
    rw [hself, lowerChar, if_neg hdotted, hself]

/-- Also the two characters that come of the dotted capital are small. -/
theorem isSmall_of_mem_lowerChar {c d : Char} (hc : c ≠ capitalSigma) (h : d ∈ lowerChar c) :
    IsSmall d := by
  rw [lowerChar] at h
  split at h
  · rw [List.mem_cons, List.mem_singleton] at h
    rcases h with rfl | rfl <;> decide +kernel
  · rename_i hdotted
    rw [List.mem_singleton.mp h]
    exact isSmall_simpleLower hdotted hc

/-- Both forms that a sigma can take are small. -/
theorem isSmall_lowerSigma (before after : List Char) : IsSmall (lowerSigma before after) := by
  rw [lowerSigma]
  split <;> decide +kernel

/-! ## Texts -/

/-- Only small characters are left of a text in lower case. -/
theorem isSmall_of_mem_lowerAfter {before cs : List Char} {d : Char}
    (h : d ∈ lowerAfter before cs) : IsSmall d := by
  induction cs generalizing before with
  | nil => cases h
  | cons c cs ih =>
      rw [lowerAfter_cons, List.mem_append] at h
      rcases h with hhead | htail
      · split at hhead
        · rw [List.mem_singleton.mp hhead]
          exact isSmall_lowerSigma before cs
        · rename_i hsigma
          exact isSmall_of_mem_lowerChar hsigma hhead
      · exact ih htail

/-- Small characters stay, whatever is around them. -/
theorem lowerAfter_of_isSmall {cs : List Char} (before : List Char) (h : ∀ c ∈ cs, IsSmall c) :
    lowerAfter before cs = cs := by
  induction cs generalizing before with
  | nil => rfl
  | cons c cs ih =>
      have hc : IsSmall c := h c List.mem_cons_self
      have hcs : ∀ d ∈ cs, IsSmall d := fun d hd => h d (List.mem_cons_of_mem c hd)
      rw [lowerAfter_cons, if_neg hc.ne_capitalSigma, hc.lowerChar_eq, ih _ hcs,
        List.singleton_append]

/-- The texts in lower case are those of small characters, whatever the context. -/
theorem lowercase_eq_self_iff {text : String} :
    lowercase text = text ↔ ∀ c ∈ text.toList, IsSmall c := by
  constructor
  · intro h c hc
    rw [← h, toList_lowercase] at hc
    exact isSmall_of_mem_lowerAfter hc
  · intro h
    rw [lowercase, lowerAfter_of_isSmall [] h, String.ofList_toList]

/-- **Text in lower case is its own lower case.** -/
theorem lowercase_lowercase (text : String) : lowercase (lowercase text) = lowercase text := by
  rw [lowercase_eq_self_iff]
  intro c hc
  rw [toList_lowercase] at hc
  exact isSmall_of_mem_lowerAfter hc

/-! ## Lengths -/

theorem length_lowerChar_pos (c : Char) : 1 ≤ (lowerChar c).length := by
  rw [lowerChar]
  split
  · exact Nat.le_succ 1
  · exact Nat.le_refl 1

/-- Either small sigma is one character, so the neighbours of a capital one do not matter. -/
theorem length_lowerAfter (before cs : List Char) :
    (lowerAfter before cs).length = (cs.flatMap lowerChar).length := by
  induction cs generalizing before with
  | nil => rfl
  | cons c cs ih =>
      rw [lowerAfter_cons, List.length_append, ih, List.flatMap_cons, List.length_append]
      split
      · rename_i hsigma
        rw [hsigma]
        rfl
      · rfl

/-- The length in lower case is a sum over the characters. -/
theorem length_lowercase (text : String) :
    (lowercase text).length = (text.toList.flatMap lowerChar).length := by
  rw [← String.length_toList, toList_lowercase, length_lowerAfter]

/-- It does not matter for the length where a text is cut, although it may matter for a sigma. -/
theorem length_lowercase_append (a b : String) :
    (lowercase (a ++ b)).length = (lowercase a).length + (lowercase b).length := by
  rw [length_lowercase, length_lowercase, length_lowercase, String.toList_append,
    List.flatMap_append, List.length_append]

/-- A text does not get shorter. -/
theorem length_le_length_lowercase (text : String) : text.length ≤ (lowercase text).length := by
  rw [length_lowercase, ← String.length_toList]
  induction text.toList with
  | nil => exact Nat.le_refl 0
  | cons c cs ih =>
      rw [List.length_cons, List.flatMap_cons, List.length_append, Nat.add_comm]
      exact Nat.add_le_add (length_lowerChar_pos c) ih

/-- Only the empty text has nothing left in lower case. -/
theorem lowercase_eq_empty_iff {text : String} : lowercase text = "" ↔ text = "" := by
  constructor
  · intro h
    have hle := length_le_length_lowercase text
    rw [h] at hle
    exact String.length_eq_zero_iff.mp (Nat.le_zero.mp hle)
  · rintro rfl
    rfl

/-- A text has another lower case than a longer one that begins with it. -/
theorem lowercase_append_ne {b : String} (h : b ≠ "") (a : String) :
    lowercase (a ++ b) ≠ lowercase a := by
  intro heq
  have hlength := length_lowercase_append a b
  rw [heq, Nat.left_eq_add, String.length_eq_zero_iff, lowercase_eq_empty_iff] at hlength
  exact h hlength

end GrammarTarget.Unicode
