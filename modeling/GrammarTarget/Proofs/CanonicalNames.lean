import GrammarTarget.Proofs.CompoundNames
import GrammarTarget.Proofs.SmallLetters

/-!
# Names of files as a canonical form

A file is named in lower case throughout, so a name that is put in lower case beforehand names the
same file, except that it has lost the ending which is left out: `Parser` and `Lexer` are told from
other text by their case. The name of a file then has the ending as well, and it is not the same,
since lower case keeps every character (`lowercase_stem_eq_iff`).
-/

namespace GrammarTarget

open Unicode (lowercase IsSmall)

/-! ## Stems in lower case -/

namespace Artifact

variable {x : Artifact} {k : Kind} {ending : String}

/-- What may be left out, in one line: the recognizer leaves out the ending that its kind has. -/
theorem mem_leftOut?_iff :
    ending ∈ x.leftOut? k ↔
      x = recognizer ∧ ((k = .parser ∧ ending = "Parser") ∨ (k = .lexer ∧ ending = "Lexer")) := by
  cases x <;> cases k <;> simp [leftOut?, eq_comm]

/-- To ask about the ending that may be left out is to ask about the two kinds that have one. -/
theorem exists_leftOut_iff {p : String → Prop} :
    (∃ ending ∈ x.leftOut? k, p ending) ↔
      x = recognizer ∧ ((k = .parser ∧ p "Parser") ∨ (k = .lexer ∧ p "Lexer")) := by
  constructor
  · rintro ⟨ending, hmem, hp⟩
    obtain ⟨hx, ⟨hk, rfl⟩ | ⟨hk, rfl⟩⟩ := mem_leftOut?_iff.mp hmem
    · exact ⟨hx, Or.inl ⟨hk, hp⟩⟩
    · exact ⟨hx, Or.inr ⟨hk, hp⟩⟩
  · rintro ⟨hx, ⟨hk, hp⟩ | ⟨hk, hp⟩⟩
    · exact ⟨"Parser", mem_leftOut?_iff.mpr ⟨hx, Or.inl ⟨hk, rfl⟩⟩, hp⟩
    · exact ⟨"Lexer", mem_leftOut?_iff.mpr ⟨hx, Or.inr ⟨hk, rfl⟩⟩, hp⟩

theorem ne_empty_of_leftOut (h : ending ∈ x.leftOut? k) : ending ≠ "" := by
  obtain ⟨-, ⟨-, rfl⟩ | ⟨-, rfl⟩⟩ := mem_leftOut?_iff.mp h
  · decide
  · decide

/-- What is left out begins with a capital. -/
theorem exists_not_isSmall_of_leftOut (h : ending ∈ x.leftOut? k) :
    ∃ c ∈ ending.toList, ¬ IsSmall c := by
  obtain ⟨-, ⟨-, rfl⟩ | ⟨-, rfl⟩⟩ := mem_leftOut?_iff.mp h
  · exact ⟨'P', by decide, by decide +kernel⟩
  · exact ⟨'L', by decide, by decide +kernel⟩

/-- A name is its stem and what is left out, or it is its own stem and has no such ending. -/
theorem stem_cases (x : Artifact) (k : Kind) (name : String) :
    (∃ ending ∈ x.leftOut? k, name = x.stem k name ++ ending) ∨
      (x.stem k name = name ∧ ∀ ending ∈ x.leftOut? k, ¬ ending.toList <:+ name.toList) := by
  have hstem : IsStem (x.leftOut? k) name (x.stem k name) := isStem_iff.mpr rfl
  cases hout : x.leftOut? k with
  | none =>
      rw [hout] at hstem
      refine Or.inr ⟨hstem, ?_⟩
      intro ending hmem
      cases hmem
  | some ending =>
      rw [hout] at hstem
      rcases hstem with hname | ⟨hself, hends⟩
      · exact Or.inl ⟨ending, rfl, hname⟩
      · refine Or.inr ⟨hself, ?_⟩
        intro other hmem
        cases hmem
        exact hends

/-- A stem has the lower case of the whole name only if nothing is left out. -/
theorem lowercase_stem_eq_iff {name : String} :
    lowercase (x.stem k name) = lowercase name ↔
      ∀ ending ∈ x.leftOut? k, ¬ ending.toList <:+ name.toList := by
  rcases stem_cases x k name with ⟨ending, hmem, hname⟩ | ⟨hself, hends⟩
  · have hne : lowercase (x.stem k name ++ ending) ≠ lowercase (x.stem k name) :=
      Unicode.lowercase_append_ne (ne_empty_of_leftOut hmem) _
    rw [← hname] at hne
    have hsuffix : ending.toList <:+ name.toList := by
      rw [hname, String.toList_append]
      exact List.suffix_append _ _
    exact ⟨fun heq => absurd heq.symm hne, fun h => absurd hsuffix (h ending hmem)⟩
  · exact ⟨fun _ => hends, fun _ => congrArg lowercase hself⟩

/-- A name in lower case does not end in what is left out. -/
theorem stem_lowercase (x : Artifact) (k : Kind) (name : String) :
    x.stem k (lowercase name) = lowercase name := by
  rcases stem_cases x k (lowercase name) with ⟨ending, hmem, hname⟩ | ⟨hself, -⟩
  · obtain ⟨c, hc, hcapital⟩ := exists_not_isSmall_of_leftOut hmem
    have hsmall := Unicode.lowercase_eq_self_iff.mp (Unicode.lowercase_lowercase name)
    have hin : c ∈ (lowercase name).toList := by
      rw [hname, String.toList_append]
      exact List.mem_append_right _ hc
    exact absurd (hsmall c hin) hcapital
  · exact hself

end Artifact

/-! ## Names in lower case -/

/-- The name in lower case is a name again. -/
def DeclaredName.lowercase (n : DeclaredName) : DeclaredName :=
  ⟨Unicode.lowercase n.text, fun h => n.ne_empty (Unicode.lowercase_eq_empty_iff.mp h)⟩

theorem lowercase_fileName (stem : String) (r : FileRole) (header : Bool) :
    lowercase (Target.rust.fileName stem r header) = Target.rust.fileName stem r header := by
  rw [fileName_eq_lowercase, Unicode.lowercase_lowercase]

/-- **Names of files are in lower case, and it does not matter whether the declared name was:** all
    their characters are small, and the declared name in lower case names the same file. It does so
    in every case but one: the recognizer of a parser or of a lexer leaves out an ending that is
    written with a capital, so if the name has the ending, the name in lower case has another
    file. -/
theorem files_canonical (n : DeclaredName) (k : Kind) (x : Artifact) (header : Bool) :
    ∃ file lowered : String,
      (Descriptor.mk (some n.text) (some k)).HasFile Target.rust x header file ∧
      (Descriptor.mk (some (lowercase n.text)) (some k)).HasFile Target.rust x header lowered ∧
      lowercase file = file ∧
      (∀ c ∈ file.toList, IsSmall c) ∧
      (lowered = file ↔ ¬ (x = .recognizer ∧
        ((k = .parser ∧ "Parser".toList <:+ n.text.toList) ∨
          (k = .lexer ∧ "Lexer".toList <:+ n.text.toList)))) := by
  have hsame := lowercase_fileName (x.stem k n.text) (x.role k) header
  refine ⟨_, _, Descriptor.hasFile_known Target.rust x n k header,
    Descriptor.hasFile_known Target.rust x n.lowercase k header, hsame,
    Unicode.lowercase_eq_self_iff.mp hsame, ?_⟩
  rw [← Artifact.exists_leftOut_iff (p := fun ending => ending.toList <:+ n.text.toList)]
  calc Target.rust.fileName (x.stem k (lowercase n.text)) (x.role k) header
        = Target.rust.fileName (x.stem k n.text) (x.role k) header
      ↔ lowercase (lowercase n.text) = lowercase (x.stem k n.text) := by
        rw [Target.fileName_eq_iff, Artifact.stem_lowercase]
        exact and_iff_right rfl
    _ ↔ lowercase (x.stem k n.text) = lowercase n.text := by
        rw [Unicode.lowercase_lowercase]
        exact eq_comm
    _ ↔ ¬ ∃ ending ∈ x.leftOut? k, ending.toList <:+ n.text.toList := by
        rw [Artifact.lowercase_stem_eq_iff, not_exists]
        exact forall_congr' fun _ => not_and.symm

end GrammarTarget
