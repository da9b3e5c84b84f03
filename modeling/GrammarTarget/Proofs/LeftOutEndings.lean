import GrammarTarget.Proofs.CanonicalNames

/-!
# One ending is left out

A recognizer is named after the grammar less one ending, if the name has it, and whatever is before
the ending stays: a second one is not left out, nor is that of another kind. Whether an ending was
left out shows in the file, since no two stems of which one begins with the other have the same
lower case (`fileName_append_eq_iff`). Nothing keeps a name from being an ending and no more; the
file then has no stem at all (`stem_eq_empty_iff`).
-/

namespace GrammarTarget

open Unicode (lowercase)

/-! ## Stems of longer names -/

namespace Artifact

variable {x : Artifact} {k : Kind} {ending : String}

/-- An ending that is put behind a name is what is left out of the whole, whatever the name ends
    with. -/
theorem stem_append (h : ending ∈ x.leftOut? k) (s : String) : x.stem k (s ++ ending) = s := by
  obtain ⟨rfl, ⟨rfl, rfl⟩ | ⟨rfl, rfl⟩⟩ := mem_leftOut?_iff.mp h
  · exact withoutEnding_append s "Parser"
  · exact withoutEnding_append s "Lexer"

/-- There is one ending at most to be left out. -/
theorem forall_leftOut_iff (h : ending ∈ x.leftOut? k) {p : String → Prop} :
    (∀ other ∈ x.leftOut? k, p other) ↔ p ending := by
  constructor
  · intro hall
    exact hall ending h
  · intro hp other hother
    rw [Option.mem_unique hother h]
    exact hp

/-- Nothing is left of a name only if the whole name is left out. -/
theorem stem_eq_empty_iff {name : String} (hname : name ≠ "") :
    x.stem k name = "" ↔ name ∈ x.leftOut? k := by
  constructor
  · intro hstem
    rcases stem_cases x k name with ⟨ending, hmem, hsplit⟩ | ⟨hself, -⟩
    · rw [hstem, String.empty_append] at hsplit
      rw [hsplit]
      exact hmem
    · exact absurd (hself.symm.trans hstem) hname
  · intro hmem
    have hstem := stem_append hmem ""
    rw [String.empty_append] at hstem
    exact hstem

end Artifact

/-! ## Files of longer names -/

namespace Target

variable (t : Target)

/-- A file begins with a text, and an ending of a role follows, only if the text is the stem in
    lower case. -/
theorem fileName_eq_append_iff {stem text : String} {r q : FileRole} {header : Bool} :
    t.fileName stem r header = text ++ ("_" ++ q.label ++ t.extension header) ↔
      r = q ∧ text = lowercase stem := by
  have htext : (text ++ ("_" ++ q.label ++ t.extension header)).toList
      = text.toList ++ q.ending ++ (t.extension header).toList := by
    simp [FileRole.ending, String.toList_append]
  rw [← String.toList_inj, toList_fileName, htext]
  constructor
  · intro h
    obtain ⟨hrole, hstem⟩ := FileRole.ending_injective (List.append_cancel_right h)
    exact ⟨hrole, (String.toList_inj.mp hstem).symm⟩
  · rintro ⟨rfl, rfl⟩
    rfl

/-- An ending that is added to a name shows in the file unless it is left out again, and the name
    had none before. -/
theorem fileName_append_eq_iff {x : Artifact} {k : Kind} {ending s : String} {header : Bool}
    (h : ending ∈ x.leftOut? k) :
    t.fileName (x.stem k (s ++ ending)) (x.role k) header
        = t.fileName (x.stem k s) (x.role k) header ↔ ¬ ending.toList <:+ s.toList := by
  rw [fileName_eq_iff, Artifact.stem_append h, and_iff_right rfl, eq_comm,
    Artifact.lowercase_stem_eq_iff, Artifact.forall_leftOut_iff h]

end Target

/-- Of the two endings that the file of a recognizer may have, it has the one of its role. -/
theorem recognizerFile_eq_append_iff {k : Kind} {stem text : String} :
    Target.rust.fileName stem k.recognizerRole false = text ++ "_parser.rs" ∨
        Target.rust.fileName stem k.recognizerRole false = text ++ "_lexer.rs" ↔
      text = lowercase stem := by
  have hparser : "_parser.rs" = "_" ++ FileRole.parser.label ++ Target.rust.extension false := by
    decide
  have hlexer : "_lexer.rs" = "_" ++ FileRole.lexer.label ++ Target.rust.extension false := by
    decide
  have hrole : k.recognizerRole = .parser ∨ k.recognizerRole = .lexer := by
    cases k with
    | lexer => exact Or.inr rfl
    | _ => exact Or.inl rfl
  rw [hparser, hlexer, Target.fileName_eq_append_iff, Target.fileName_eq_append_iff,
    ← or_and_right, and_iff_right hrole]

/-- A name with an ending put behind it is a name again. -/
def DeclaredName.append (n : DeclaredName) (ending : String) : DeclaredName :=
  ⟨n.text ++ ending, fun h => n.ne_empty (String.append_eq_empty_iff.mp h).1⟩

/-- **A recognizer leaves out one ending, written exactly so, and only that of its kind.** With a
    `Parser` added to its name, a parser grammar has the recognizer that the combined grammar has
    without it. A second ending stays, so the files differ if the name had one before; and a parser
    grammar shares its recognizer with the combined grammar of the same name only if there was no
    ending to be left out. Two grammars have files without a stem: the parser grammar `Parser` and
    the lexer grammar `Lexer`. -/
theorem one_ending_left_out :
    ∃ file : DeclaredName → Kind → String,
      (∀ n k header, (Descriptor.mk (some n.text) (some k)).HasFile Target.rust .recognizer header
        (file n k)) ∧
      (∀ s, file (s.append "Parser") .parser = file s .combined) ∧
      (∀ s, file (s.append "Parser") .parser = file s .parser ↔
        ¬ "Parser".toList <:+ s.text.toList) ∧
      (∀ s, file (s.append "Lexer") .lexer = file s .lexer ↔
        ¬ "Lexer".toList <:+ s.text.toList) ∧
      (∀ n, file n .parser = file n .combined ↔ ¬ "Parser".toList <:+ n.text.toList) ∧
      ∀ n k, ∃ before : String,
        (∀ text, file n k = text ++ "_parser.rs" ∨ file n k = text ++ "_lexer.rs" ↔
          text = before) ∧
        (before = "" ↔ (n.text = "Parser" ∧ k = .parser) ∨ (n.text = "Lexer" ∧ k = .lexer)) := by
  refine ⟨fun n k => Target.rust.fileName (Artifact.recognizer.stem k n.text)
    (Artifact.recognizer.role k) false, ?_, ?_, ?_, ?_, ?_, ?_⟩
  · intro n k header
    exact Descriptor.hasFile_known Target.rust .recognizer n k header
  · intro s
    exact Target.rust.fileName_eq_iff.mpr
      ⟨rfl, congrArg lowercase (withoutEnding_append s.text "Parser")⟩
  · intro s
    exact Target.rust.fileName_append_eq_iff rfl
  · intro s
    exact Target.rust.fileName_append_eq_iff rfl
  · intro n
    have hstem : lowercase (Artifact.recognizer.stem .parser n.text) = lowercase n.text ↔
        ¬ "Parser".toList <:+ n.text.toList :=
      Artifact.lowercase_stem_eq_iff.trans (Artifact.forall_leftOut_iff rfl)
    exact Target.rust.fileName_eq_iff.trans ((and_iff_right rfl).trans hstem)
  · intro n k
    refine ⟨lowercase (Artifact.recognizer.stem k n.text), ?_, ?_⟩
    · intro text
      exact recognizerFile_eq_append_iff
    · rw [Unicode.lowercase_eq_empty_iff, Artifact.stem_eq_empty_iff n.ne_empty,
        Artifact.mem_leftOut?_iff, and_iff_right rfl, and_comm, and_comm (b := n.text = "Lexer")]

/-- The sigma ends the stem, and it is the final one, once the ending is left out. -/
example :
    Target.rust.fileName (withoutEnding "Parser" "ΑΣParser") .parser false = "ας_parser.rs" := by
  decide +kernel

end GrammarTarget
