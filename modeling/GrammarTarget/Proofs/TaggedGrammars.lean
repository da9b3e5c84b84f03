import GrammarTarget.Proofs.NamingOutcome

/-!
# Tagged grammars and checked ones

A tag is read as a kind just if it is the tag of that kind, and a tag that is refused can be told
from the message of the error (`UnknownKind.message_eq_iff`). So a tagged grammar whose tag names a
kind answers as the checked grammar of that kind, and its files are named alike. Any other tag
leaves the recognizer without a name, as no checked grammar does
(`TaggedGrammar.actsAsGrammar_iff`, `TaggedGrammar.isUnnamed_iff`).

All this is about grammars that have a name. If the declared name is empty nothing is named at all,
whatever the tag, and then a tagged grammar cannot be told from a checked one with an empty name.
-/

namespace GrammarTarget

open Log (Logged)

/-! ## Tags -/

/-- A text between fixed parts can be read off the whole. -/
theorem enclosed_eq_iff {before after s s' : String} :
    before ++ s ++ after = before ++ s' ++ after ↔ s = s' := by
  rw [String.append_left_inj, String.append_right_inj]

/-- The message of an error determines the tag that was refused. -/
theorem UnknownKind.message_eq_iff {e f : UnknownKind} : e.message = f.message ↔ e.tag = f.tag :=
  enclosed_eq_iff

theorem Kind.ofTag?_tag (k : Kind) : Kind.ofTag? k.tag = some k := by
  rw [Kind.ofTag?, Kind.ofTag_tag]
  rfl

theorem Kind.ofTag?_eq_none {tag : String} (h : ∀ k : Kind, tag ≠ k.tag) :
    Kind.ofTag? tag = none := by
  rw [Kind.ofTag?, Kind.ofTag_of_forall_ne h]
  rfl

/-- A tag is that of a kind or of none. -/
theorem Kind.tag_or_not (tag : String) : (∃ k : Kind, tag = k.tag) ∨ ∀ k : Kind, tag ≠ k.tag := by
  cases h : Kind.ofTag tag with
  | ok k => exact Or.inl ⟨k, Kind.ofTag_eq_ok_iff.mp h⟩
  | error e => exact Or.inr (Kind.ofTag_eq_error_iff.mp h).2

/-! ## Files that are named alike -/

namespace Descriptor

/-- The files of two grammars are named alike, each by itself and all together: with the same
    results, the same errors and the same records. -/
def NamedAlike (d e : Descriptor) (t : Target) : Prop :=
  ∀ header, (∀ x, d.artifactFile t x header = e.artifactFile t x header) ∧
    d.artifactFiles t header = e.artifactFiles t header

variable {d e : Descriptor} {t : Target}

theorem NamedAlike.refl (d : Descriptor) (t : Target) : d.NamedAlike d t :=
  fun _ => ⟨fun _ => rfl, rfl⟩

/-- Without a name it does not matter what else is known of a grammar. -/
theorem namedAlike_of_error {err : NameError} (hd : d.declaredName = .error err)
    (he : e.declaredName = .error err) : d.NamedAlike e t := by
  intro header
  refine ⟨fun x => ?_, ?_⟩
  · rw [artifactFile_of_error t header hd, artifactFile_of_error t header he]
  · rw [artifactFiles_of_error t header hd, artifactFiles_of_error t header he]

/-- Grammars whose files are named alike end alike. -/
theorem NamedAlike.end_eq {header : Bool} {p q : NamingEnd} (h : d.NamedAlike e Target.rust)
    (hd : d.EndsAs header p) (he : e.EndsAs header q) : p = q := by
  rw [hd.eq_ofResult, he.eq_ofResult, run_nameFiles, run_nameFiles, (h header).2]

end Descriptor

namespace TaggedGrammar

/-- The files of a tagged grammar are named as those of some checked grammar. -/
def ActsAsGrammar (g : TaggedGrammar) : Prop :=
  ∃ c : Grammar, g.descriptor.NamedAlike c.descriptor Target.rust

/-- The kind of a tagged grammar is not known, and its recognizer has no name. -/
def IsUnnamed (g : TaggedGrammar) : Prop :=
  g.descriptor.kind? = none ∧ ∀ header, g.descriptor.EndsAs header .unnamed

/-- With the tag of a kind a tagged grammar answers as the checked grammar of that kind. -/
theorem descriptor_tag (name : String) (k : Kind) :
    (TaggedGrammar.mk (some name) k.tag).descriptor = (Grammar.mk name k).descriptor := by
  rw [descriptor, Kind.ofTag?_tag]
  rfl

/-- A grammar with a name and a tag of no kind has a recognizer without a name. -/
theorem isUnnamed_of_forall_ne (n : DeclaredName) {tag : String} (h : ∀ k : Kind, tag ≠ k.tag) :
    (TaggedGrammar.mk (some n.text) tag).IsUnnamed := by
  have hkind : (TaggedGrammar.mk (some n.text) tag).descriptor.kind? = none :=
    Kind.ofTag?_eq_none h
  exact ⟨hkind, fun _ => Descriptor.endsAs_unnamed (n := n) rfl hkind⟩

/-- With the tag of a kind a tagged grammar acts as the checked grammar of that kind. -/
theorem actsAsGrammar_tag (name : String) (k : Kind) :
    (TaggedGrammar.mk (some name) k.tag).ActsAsGrammar := by
  refine ⟨⟨name, k⟩, ?_⟩
  rw [descriptor_tag]
  exact Descriptor.NamedAlike.refl _ _

/-- Grammars with an empty name all fail alike, whatever their tags. -/
theorem namedAlike_empty (tag : String) (k : Kind) :
    (TaggedGrammar.mk (some "") tag).descriptor.NamedAlike (Grammar.mk "" k).descriptor
      Target.rust :=
  Descriptor.namedAlike_of_error (Descriptor.declaredName_eq_empty_iff.mpr rfl)
    (Descriptor.declaredName_eq_empty_iff.mpr rfl)

/-- The recognizer of a checked grammar has a name, or is refused one. -/
theorem IsUnnamed.not_actsAsGrammar {g : TaggedGrammar} (h : g.IsUnnamed) : ¬ g.ActsAsGrammar := by
  rintro ⟨c, halike⟩
  -- the checked grammar would end in the same way, and so without a kind
  obtain ⟨how, hends, -, hunnamed, -⟩ := c.descriptor.exists_endsAs false
  have hhow := halike.end_eq (h.2 false) hends
  exact nomatch (hunnamed.mp hhow.symm).2

/-- With a name, the tag decides whether the files are named as those of a checked grammar. -/
theorem actsAsGrammar_iff {n : DeclaredName} {tag : String} :
    (TaggedGrammar.mk (some n.text) tag).ActsAsGrammar ↔ ∃ k : Kind, tag = k.tag := by
  constructor
  · intro h
    rcases Kind.tag_or_not tag with hk | hne
    · exact hk
    · exact absurd h (isUnnamed_of_forall_ne n hne).not_actsAsGrammar
  · rintro ⟨k, rfl⟩
    exact actsAsGrammar_tag n.text k

/-- With a name, the tag decides whether the recognizer has one. -/
theorem isUnnamed_iff {n : DeclaredName} {tag : String} :
    (TaggedGrammar.mk (some n.text) tag).IsUnnamed ↔ ∀ k : Kind, tag ≠ k.tag := by
  constructor
  · rintro h k rfl
    exact h.not_actsAsGrammar (actsAsGrammar_tag n.text k)
  · exact isUnnamed_of_forall_ne n

end TaggedGrammar

/-- **Tagged grammars agree with checked ones.** A tag is read as the kind that it is the tag of,
    and any other is refused with an error that keeps it whole and shows it. With the tag of a kind
    a tagged grammar answers as the checked one, and its files are named alike. With any other tag
    its kind is not known and its recognizer has no name, if the declared name is not empty; if it
    is, the naming fails as it does for every checked grammar of that name. -/
theorem tagged_grammars_agree :
    (∀ (tag : String) (k : Kind), Kind.ofTag tag = .ok k ↔ tag = k.tag) ∧
    (∀ (tag : String) (e : UnknownKind),
      Kind.ofTag tag = .error e ↔ e.tag = tag ∧ ∀ k : Kind, tag ≠ k.tag) ∧
    (∀ e f : UnknownKind, e.message = f.message ↔ e.tag = f.tag) ∧
    (∀ (name : String) (k : Kind),
      (TaggedGrammar.mk (some name) k.tag).descriptor.name? = (Grammar.mk name k).descriptor.name? ∧
      (TaggedGrammar.mk (some name) k.tag).descriptor.kind? = (Grammar.mk name k).descriptor.kind? ∧
      (TaggedGrammar.mk (some name) k.tag).descriptor.NamedAlike (Grammar.mk name k).descriptor
        Target.rust) ∧
    (∀ (n : DeclaredName) (tag : String),
      ((TaggedGrammar.mk (some n.text) tag).ActsAsGrammar ↔ ∃ k : Kind, tag = k.tag) ∧
      ((TaggedGrammar.mk (some n.text) tag).IsUnnamed ↔ ∀ k : Kind, tag ≠ k.tag)) ∧
    (∀ (tag : String) (k : Kind),
      (TaggedGrammar.mk (some "") tag).descriptor.NamedAlike (Grammar.mk "" k).descriptor
        Target.rust) := by
  refine ⟨fun _ _ => Kind.ofTag_eq_ok_iff, ?_, fun _ _ => UnknownKind.message_eq_iff, ?_,
    fun _ _ => ⟨TaggedGrammar.actsAsGrammar_iff, TaggedGrammar.isUnnamed_iff⟩,
    TaggedGrammar.namedAlike_empty⟩
  · intro tag e
    rw [Kind.ofTag_eq_error_iff, ← UnknownKind.mk.injEq]
  · intro name k
    rw [TaggedGrammar.descriptor_tag]
    exact ⟨rfl, rfl, Descriptor.NamedAlike.refl _ _⟩

/-- The tag alone does not decide how the files of a grammar are named: with the tag `tree` the
    recognizer has no name, but a grammar of that tag with an empty name fails as checked grammars
    do. -/
theorem tag_alone_does_not_decide :
    ¬ ∀ tag : String,
      (∀ name : String, (TaggedGrammar.mk (some name) tag).ActsAsGrammar) ∨
        ∀ name : String, (TaggedGrammar.mk (some name) tag).IsUnnamed := by
  intro h
  have htree : ∀ k : Kind, "tree" ≠ k.tag := by
    intro k
    cases k <;> decide
  rcases h "tree" with hacts | hunnamed
  · exact (TaggedGrammar.isUnnamed_of_forall_ne ⟨"A", by decide⟩ htree).not_actsAsGrammar
      (hacts "A")
  · exact (hunnamed "").not_actsAsGrammar
      ⟨⟨"", .parser⟩, TaggedGrammar.namedAlike_empty "tree" .parser⟩

end GrammarTarget
