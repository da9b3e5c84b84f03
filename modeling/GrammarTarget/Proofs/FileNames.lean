import GrammarTarget.Artifact

/-!
# Which files share a name

A file name is a stem in lower case and an ending that tells the role, and two names are equal only
if both parts are. The names themselves do not show where the stem ends: a grammar may well be
called after another one's file. What keeps the roles apart is that no ending is the end of another
(`FileRole.ending_injective`), so a name has one role and one stem at most (`fileName_eq_iff`).
-/

namespace GrammarTarget

open Unicode (lowercase)

/-- The role of the file of an artifact, which depends on the kind for the recognizer alone. -/
def Artifact.role : Artifact → Kind → FileRole
  | recognizer, kind => kind.recognizerRole
  | listener,   _    => .listener
  | visitor,    _    => .visitor

/-- The ending of a grammar's name that the file of an artifact leaves out. -/
def Artifact.leftOut? : Artifact → Kind → Option String
  | recognizer, .parser => some "Parser"
  | recognizer, .lexer  => some "Lexer"
  | _,          _       => none

/-- What is left of a name without one ending, if there is one to be left out and the name has
    it. -/
def IsStem (ending? : Option String) (name stem : String) : Prop :=
  match ending? with
  | none        => stem = name
  | some ending => name = stem ++ ending ∨ (stem = name ∧ ¬ ending.toList <:+ name.toList)

/-- The part of a grammar's name that the file of an artifact is named after. -/
def Artifact.stem : Artifact → Kind → String → String
  | recognizer, kind, name => kind.recognizerStem name
  | listener,   _,    name => name
  | visitor,    _,    name => name

/-! ## Stems -/

/-- A name has one stem, the one that is computed. -/
theorem isStem_some_iff {ending name stem : String} :
    IsStem (some ending) name stem ↔ stem = withoutEnding ending name := by
  constructor
  · rintro (rfl | ⟨rfl, h⟩)
    · exact (withoutEnding_append stem ending).symm
    · exact (withoutEnding_of_not_suffix h).symm
  · rintro rfl
    by_cases h : ending.toList <:+ name.toList
    -- one ending is taken off, even if what is left has it again
    · obtain ⟨stem, hname⟩ := exists_eq_append_of_suffix h
      refine Or.inl ?_
      rw [hname, withoutEnding_append]
    · exact Or.inr ⟨withoutEnding_of_not_suffix h, h⟩

/-- The stem that the file of an artifact is named after is the one that is described. -/
theorem Artifact.isStem_iff {x : Artifact} {k : Kind} {name stem : String} :
    IsStem (x.leftOut? k) name stem ↔ stem = x.stem k name := by
  cases x with
  | recognizer =>
      cases k with
      | parser => exact isStem_some_iff
      | lexer => exact isStem_some_iff
      | combined => exact Iff.rfl
  | listener => exact Iff.rfl
  | visitor => exact Iff.rfl

/-! ## Endings -/

/-- The end of a file name before the extension: an underscore and the role. -/
def FileRole.ending (r : FileRole) : List Char :=
  '_' :: r.label.toList

/-- No ending is the end of another. -/
theorem FileRole.eq_of_ending_suffix {r q : FileRole} (h : r.ending <:+ q.ending) : r = q := by
  revert h
  cases r <;> cases q <;> decide

/-- Texts with endings of roles are equal only if the roles are, and with them the texts. -/
theorem FileRole.ending_injective {cs ds : List Char} {r q : FileRole}
    (h : cs ++ r.ending = ds ++ q.ending) : r = q ∧ cs = ds := by
  have hrole : r = q := by
    -- both end the same text, so one of the two ends the other
    have hr : r.ending <:+ ds ++ q.ending := ⟨cs, h⟩
    have hq : q.ending <:+ ds ++ q.ending := List.suffix_append ds q.ending
    rcases List.suffix_or_suffix_of_suffix hr hq with hrq | hqr
    · exact eq_of_ending_suffix hrq
    · exact (eq_of_ending_suffix hqr).symm
  subst hrole
  exact ⟨rfl, List.append_cancel_right h⟩

namespace Target

variable (t : Target)

theorem toList_fileName (stem : String) (r : FileRole) (header : Bool) :
    (t.fileName stem r header).toList
      = (lowercase stem).toList ++ r.ending ++ (t.extension header).toList := by
  simp [fileName, FileRole.ending, String.toList_append]

/-- No file in Rust is called what stands for a name that there is none of. -/
theorem fileName_ne_noName (stem : String) (r : FileRole) (header : Bool) :
    rust.fileName stem r header ≠ ArtifactNames.noName := by
  intro h
  have hsuffix : ".rs".toList <:+ (rust.fileName stem r header).toList := by
    rw [toList_fileName]
    exact List.suffix_append _ _
  rw [h] at hsuffix
  exact absurd hsuffix (by decide)

/-- **A file name determines the role and the stem in lower case.** -/
theorem fileName_eq_iff {s s' : String} {r q : FileRole} {header : Bool} :
    t.fileName s r header = t.fileName s' q header ↔ r = q ∧ lowercase s = lowercase s' := by
  constructor
  · intro h
    have hchars := congrArg String.toList h
    rw [toList_fileName, toList_fileName] at hchars
    obtain ⟨hrole, hstem⟩ := FileRole.ending_injective (List.append_cancel_right hchars)
    exact ⟨hrole, String.toList_inj.mp hstem⟩
  · rintro ⟨rfl, hstem⟩
    rw [fileName, fileName, hstem]

/-- With a known kind every artifact has its file named in the same way, and silently. -/
theorem artifactFile_known (x : Artifact) (n : DeclaredName) (k : Kind) (header : Bool) :
    t.artifactFile x n (some k) header
      = pure (t.fileName (x.stem k n.text) (x.role k) header) := by
  cases x <;> rfl

/-- Named with the others, an artifact has the file that it has when it is named alone. -/
theorem artifactFiles_known (x : Artifact) (n : DeclaredName) (k : Kind) (header : Bool) :
    ∃ files, t.artifactFiles n (some k) header = pure files ∧
      (x, t.fileName (x.stem k n.text) (x.role k) header) ∈ files.toList := by
  refine ⟨_, rfl, ?_⟩
  cases x with
  | recognizer => exact List.mem_cons_self
  | listener => exact List.mem_cons_of_mem _ List.mem_cons_self
  | visitor => exact List.mem_cons_of_mem _ (List.mem_cons_of_mem _ List.mem_cons_self)

end Target

/-! ## Files of grammars -/

namespace Descriptor

/-- Files are named for the grammar, silently, and `file` is that of the artifact, be it named by
    itself or with the others. -/
def HasFile (d : Descriptor) (t : Target) (x : Artifact) (header : Bool) (file : String) : Prop :=
  d.artifactFile t x header = .ok (pure file) ∧
    ∃ files, d.artifactFiles t header = .ok (pure files) ∧ (x, file) ∈ files.toList

theorem hasFile_known (t : Target) (x : Artifact) (n : DeclaredName) (k : Kind) (header : Bool) :
    (Descriptor.mk (some n.text) (some k)).HasFile t x header
      (t.fileName (x.stem k n.text) (x.role k) header) := by
  have hname : (Descriptor.mk (some n.text) (some k)).declaredName = .ok n :=
    declaredName_eq_ok_iff.mpr rfl
  obtain ⟨files, hfiles, hmem⟩ := t.artifactFiles_known x n k header
  refine ⟨?_, files, ?_, hmem⟩
  · rw [artifactFile, hname]
    exact congrArg Except.ok (t.artifactFile_known x n k header)
  · rw [artifactFiles, hname]
    exact congrArg Except.ok hfiles

end Descriptor

end GrammarTarget
