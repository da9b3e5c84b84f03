import GrammarTarget.Proofs.FileNames

/-!
# How naming the files of a grammar ends

The three files of a grammar are named one after the other, and each naming asks for the declared
name before it looks at the kind. So a name that is missing or empty ends the whole before anything
is told to the log (`Descriptor.nameFiles_eq_error_iff`). With a name all three are named, and the
only question left is whether the kind is known. The answer shows in the recognizer: it is the text
that stands for a missing name just if the kind is not known, whatever the grammar is called
(`Descriptor.isValid_iff`).

A descriptor is what a grammar of any type answers about itself, so all this is said of descriptors.
-/

namespace GrammarTarget

open Log (Logged Level)

/-- An attempt as a whole: records are kept whether it fails or not. An error that is known before
    anything is written comes without records. -/
def Log.Logged.settled {ε α : Type} : Except ε (Logged α) → Logged (Except ε α)
  | .error e => pure (.error e)
  | .ok x    => Except.ok <$> x

/-- The error of an attempt is that of its result; records make no difference. -/
theorem Log.Logged.value_settled_eq_error_iff {ε α : Type} {r : Except ε (Logged α)} {e : ε} :
    (Logged.settled r).value = .error e ↔ r = .error e := by
  cases r with
  | error e' => simp [Logged.settled]
  | ok x => simp [Logged.settled]

namespace Descriptor

/-- Names one file, step by step. A record that is written stays, also if a later step fails. -/
def nameFile (d : Descriptor) (t : Target) (x : Artifact) (header : Bool) :
    ExceptT NameError Logged String := do
  let name ← ExceptT.mk (pure d.declaredName)
  ExceptT.lift (t.artifactFile x name d.kind? header)

/-- Names the three files, each by itself and one after the other. -/
def nameFiles (d : Descriptor) (t : Target) (header : Bool) :
    ExceptT NameError Logged ArtifactNames := do
  let recognizer ← d.nameFile t .recognizer header
  let listener ← d.nameFile t .listener header
  let visitor ← d.nameFile t .visitor header
  pure ⟨recognizer, listener, visitor⟩

/-- The same grammar, but of a known kind. -/
def withKind (d : Descriptor) (k : Kind) : Descriptor :=
  { d with kind? := some k }

/-- A grammar lacks a name that files can be named after, and the error says why. -/
def LacksName (d : Descriptor) (e : NameError) : Prop :=
  (d.name? = none ∧ e.message = "grammar has no declared name") ∨
    (d.name? = some "" ∧ e.message = "grammar has an empty declared name")

/-- A grammar has a name that files can be named after. -/
def HasName (d : Descriptor) : Prop :=
  ∃ n : DeclaredName, d.name? = some n.text

/-! ## Step by step -/

variable {d : Descriptor} {t : Target} {x : Artifact} {header : Bool} {e : NameError}
  {n : DeclaredName}

/-- A grammar is refused for want of a name exactly with the error that says what is wrong with
    it. -/
theorem declaredName_eq_error_iff : d.declaredName = .error e ↔ d.LacksName e := by
  cases e with
  | absent => simp [declaredName_eq_absent_iff, LacksName, NameError.message]
  | empty => simp [declaredName_eq_empty_iff, LacksName, NameError.message]

/-- The name is asked for first, so nothing has been written when it is missing. -/
theorem run_nameFile_of_error (h : d.declaredName = .error e) :
    (d.nameFile t x header).run = ⟨.error e, []⟩ := by
  rw [nameFile, h]
  rfl

/-- With a name one file is named, and what is written on the way is kept. -/
theorem run_nameFile_of_ok (h : d.declaredName = .ok n) :
    (d.nameFile t x header).run = Except.ok <$> t.artifactFile x n d.kind? header := by
  rw [nameFile, h]
  rfl

/-- The first file that cannot be named ends the naming of all three. -/
theorem run_nameFiles_of_error (h : d.declaredName = .error e) :
    (d.nameFiles t header).run = ⟨.error e, []⟩ := by
  rw [nameFiles, ExceptT.run_bind, run_nameFile_of_error h]
  rfl

/-- With a name no file fails, and only the recognizer may write a record. -/
theorem run_nameFiles_of_ok (h : d.declaredName = .ok n) :
    (d.nameFiles t header).run = Except.ok <$> t.artifactFiles n d.kind? header := by
  simp only [nameFiles, ExceptT.run_bind, run_nameFile_of_ok h]
  -- both sides run through the same steps once it is known whether the recognizer writes
  cases d.kind? with
  | some k => rfl
  | none => rfl

theorem run_nameFile (d : Descriptor) (t : Target) (x : Artifact) (header : Bool) :
    (d.nameFile t x header).run = Logged.settled (d.artifactFile t x header) := by
  cases h : d.declaredName with
  | error e =>
      rw [run_nameFile_of_error h, artifactFile_of_error t header h]
      rfl
  | ok n =>
      rw [run_nameFile_of_ok h, artifactFile_of_ok t header h]
      rfl

/-- Naming the files one after the other is naming them together. -/
theorem run_nameFiles (d : Descriptor) (t : Target) (header : Bool) :
    (d.nameFiles t header).run = Logged.settled (d.artifactFiles t header) := by
  cases h : d.declaredName with
  | error e =>
      rw [run_nameFiles_of_error h, artifactFiles_of_error t header h]
      rfl
  | ok n =>
      rw [run_nameFiles_of_ok h, artifactFiles_of_ok t header h]
      rfl

/-! ## With and without a name -/

/-- A grammar has a name to go by, or there is an error that says why not. -/
theorem lacksName_or_hasName (d : Descriptor) : (∃ e, d.LacksName e) ∨ d.HasName := by
  cases h : d.declaredName with
  | error e => exact Or.inl ⟨e, declaredName_eq_error_iff.mp h⟩
  | ok n => exact Or.inr ⟨n, declaredName_eq_ok_iff.mp h⟩

theorem LacksName.not_hasName (h : d.LacksName e) : ¬ d.HasName := by
  rintro ⟨n, hn⟩
  have herror := declaredName_eq_error_iff.mpr h
  rw [declaredName_eq_ok_iff.mpr hn] at herror
  exact nomatch herror

theorem LacksName.unique {e' : NameError} (h : d.LacksName e) (h' : d.LacksName e') : e = e' :=
  Except.error.inj ((declaredName_eq_error_iff.mpr h).symm.trans (declaredName_eq_error_iff.mpr h'))

/-- Whatever is named with the name of a grammar, it fails only for want of one. -/
theorem map_declaredName_eq_error_iff {α : Type} {f : DeclaredName → α} :
    d.declaredName.map f = .error e ↔ d.LacksName e := by
  rw [← declaredName_eq_error_iff]
  cases d.declaredName with
  | error e' =>
      show Except.error e' = Except.error e ↔ _
      rw [Except.error.injEq, Except.error.injEq]
  | ok n => exact iff_of_false nofun nofun

/-- A file is refused for want of a name and for nothing else. -/
theorem nameFile_eq_error_iff :
    (d.nameFile t x header).run.value = .error e ↔ d.LacksName e := by
  rw [run_nameFile, Logged.value_settled_eq_error_iff, artifactFile, map_declaredName_eq_error_iff]

theorem nameFiles_eq_error_iff :
    (d.nameFiles t header).run.value = .error e ↔ d.LacksName e := by
  rw [run_nameFiles, Logged.value_settled_eq_error_iff, artifactFiles,
    map_declaredName_eq_error_iff]

/-- Without a kind, the recognizer is told of and stands without a name; the other two have
    theirs. -/
theorem run_nameFiles_unknown (hname : d.name? = some n.text) (hkind : d.kind? = none) :
    (d.nameFiles t header).run =
      ⟨.ok ⟨ArtifactNames.noName, t.listenerFile n header, t.visitorFile n header⟩,
        [.unnamedRecognizer n.text]⟩ := by
  rw [run_nameFiles_of_ok (declaredName_eq_ok_iff.mpr hname), hkind]
  rfl

/-- With a kind all three have their names, and nothing is told. -/
theorem run_nameFiles_known {k : Kind} (hname : d.name? = some n.text) (hkind : d.kind? = some k) :
    (d.nameFiles t header).run =
      ⟨.ok ⟨t.fileName (k.recognizerStem n.text) k.recognizerRole header,
        t.listenerFile n header, t.visitorFile n header⟩, []⟩ := by
  rw [run_nameFiles_of_ok (declaredName_eq_ok_iff.mpr hname), hkind]
  rfl

end Descriptor

/-! ## Three ways to end -/

/-- How the naming of the three files may end. -/
inductive NamingEnd where
  | refused (e : NameError)
  | unnamed
  | named
  deriving DecidableEq, Repr

/-- How the naming ended, read off its result. -/
def NamingEnd.ofResult : Except NameError ArtifactNames → NamingEnd
  | .error e  => .refused e
  | .ok files => if files.isValid then .named else .unnamed

namespace Descriptor

/-- What shows when files of a grammar have been named in Rust, all together and each by itself. -/
def EndsAs (d : Descriptor) (header : Bool) : NamingEnd → Prop
  -- an error, before any record
  | .refused e =>
      (d.nameFiles Target.rust header).run = ⟨.error e, []⟩ ∧
      ∀ x, (d.nameFile Target.rust x header).run = ⟨.error e, []⟩
  -- one warning, and names that are not valid; listener and visitor are named as for any kind
  | .unnamed => ∃ name files record,
      d.name? = some name ∧
      record.level = .warn ∧
      record.text = "cannot name the recognizer of grammar " ++ name ++ ", its kind is unknown" ∧
      (d.nameFiles Target.rust header).run = ⟨.ok files, [record]⟩ ∧
      files.isValid = false ∧
      files.recognizer = ArtifactNames.noName ∧
      (d.nameFile Target.rust .recognizer header).run = ⟨.ok ArtifactNames.noName, [record]⟩ ∧
      ∀ file ∈ [(Artifact.listener, files.listener), (.visitor, files.visitor)],
        (d.nameFile Target.rust file.1 header).run = ⟨.ok file.2, []⟩ ∧
        ∀ k, ((d.withKind k).nameFile Target.rust file.1 header).run = ⟨.ok file.2, []⟩
  -- valid names, silently
  | .named => ∃ files,
      (d.nameFiles Target.rust header).run = ⟨.ok files, []⟩ ∧
      files.isValid = true ∧
      ∀ file ∈ files.toList, (d.nameFile Target.rust file.1 header).run = ⟨.ok file.2, []⟩ ∧
        ∃ stem, file.2 = stem ++ ".rs"

variable {d : Descriptor} {header : Bool} {e : NameError} {n : DeclaredName}

theorem endsAs_refused (h : d.LacksName e) : d.EndsAs header (.refused e) := by
  have herror := declaredName_eq_error_iff.mpr h
  exact ⟨run_nameFiles_of_error herror, fun _ => run_nameFile_of_error herror⟩

/-- A grammar with a name and without a kind has a recognizer without a name. -/
theorem endsAs_unnamed (hname : d.name? = some n.text) (hkind : d.kind? = none) :
    d.EndsAs header .unnamed := by
  have hok := declaredName_eq_ok_iff.mpr hname
  refine ⟨n.text, _, .unnamedRecognizer n.text, hname, rfl, rfl, run_nameFiles_unknown hname hkind,
    bne_self_eq_false _, rfl, ?_, ?_⟩
  · rw [run_nameFile_of_ok hok, hkind]
    rfl
  · intro file hfile
    have hknown : ∀ k, (d.withKind k).declaredName = .ok n :=
      fun _ => declaredName_eq_ok_iff.mpr hname
    simp only [List.mem_cons, List.not_mem_nil, or_false] at hfile
    rcases hfile with rfl | rfl
    · exact ⟨run_nameFile_of_ok hok, fun k => run_nameFile_of_ok (hknown k)⟩
    · exact ⟨run_nameFile_of_ok hok, fun k => run_nameFile_of_ok (hknown k)⟩

/-- A grammar with a name and a kind has three files. -/
theorem endsAs_named {k : Kind} (hname : d.name? = some n.text) (hkind : d.kind? = some k) :
    d.EndsAs header .named := by
  have hfile : ∀ x, (d.nameFile Target.rust x header).run
      = ⟨.ok (Target.rust.fileName (x.stem k n.text) (x.role k) header), []⟩ := by
    intro x
    rw [run_nameFile_of_ok (declaredName_eq_ok_iff.mpr hname), hkind, Target.artifactFile_known]
    rfl
  refine ⟨_, run_nameFiles_known hname hkind, ?_, ?_⟩
  · exact bne_iff_ne.mpr (Target.fileName_ne_noName _ _ _)
  · intro file hmem
    simp only [ArtifactNames.toList, List.mem_cons, List.not_mem_nil, or_false] at hmem
    rcases hmem with rfl | rfl | rfl
    · exact ⟨hfile .recognizer, _, rfl⟩
    · exact ⟨hfile .listener, _, rfl⟩
    · exact ⟨hfile .visitor, _, rfl⟩

/-- The result alone tells in which of the three ways the naming has ended. -/
theorem EndsAs.eq_ofResult {how : NamingEnd} (h : d.EndsAs header how) :
    how = NamingEnd.ofResult (d.nameFiles Target.rust header).run.value := by
  cases how with
  | refused e =>
      rw [h.1]
      rfl
  | unnamed =>
      obtain ⟨_, files, _, -, -, -, hrun, hvalid, -⟩ := h
      rw [hrun]
      exact (if_neg (Bool.eq_false_iff.mp hvalid)).symm
  | named =>
      obtain ⟨files, hrun, hvalid, -⟩ := h
      rw [hrun]
      exact (if_pos hvalid).symm

/-- A naming that ends in one way ends in no other. -/
theorem endsAs_iff {how : NamingEnd} (h : d.EndsAs header how) (other : NamingEnd) :
    d.EndsAs header other ↔ other = how := by
  constructor
  · intro hother
    rw [hother.eq_ofResult, h.eq_ofResult]
  · rintro rfl
    exact h

/-- Every naming ends in one of the three ways, and the name and the kind tell which. -/
theorem exists_endsAs (d : Descriptor) (header : Bool) :
    ∃ how, d.EndsAs header how ∧
      (∀ e, how = .refused e ↔ d.LacksName e) ∧
      (how = .unnamed ↔ d.HasName ∧ d.kind? = none) ∧
      (how = .named ↔ d.HasName ∧ ∃ k, d.kind? = some k) := by
  -- the name is asked for first, so the kind decides only among grammars that have one
  rcases d.lacksName_or_hasName with ⟨e, he⟩ | ⟨n, hn⟩
  · refine ⟨.refused e, endsAs_refused he, ?_, ?_, ?_⟩
    · intro e'
      rw [NamingEnd.refused.injEq]
      exact ⟨fun h => h ▸ he, fun h => he.unique h⟩
    · exact iff_of_false nofun fun h => he.not_hasName h.1
    · exact iff_of_false nofun fun h => he.not_hasName h.1
  · have hnot : ∀ e, ¬ d.LacksName e := fun e he => he.not_hasName ⟨n, hn⟩
    cases hkind : d.kind? with
    | none =>
        refine ⟨.unnamed, endsAs_unnamed hn hkind, ?_, ?_, ?_⟩
        · exact fun e => iff_of_false nofun (hnot e)
        · exact iff_of_true rfl ⟨⟨n, hn⟩, rfl⟩
        · exact iff_of_false nofun nofun
    | some k =>
        refine ⟨.named, endsAs_named hn hkind, ?_, ?_, ?_⟩
        · exact fun e => iff_of_false nofun (hnot e)
        · exact iff_of_false nofun nofun
        · exact iff_of_true rfl ⟨⟨n, hn⟩, k, rfl⟩

/-- Names are valid just if the kind is known, whatever the grammar is called. -/
theorem isValid_iff {files : ArtifactNames}
    (h : (d.nameFiles Target.rust header).run.value = .ok files) :
    files.isValid = true ↔ ∃ k, d.kind? = some k := by
  obtain ⟨how, hends, -, hunnamed, hnamed⟩ := d.exists_endsAs header
  have hhow := hends.eq_ofResult
  rw [h, NamingEnd.ofResult] at hhow
  cases hvalid : files.isValid with
  | true =>
      rw [hvalid, if_pos rfl] at hhow
      exact iff_of_true rfl (hnamed.mp hhow).2
  | false =>
      rw [hvalid, if_neg Bool.false_ne_true] at hhow
      refine iff_of_false Bool.false_ne_true ?_
      rintro ⟨k, hk⟩
      rw [(hunnamed.mp hhow).2] at hk
      exact nomatch hk

end Descriptor

/-- **Naming the files of a grammar ends in exactly one of three ways.** It is refused for want of a
    name, be it all files that are named or one of them, and then nothing has been told to the log;
    or the recognizer is without a name, which is told; or all goes well. The names are valid just
    if the kind is known. Named one after the other, step by step, the files come out as they do
    together. -/
theorem naming_ends_in_one_way (d : Descriptor) (header : Bool) :
    (∃ how, ∀ other, d.EndsAs header other ↔ other = how) ∧
    (∀ e, d.EndsAs header (.refused e) ↔ d.LacksName e) ∧
    (d.EndsAs header .unnamed ↔ d.HasName ∧ d.kind? = none) ∧
    (d.EndsAs header .named ↔ d.HasName ∧ ∃ k, d.kind? = some k) ∧
    (∀ e, (d.nameFiles Target.rust header).run.value = .error e ↔ d.LacksName e) ∧
    (∀ x e, (d.nameFile Target.rust x header).run.value = .error e ↔ d.LacksName e) ∧
    (∀ files, (d.nameFiles Target.rust header).run.value = .ok files →
      (files.isValid = true ↔ ∃ k, d.kind? = some k)) ∧
    (∀ x, (d.nameFile Target.rust x header).run
      = Logged.settled (d.artifactFile Target.rust x header)) ∧
    (d.nameFiles Target.rust header).run = Logged.settled (d.artifactFiles Target.rust header) := by
  obtain ⟨how, hends, hrefused, hunnamed, hnamed⟩ := d.exists_endsAs header
  have hiff := Descriptor.endsAs_iff hends
  refine ⟨⟨how, hiff⟩, ?_, ?_, ?_, fun _ => Descriptor.nameFiles_eq_error_iff,
    fun _ _ => Descriptor.nameFile_eq_error_iff, fun _ => Descriptor.isValid_iff,
    fun x => d.run_nameFile Target.rust x header, d.run_nameFiles Target.rust header⟩
  · intro e
    rw [hiff, eq_comm, hrefused]
  · rw [hiff, eq_comm, hunnamed]
  · rw [hiff, eq_comm, hnamed]

/-- A grammar that is called what stands for a missing name has valid names all the same. -/
theorem naming_ends_in_one_way_noName :
    ((Descriptor.mk (some "INVALID_FILE_NAME") (some .parser)).nameFiles Target.rust true).run.value
        = .ok ⟨"invalid_file_name_parser.rs", "invalid_file_name_listener.rs",
            "invalid_file_name_visitor.rs"⟩ ∧
      (ArtifactNames.mk "invalid_file_name_parser.rs" "invalid_file_name_listener.rs"
        "invalid_file_name_visitor.rs").isValid = true := by
  have hfiles : ((Descriptor.mk (some "INVALID_FILE_NAME") (some .parser)).nameFiles
      Target.rust true).run.value = .ok ⟨"invalid_file_name_parser.rs",
        "invalid_file_name_listener.rs", "invalid_file_name_visitor.rs"⟩ := rfl
  obtain ⟨-, -, -, -, -, -, hvalid, -⟩ :=
    naming_ends_in_one_way ⟨some "INVALID_FILE_NAME", some .parser⟩ true
  exact ⟨hfiles, (hvalid _ hfiles).mpr ⟨.parser, rfl⟩⟩

end GrammarTarget
