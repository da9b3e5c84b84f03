import GrammarTarget.Proofs.Arrangement
import GrammarTarget.Proofs.FileNames

/-!
# How a command line that is accepted ends

Six outcomes are possible, and the first that applies is taken (`Outcome`): the version of the
target, the reserved words, three errors, and the report. Two things have to fit for this. The
command looks at the name before it has the files named, and refuses just those names that would
make the naming fail; and the recognizer is without a name just if the kind is not known, since no
stem gives a file the text that stands for a missing name. So the two faults that a report might
still meet never come up (`report_of_unknown`, `report_of_known`).

Symbols are looked at last. An error comes before them, and no record of the log is about them then.
-/

namespace GrammarTarget.CommandLine

open Log (Logged Record)
open Reserved (Category Table)

/-! ## Reports -/

section Report

variable {t : Target} {o : Options}

/-- Without a name there is nothing that could be named. -/
theorem report_of_absent (h : o.name? = none) : report t o = pure (.error .nameAbsent) := by
  rw [report, h]

/-- The empty name is refused before the naming would fault on it. -/
theorem report_of_empty (h : o.name? = some "") : report t o = pure (.error .nameEmpty) := by
  rw [report, h]
  rfl

/-- With a name the report goes on to the files, which can be named. -/
theorem report_of_name {n : DeclaredName} (h : o.name? = some n.text) :
    report t o =
      t.artifactFiles n (Kind.ofTag? o.kindTag) o.header >>= reportOn t o n.text := by
  have hname : o.grammar.descriptor.declaredName = .ok n :=
    Descriptor.declaredName_eq_ok_iff.mpr h
  have hfiles : o.grammar.descriptor.artifactFiles t o.header
      = .ok (t.artifactFiles n (Kind.ofTag? o.kindTag) o.header) := by
    rw [Descriptor.artifactFiles, hname]
    rfl
  simp only [report, h, if_neg n.ne_empty, hfiles]

/-- Once the files are valid, the symbols are checked and the report is there. -/
theorem reportOn_of_valid {files : ArtifactNames} (h : files.isValid = true) (name : String) :
    reportOn t o name files = (do
      let warnings ← checkSymbols t o
      pure (.ok ⟨files, warnings⟩)) := by
  rw [reportOn, if_pos h]

/-- A tag that names no kind is the reason why the files are not valid. -/
theorem reportOn_of_error {files : ArtifactNames} (h : files.isValid = false) {e : UnknownKind}
    (herror : Kind.ofTag o.kindTag = .error e) (name : String) :
    reportOn t o name files = pure (.error (.kind e)) := by
  rw [reportOn, h, if_neg Bool.false_ne_true, herror]

/-- A kind that is not known is told to the log and is the error. -/
theorem report_of_unknown {n : DeclaredName} (h : o.name? = some n.text)
    (hkind : ∀ k : Kind, o.kindTag ≠ k.tag) :
    report t o = ⟨.error (.kind ⟨o.kindTag⟩), [.unnamedRecognizer n.text]⟩ := by
  have herror := Kind.ofTag_of_forall_ne hkind
  have hnone : Kind.ofTag? o.kindTag = none := by
    rw [Kind.ofTag?, herror]
    rfl
  have hvalid : (t.artifactFiles n none o.header).value.isValid = false := bne_self_eq_false _
  rw [report_of_name h, hnone]
  -- the record comes from the naming; the error is found when the names are looked at
  refine Logged.ext ?_ ?_
  · rw [Logged.value_bind, reportOn_of_error hvalid herror]
    rfl
  · rw [Logged.log_bind, reportOn_of_error hvalid herror]
    rfl

/-- The files of a grammar in Rust whose kind is known. -/
def rustFiles (n : DeclaredName) (k : Kind) (header : Bool) : ArtifactNames where
  recognizer := Target.rust.fileName (Artifact.recognizer.stem k n.text)
    (Artifact.recognizer.role k) header
  listener   := Target.rust.fileName n.text .listener header
  visitor    := Target.rust.fileName n.text .visitor header

/-- With a known kind there is a report; nothing but its symbols is told to the log. -/
theorem report_of_known {n : DeclaredName} {k : Kind} (h : o.name? = some n.text)
    (hkind : o.kindTag = k.tag) :
    report Target.rust o = (do
      let warnings ← checkSymbols Target.rust o
      pure (.ok ⟨rustFiles n k o.header, warnings⟩)) := by
  have hsome : Kind.ofTag? o.kindTag = some k := by
    rw [Kind.ofTag?, hkind, Kind.ofTag_tag]
    rfl
  have hvalid : (rustFiles n k o.header).isValid = true :=
    bne_iff_ne.mpr (Target.fileName_ne_noName _ _ _)
  have hfiles : Target.rust.artifactFiles n (some k) o.header
      = pure (rustFiles n k o.header) := rfl
  rw [report_of_name h, hsome, hfiles, pure_bind, reportOn_of_valid hvalid]

end Report

/-! ## Outcomes -/

/-- The record that tells of the table being built, with which the log of a run begins. -/
def tableRecord : Record :=
  .tableBuilt Target.rust.language Target.rust.reserved.size

/-- The lines that a text is made of, each of them ended by a line feed. -/
def IsLines (text : String) (lines : List String) : Prop :=
  text = String.join (lines.map (· ++ "\n")) ∧ ∀ line ∈ lines, '\n' ∉ line.toList

/-- The lines of the list of reserved words, without their line feeds. -/
def reservedEntries (t : Target) : List String :=
  t.reserved.toList.map fun entry => Text.alignLeft 24 entry.1 ++ entry.2.label

/-- The files of a report as they are printed. -/
def fileEntries (files : ArtifactNames) : String :=
  String.join
    [fileLine (.recognizer, files.recognizer), fileLine (.listener, files.listener),
     fileLine (.visitor, files.visitor)]

/-- How a run ends that was asked for the options `o`: what it leaves behind, and its log. -/
inductive Outcome (o : Options) : Logged Output → Prop where
  /-- The version of the target is shown, whatever else is asked for. -/
  | targetVersion (h : o.targetVersion = true) :
      Outcome o ⟨⟨0, "Rust target 4.7.1\n", ""⟩, [tableRecord]⟩
  /-- The reserved words are listed, whatever the grammar and the symbols. -/
  | reserved (hversion : o.targetVersion = false) (h : o.reserved = true) (stdout : String)
      (hlines : IsLines stdout (reservedEntries Target.rust)) :
      Outcome o ⟨⟨0, stdout, ""⟩, [tableRecord]⟩
  | nameAbsent (hversion : o.targetVersion = false) (hreserved : o.reserved = false)
      (h : o.name? = none) :
      Outcome o ⟨⟨1, "", "a grammar name is required, pass one with --name"⟩, [tableRecord]⟩
  | nameEmpty (hversion : o.targetVersion = false) (hreserved : o.reserved = false)
      (h : o.name? = some "") :
      Outcome o ⟨⟨1, "", "the grammar name must not be empty"⟩, [tableRecord]⟩
  | kind (hversion : o.targetVersion = false) (hreserved : o.reserved = false)
      (n : DeclaredName) (hname : o.name? = some n.text) (h : ∀ k : Kind, o.kindTag ≠ k.tag) :
      Outcome o
        ⟨⟨1, "", "unknown grammar kind '" ++ o.kindTag ++
          "', expected one of parser, lexer or combined"⟩,
         [tableRecord, .unnamedRecognizer n.text]⟩
  /-- The files of the grammar are shown, and what is found of the symbols. -/
  | files (hversion : o.targetVersion = false) (hreserved : o.reserved = false)
      (n : DeclaredName) (hname : o.name? = some n.text) (k : Kind) (h : o.kindTag = k.tag)
      (stderr : String) (records : List Record) :
      Outcome o
        ⟨⟨0, fileEntries (rustFiles n k o.header), stderr⟩, tableRecord :: records⟩

/-- Records that tell of symbols or of their number. -/
def IsAboutSymbols : Record → Prop
  | .collision ..      => True
  | .collisionCount .. => True
  | .symbolsChecked .. => True
  | _                  => False

/-! ## Runs -/

/-- A run that is accepted builds the table, and then answers. -/
theorem run_of_ok {args : List String} {o : Options} (h : Options.ofArguments args = .ok o) :
    run args = ⟨(answer Target.rust o).value, tableRecord :: (answer Target.rust o).log⟩ := by
  rw [run, h]
  rfl

/-- What a run leaves behind whose arguments have not been read to the end. -/
def Stop.output : Stop → Output
  | help      => ⟨0, helpText, ""⟩
  | version   => ⟨0, versionText, ""⟩
  | refused e => ⟨2, "", e.headline⟩

/-- Such a run ends before the table is built, so its log is empty. -/
theorem run_of_error {args : List String} {stop : Stop}
    (h : Options.ofArguments args = .error stop) : run args = ⟨stop.output, []⟩ := by
  rw [run, h]
  cases stop <;> rfl

/-- The version is answered before anything else is looked at. -/
theorem answer_of_targetVersion {o : Options} (h : o.targetVersion = true) :
    answer Target.rust o = pure ⟨0, "Rust target 4.7.1\n", ""⟩ := by
  rw [answer, if_pos h]
  rfl

theorem answer_of_reserved {t : Target} {o : Options} (hversion : o.targetVersion = false)
    (h : o.reserved = true) : answer t o = pure ⟨0, reservedLines t, ""⟩ := by
  rw [answer, hversion, if_neg Bool.false_ne_true, if_pos h]

/-- Where neither the version nor the list is asked for there is a report, or an error in its
    place. -/
theorem answer_of_report {t : Target} {o : Options} (hversion : o.targetVersion = false)
    (hreserved : o.reserved = false) :
    answer t o = Output.ofReport t.language <$> report t o := by
  rw [answer, hversion, hreserved, if_neg Bool.false_ne_true, if_neg Bool.false_ne_true]

theorem not_mem_words {c : Category} {word : String} (h : word ∈ c.words) :
    '\n' ∉ word.toList := by
  revert word
  cases c <;> decide

theorem not_mem_label (c : Category) : '\n' ∉ c.label.toList := by
  cases c <;> decide

/-- The reserved words are printed one on each line. -/
theorem isLines_reservedLines : IsLines (reservedLines Target.rust) (reservedEntries Target.rust) := by
  constructor
  · rw [reservedLines, reservedEntries, List.map_map]
    rfl
  · intro line hline
    obtain ⟨⟨word, c⟩, hentry, rfl⟩ := List.mem_map.mp hline
    have hword : word ∈ c.words :=
      Table.mem_words_of_category?_standard (Table.mem_toList_iff.mp hentry)
    -- a line is a word, blanks and a phrase, and none of the three holds a line feed
    simp only [Text.alignLeft, Text.blanks, String.toList_append, String.toList_ofList,
      List.mem_append, List.mem_replicate, not_or]
    exact ⟨⟨not_mem_words hword, fun hblank => absurd hblank.2 (by decide)⟩, not_mem_label c⟩

/-- Where a report is asked for, the name decides first and then the kind. -/
theorem outcome_of_report {o : Options} (hversion : o.targetVersion = false)
    (hreserved : o.reserved = false) :
    Outcome o ⟨(answer Target.rust o).value, tableRecord :: (answer Target.rust o).log⟩ := by
  cases hname : o.name? with
  | none =>
      rw [answer_of_report hversion hreserved, report_of_absent hname]
      exact .nameAbsent hversion hreserved hname
  | some name =>
      by_cases hempty : name = ""
      · subst hempty
        rw [answer_of_report hversion hreserved, report_of_empty hname]
        exact .nameEmpty hversion hreserved hname
      -- what has passed the two guards is a name that files can be named after
      · have hn : o.name? = some (DeclaredName.mk name hempty).text := hname
        cases hkind : Kind.ofTag o.kindTag with
        | error e =>
            obtain ⟨-, hne⟩ := Kind.ofTag_eq_error_iff.mp hkind
            rw [answer_of_report hversion hreserved, report_of_unknown hn hne]
            exact .kind hversion hreserved _ hn hne
        | ok k =>
            have hk := Kind.ofTag_eq_ok_iff.mp hkind
            rw [answer_of_report hversion hreserved, report_of_known hn hk]
            exact .files hversion hreserved _ hn k hk _ _

theorem outcome_run {args : List String} {o : Options} (h : Options.ofArguments args = .ok o) :
    Outcome o (run args) := by
  rw [run_of_ok h]
  cases hversion : o.targetVersion with
  | true =>
      rw [answer_of_targetVersion hversion, Logged.value_pure, Logged.log_pure]
      exact .targetVersion hversion
  | false =>
      cases hreserved : o.reserved with
      | true =>
          rw [answer_of_reserved hversion hreserved, Logged.value_pure, Logged.log_pure]
          exact .reserved hversion hreserved _ isLines_reservedLines
      | false => exact outcome_of_report hversion hreserved

namespace Outcome

variable {o : Options} {ran : Logged Output}

/-- No outcome is a fault of the command. -/
theorem exitCode_eq (h : Outcome o ran) : ran.value.exitCode = 0 ∨ ran.value.exitCode = 1 := by
  cases h with
  | targetVersion | reserved | files => exact Or.inl rfl
  | nameAbsent | nameEmpty | kind => exact Or.inr rfl

/-- An error is all that there is of a run: nothing is printed, and no symbol is looked at. -/
theorem silent_of_error (h : Outcome o ran) (hexit : ran.value.exitCode = 1) :
    ran.value.stdout = "" ∧ ∀ r ∈ ran.log, ¬ IsAboutSymbols r := by
  cases h with
  | targetVersion | reserved | files => exact absurd hexit (by decide : (0 : UInt8) ≠ 1)
  | nameAbsent | nameEmpty =>
      refine ⟨rfl, ?_⟩
      intro r hr
      rw [List.mem_singleton.mp hr]
      exact not_false
  | kind =>
      refine ⟨rfl, ?_⟩
      intro r hr
      rcases List.mem_cons.mp hr with rfl | hr
      · exact not_false
      · rw [List.mem_singleton.mp hr]
        exact not_false

end Outcome

end GrammarTarget.CommandLine
