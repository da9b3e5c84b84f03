import GrammarTarget.Proofs.ConsoleSteps
import GrammarTarget.Proofs.Warnings

/-!
# The setting of the log changes the log alone

A run has one output, whatever the logger makes of its setting, and a setting selects lines from one
log, the most detailed. Which lines the name of a level selects can be told from their text: a line
begins with the level of its record (`Level.ofLine?_line`), and goes on with the channel, so that
lines of different channels are never the same (`Record.source_eq_of_line_eq`).

The table of reserved words is told of on a channel of its own. It is built once, when a command
line has been accepted, and nothing that follows writes to that channel (`tableSilent_answer`).
-/

namespace GrammarTarget

namespace Log

/-! ## What the text of a line tells -/

namespace Level

/-- The levels, from the gravest on. -/
def all : List Level := [error, warn, info, debug, trace]

/-- The beginning of the lines of a level. -/
def mark (l : Level) : List Char :=
  '[' :: (Text.alignLeft 5 l.heading).toList

/-- The level that a line begins with. -/
def ofLine? (line : String) : Option Level :=
  all.find? fun l => l.mark.isPrefixOf line.toList

/-- Whether a record of this level is as grave as one of level `l`, or graver. -/
def isAtLeast (m l : Level) : Bool :=
  m.rank ≤ l.rank

end Level

/-- The level and the channel of a record. -/
def Record.source (r : Record) : Level × String :=
  (r.level, r.channel)

/-- The levels and channels that records are written with. -/
def sources : List (Level × String) :=
  [(.debug, "rusttarget_rust::reserved"), (.trace, "rusttarget_rust"),
   (.debug, "rusttarget_codegen"), (.warn, "rusttarget_rust::naming"), (.info, "rusttarget")]

/-- The beginning of the lines of a level on a channel. -/
def lineHead (source : Level × String) : List Char :=
  source.1.mark ++ ' ' :: (source.2.toList ++ [']'])

/-- The records of the program are written at these few places. -/
theorem Record.source_mem (r : Record) : r.source ∈ sources := by
  cases r <;> simp [source, sources, level, channel]

/-- A line begins with the level and the channel of its record, whatever the text. -/
theorem Record.lineHead_isPrefix (r : Record) : lineHead r.source <+: r.line.toList :=
  ⟨' ' :: (Text.untilLineFeed (Text.plain r.text)).toList, by
    simp [lineHead, source, line, Level.mark, String.toList_append]⟩

/-- No beginning is the beginning of another. -/
theorem eq_of_lineHead_isPrefix :
    ∀ p ∈ sources, ∀ q ∈ sources, lineHead p <+: lineHead q → p = q := by
  decide +kernel

/-- Lines that are equal come from one place. -/
theorem Record.source_eq_of_line_eq {r s : Record} (h : r.line = s.line) : r.source = s.source := by
  have hr : lineHead r.source <+: s.line.toList := h ▸ r.lineHead_isPrefix
  rcases List.prefix_or_prefix_of_prefix hr s.lineHead_isPrefix with hrs | hsr
  · exact eq_of_lineHead_isPrefix _ r.source_mem _ s.source_mem hrs
  · exact (eq_of_lineHead_isPrefix _ s.source_mem _ r.source_mem hsr).symm

/-- A line begins with the mark of one level only, since all marks are of the same width. -/
theorem Level.mark_prefix_iff {l m : Level} {cs : List Char} :
    l.mark <+: m.mark ++ cs ↔ l = m := by
  -- marks are of one length, so of two that begin a text neither is longer
  have hlength : l.mark.length = m.mark.length := by
    cases l <;> cases m <;> decide
  constructor
  · intro h
    have heq : l.mark = m.mark :=
      (List.prefix_of_prefix_length_le h (List.prefix_append m.mark cs)
        (Nat.le_of_eq hlength)).eq_of_length hlength
    revert heq
    cases l <;> cases m <;> decide
  · rintro rfl
    exact List.prefix_append l.mark cs

/-- A line tells the level of its record. -/
theorem Level.ofLine?_line (r : Record) : Level.ofLine? r.line = some r.level := by
  obtain ⟨cs, hcs⟩ := r.lineHead_isPrefix
  have hline : r.line.toList = r.level.mark ++ (' ' :: (r.channel.toList ++ [']']) ++ cs) := by
    rw [← hcs, lineHead, List.append_assoc]
    rfl
  have htest : ∀ l : Level, l.mark.isPrefixOf r.line.toList = decide (l = r.level) := by
    intro l
    rw [Bool.eq_iff_iff, List.isPrefixOf_iff_prefix, decide_eq_true_iff, hline, mark_prefix_iff]
  -- the first level that passes is the only one that does
  rw [ofLine?]
  simp only [htest]
  cases r.level <;> rfl

/-! ## Settings -/

/-- The label of a level is a setting that asks for this level. -/
theorem named?_label (l : Level) : named? (some l.label) = some (some l) := by
  cases l <;> rfl

/-- A setting selects lines from the most detailed log, and their text tells which. -/
theorem lines_eq_filter (l : Level) (records : List Record) :
    lines (some l) records
      = (lines (some .trace) records).filter fun line =>
          (Level.ofLine? line).any (·.isAtLeast l) := by
  have hshown : ∀ r : Record,
      r.isShown (some l) = (Level.ofLine? r.line).any (·.isAtLeast l) := by
    intro r
    rw [Level.ofLine?_line]
    rfl
  rw [CommandLine.lines_trace, List.filter_map, lines]
  exact congrArg (List.map Record.line) (List.filter_congr fun r _ => hshown r)

/-- The program writes no record of an error: errors go to standard error. -/
theorem level_ne_error (r : Record) : r.level ≠ .error := by
  cases r <;> exact nofun

theorem lines_of_hidden {shown? : Option Level} (h : ∀ r : Record, r.isShown shown? = false)
    (records : List Record) : lines shown? records = [] := by
  rw [lines, List.filter_eq_nil_iff.mpr fun r _ => Bool.eq_false_iff.mp (h r), List.map_nil]

/-- No record is an error, so a log that shows errors alone is empty. -/
theorem lines_error (records : List Record) : lines (some .error) records = [] := by
  refine lines_of_hidden ?_ records
  intro r
  cases r <;> rfl

theorem lines_none (records : List Record) : lines none records = [] :=
  lines_of_hidden (fun _ => rfl) records

end Log

open Log (Logged Record Level Logger)

/-! ## Records of the table -/

/-- A record tells of the table being built. -/
def Log.Record.IsTableBuilt : Record → Prop
  | .tableBuilt .. => True
  | _              => False

/-- Only the record of a table being built stands on its channel. -/
theorem Log.Record.isTableBuilt_of_source {r : Record} {language : String} {size : Nat}
    (h : r.source = (Record.tableBuilt language size).source) : r.IsTableBuilt := by
  cases r with
  | tableBuilt => trivial
  | collision | collisionCount | unnamedRecognizer | symbolsChecked =>
      simp [Record.source, Record.level, Record.channel] at h

/-- Nothing is told of a table on the way to a value. -/
def Log.Logged.TableSilent {α : Type} (x : Logged α) : Prop :=
  ∀ r ∈ x.log, ¬ r.IsTableBuilt

namespace Log.Logged

variable {α β : Type}

theorem tableSilent_pure (a : α) : (pure a : Logged α).TableSilent := by
  intro r hr
  exact nomatch hr

theorem TableSilent.bind {x : Logged α} {f : α → Logged β} (hx : x.TableSilent)
    (hf : ∀ a, (f a).TableSilent) : (x >>= f).TableSilent := by
  intro r hr
  rw [log_bind] at hr
  rcases List.mem_append.mp hr with hr | hr
  · exact hx r hr
  · exact hf _ r hr

theorem TableSilent.map {x : Logged α} (hx : x.TableSilent) (f : α → β) :
    (f <$> x).TableSilent := by
  intro r hr
  rw [log_map] at hr
  exact hx r hr

end Log.Logged

open Log.Logged (tableSilent_pure)

/-- Naming files may tell that a name is missing, but nothing of the table. -/
theorem Target.tableSilent_artifactFiles (t : Target) (n : DeclaredName) (kind? : Option Kind)
    (header : Bool) : (t.artifactFiles n kind? header).TableSilent := by
  intro r hr
  cases kind? with
  | some k => exact nomatch hr
  | none =>
      rw [List.mem_singleton.mp hr]
      exact not_false

namespace CommandLine

variable (t : Target) (o : Options)

/-- What is told of symbols is not told of the table, although the table is asked. -/
theorem tableSilent_checkSymbols : (checkSymbols t o).TableSilent := by
  intro r hr
  rw [log_checkSymbols, List.mem_append, List.mem_append] at hr
  rcases hr with (hr | hr) | hr
  -- the three kinds of records of a check: collisions, their number, the check as a whole
  · obtain ⟨w, -, rfl⟩ := List.mem_map.mp hr
    exact not_false
  · split at hr
    · rw [List.mem_singleton.mp hr]
      exact not_false
    · exact nomatch hr
  · rw [List.mem_singleton.mp hr]
    exact not_false

theorem tableSilent_reportOn (name : String) (files : ArtifactNames) :
    (reportOn t o name files).TableSilent := by
  rw [reportOn]
  split
  · exact (tableSilent_checkSymbols t o).bind fun _ => tableSilent_pure _
  · split <;> exact tableSilent_pure _

/-- No way to a report, and no reason against one, has the table built again. -/
theorem tableSilent_report : (report t o).TableSilent := by
  cases hname : o.name? with
  | none =>
      rw [report_of_absent hname]
      exact tableSilent_pure _
  | some name =>
      by_cases hempty : name = ""
      · subst hempty
        rw [report_of_empty hname]
        exact tableSilent_pure _
      · have hn : o.name? = some (DeclaredName.mk name hempty).text := hname
        rw [report_of_name hn]
        exact (t.tableSilent_artifactFiles _ _ _).bind fun _ => tableSilent_reportOn t o _ _

/-- Once a target is loaded its table is not built again, whatever is asked for. -/
theorem tableSilent_answer : (answer t o).TableSilent := by
  rw [answer]
  split
  · exact tableSilent_pure _
  · split
    · exact tableSilent_pure _
    · exact (tableSilent_report t o).map _

/-- The line that tells of the table. -/
def tableLine : String :=
  "[DEBUG rusttarget_rust::reserved] built table of 113 reserved Rust identifiers"

/-- The record of the standard table reads so in a log. -/
theorem line_tableRecord : tableRecord.line = tableLine := by
  decide +kernel

/-- The most detailed log of a run that was accepted tells of the table first, and once. -/
theorem lines_run_of_ok {args : List String} {o : Options} (h : Options.ofArguments args = .ok o) :
    ∃ rest, Log.lines (some .trace) (run args).log = tableLine :: rest ∧ tableLine ∉ rest := by
  refine ⟨(answer Target.rust o).log.map Record.line, ?_, ?_⟩
  · rw [lines_trace, run_of_ok h, List.map_cons, line_tableRecord]
  · intro hmem
    obtain ⟨r, hr, hline⟩ := List.mem_map.mp hmem
    rw [← line_tableRecord] at hline
    exact tableSilent_answer _ o r hr
      (Record.isTableBuilt_of_source (Record.source_eq_of_line_eq hline))

/-! ## Runs under a setting -/

section Setting

variable {g : Logger} {setting? : Option String}

/-- A logger that reads names shows the lines of the level that a setting names. -/
theorem log_execute_of_named (hg : g.ReadsNames) {most? : Option Level}
    (h : Log.named? setting? = some most?) (args : List String) :
    (execute g setting? args).log = Log.lines most? (run args).log := by
  have hshows : g.shows setting? = (·.isShown most?) := funext (hg.shows_named h)
  rw [log_execute, hshows, Log.lines]

/-- Of a setting that it can read the logger says nothing, so with the log lines taken out there is
    just what the command leaves behind. -/
theorem withoutLog_execute_of_accepted (hg : g.ReadsNames) (h : g.accepts setting? = true)
    (args : List String) : (execute g setting? args).withoutLog = (run args).value := by
  rw [withoutLog_execute, hg.notice_accepted h, String.empty_append]

/-- No setting shows a line that the most detailed log lacks, or in another order. -/
theorem log_execute_sublist (g : Logger) (setting? : Option String) (args : List String) :
    (execute g setting? args).log.Sublist (Log.lines (some .trace) (run args).log) := by
  rw [log_execute, lines_trace]
  exact List.filter_sublist.map Record.line

end Setting

/-- What a run comes to under a setting of the logger: what it leaves behind when the log lines are
    taken out, and these lines. -/
def RunsTo (g : Logger) (args : List String) (setting? : Option String) (output : Output)
    (log : List String) : Prop :=
  (execute g setting? args).withoutLog = output ∧ (execute g setting? args).log = log

/-- Under a setting that is one of the names, a run comes to its output and to the lines of that
    level. -/
theorem runsTo_of_named {g : Logger} (hg : g.ReadsNames) {setting? : Option String}
    {most? : Option Level} (h : Log.named? setting? = some most?) (args : List String) :
    RunsTo g args setting? (run args).value (Log.lines most? (run args).log) :=
  ⟨withoutLog_execute_of_accepted hg (hg.accepts_named h) args, log_execute_of_named hg h args⟩

end CommandLine

end GrammarTarget
