import GrammarTarget.CommandLine.Console
import GrammarTarget.Proofs.Outcome

/-!
# The steps of the console come to the run

What a computation at the console comes to is given without the logger: a value, a text on either
channel and the records of all its log sites (`Console.Yields`). The logger may choose among these
records, and can change nothing else. Computations that only ask and tell are given by a logged
value (`Console.Mirrors`); those that end the command, by the output of a run (`Console.Prints`).

Each step is followed by the step of the same name of the run, and in the end the whole command by
`run` (`Console.prints_command`).
-/

namespace GrammarTarget.CommandLine

open Log (Logged Record Logger)

namespace Console

variable {α β : Type}

/-- A computation comes to `a`, writes `out` and `err` and hands over `records`, whatever is shown;
    the events have those of the records that are. -/
structure Yields (x : Console α) (a : α) (out err : String) (records : List Record) : Prop where
  value  : ∀ shown, (x.run shown).1 = a
  stdout : ∀ shown, String.join ((x.run shown).2.map Event.stdoutText) = out
  stderr : ∀ shown, String.join ((x.run shown).2.map Event.stderrText) = err
  record : ∀ shown, (x.run shown).2.filterMap Event.record? = records.filter shown

/-- A computation that prints nothing, given by the value that it comes to and the records. -/
def Mirrors (x : Console α) (y : Logged α) : Prop :=
  Yields x y.value "" "" y.log

/-- A computation that ends with an exit code, given by what it leaves behind and the records. -/
def Prints (x : Console UInt8) (y : Logged Output) : Prop :=
  Yields x y.value.exitCode y.value.stdout y.value.stderr y.log

/-! ## Single steps -/

theorem yields_pure (a : α) : Yields (pure a) a "" "" [] :=
  ⟨fun _ => rfl, fun _ => rfl, fun _ => rfl, fun _ => rfl⟩

theorem yields_print (text : String) : Yields (print text) () text "" [] :=
  ⟨fun _ => rfl, fun _ => String.empty_append, fun _ => rfl, fun _ => rfl⟩

/-- What the command says of itself stands on standard error. -/
theorem yields_eprint (text : String) : Yields (eprint text) () "" text [] :=
  ⟨fun _ => rfl, fun _ => rfl, fun _ => String.empty_append, fun _ => rfl⟩

/-- The one step that asks the logger: the answer decides on the record and on nothing else. -/
theorem yields_tell (r : Record) : Yields (tell r) () "" "" [r] := by
  refine ⟨fun _ => rfl, ?_, ?_, ?_⟩
  all_goals
    intro shown
    cases h : shown r <;> simp [tell, h, Event.stdoutText, Event.stderrText, Event.record?]

/-- One computation after another writes the texts and the records of both. -/
theorem Yields.bind {x : Console α} {f : α → Console β} {a : α} {b : β} {out err out' err' : String}
    {records records' : List Record} (hx : Yields x a out err records)
    (hf : Yields (f a) b out' err' records') :
    Yields (x >>= f) b (out ++ out') (err ++ err') (records ++ records') := by
  -- the first part comes to `a` whatever is shown, so the second part is always the same
  have hrun : ∀ shown, (x >>= f).run shown =
      (((f a).run shown).1, (x.run shown).2 ++ ((f a).run shown).2) := by
    intro shown
    rw [← hx.value shown]
    rfl
  constructor
  · intro shown
    rw [hrun, hf.value]
  · intro shown
    rw [hrun, List.map_append, String.join_append, hx.stdout, hf.stdout]
  · intro shown
    rw [hrun, List.map_append, String.join_append, hx.stderr, hf.stderr]
  · intro shown
    rw [hrun, List.filterMap_append, hx.record, hf.record, List.filter_append]

/-- A step that comes to nothing passes nothing on. -/
theorem Yields.andThen {x : Console Unit} {y : Console β} {b : β} {out err out' err' : String}
    {records records' : List Record} (hx : Yields x () out err records)
    (hy : Yields y b out' err' records') :
    Yields (x >>= fun _ => y) b (out ++ out') (err ++ err') (records ++ records') :=
  hx.bind hy

/-- With an exit code behind it a step ends the command. -/
theorem Yields.ends {x : Console Unit} {out err : String} {records : List Record}
    (h : Yields x () out err records) (code : UInt8) :
    Prints (x >>= fun _ => pure code) ⟨⟨code, out, err⟩, records⟩ := by
  have hends := h.andThen (yields_pure code)
  rwa [String.append_empty, String.append_empty, List.append_nil] at hends

/-- A step taken for each element writes what it writes for one after the other. -/
theorem Yields.forM {f : α → Console Unit} {out err : α → String} {records : α → List Record}
    (h : ∀ a, Yields (f a) () (out a) (err a) (records a)) (as : List α) :
    Yields (as.forM f) () (String.join (as.map out)) (String.join (as.map err))
      (as.flatMap records) := by
  induction as with
  | nil => exact yields_pure ()
  | cons a as ih =>
      rw [List.map_cons, List.map_cons, String.join_cons, String.join_cons, List.flatMap_cons]
      exact (h a).bind ih

/-- Steps that write nothing to a channel leave it empty, however many there are. -/
theorem join_map_empty (as : List α) : String.join (as.map fun _ => "") = "" := by
  induction as with
  | nil => rfl
  | cons a as ih => rw [List.map_cons, String.join_cons, ih, String.empty_append]

/-- Lines that are printed one by one stand on standard output in their order. -/
theorem yields_forM_print (line : α → String) (as : List α) :
    Yields (as.forM fun a => print (line a)) () (String.join (as.map line)) "" [] := by
  have h := Yields.forM (fun a => yields_print (line a)) as
  rwa [join_map_empty, List.flatMap_eq_nil_iff.mpr fun _ _ => rfl] at h

/-- Lines that are written one by one stand on standard error in their order. -/
theorem yields_forM_eprint (line : α → String) (as : List α) :
    Yields (as.forM fun a => eprint (line a)) () "" (String.join (as.map line)) [] := by
  have h := Yields.forM (fun a => yields_eprint (line a)) as
  rwa [join_map_empty, List.flatMap_eq_nil_iff.mpr fun _ _ => rfl] at h

/-! ## What is asked and told -/

theorem mirrors_pure (a : α) : Mirrors (pure a) (pure a) :=
  yields_pure a

theorem mirrors_tell (r : Record) : Mirrors (tell r) (Logged.write r) :=
  yields_tell r

/-- One computation after another is given by one logged value after the other. -/
theorem Mirrors.bind {x : Console α} {y : Logged α} {f : α → Console β} {g : α → Logged β}
    (hx : Mirrors x y) (hf : ∀ a, Mirrors (f a) (g a)) : Mirrors (x >>= f) (y >>= g) :=
  Yields.bind hx (hf y.value)

/-- The output of a computation that ends the command is that of its last part, if what comes before
    only asks and tells. -/
theorem Mirrors.bind_prints {x : Console α} {y : Logged α} {f : α → Console UInt8}
    {g : α → Logged Output} (hx : Mirrors x y) (hf : Prints (f y.value) (g y.value)) :
    Prints (x >>= f) (y >>= g) := by
  have h := Yields.bind hx hf
  rwa [String.empty_append, String.empty_append] at h

/-- Records that are handed over in turn are written in turn. -/
theorem mirrors_tellAll (records : List Record) :
    Mirrors (records.forM tell) (Logged.writeAll records) := by
  have h := Yields.forM yields_tell records
  rwa [join_map_empty, List.flatMap_singleton'] at h

/-- A test that is asked of each element is followed element by element. -/
theorem Mirrors.filterEach {p : α → Console Bool} {q : α → Logged Bool}
    (h : ∀ a, Mirrors (p a) (q a)) (as : List α) :
    Mirrors (filterEach p as) (Logged.filterEach q as) := by
  induction as with
  | nil => exact mirrors_pure []
  | cons a as ih => exact (h a).bind fun keep => ih.bind fun rest => mirrors_pure _

/-! ## The library -/

variable (t : Target)

/-- Loading the target has one log site, that of the table. -/
theorem mirrors_load : Mirrors load Target.load :=
  (mirrors_tell _).bind fun _ => mirrors_pure _

/-- The log site of a collision is reached only if there is one. -/
theorem mirrors_collides (text : String) : Mirrors (collides t text) (t.collides text) := by
  rw [collides, Target.collides]
  split
  · exact (mirrors_tell _).bind fun _ => mirrors_pure _
  · exact mirrors_pure _

/-- What is found and told of texts is what a target finds and tells of them. -/
theorem mirrors_collisions (texts : List String) :
    Mirrors (collisions t texts) (t.collisions texts) := by
  rw [collisions, Target.collisions, HasText.map_text]
  exact (Mirrors.filterEach (mirrors_collides t) texts).bind fun found =>
    (mirrors_tellAll _).bind fun _ => mirrors_pure found

/-- The log site of a missing name is reached only without a kind. -/
theorem mirrors_recognizerFile (n : DeclaredName) (kind? : Option Kind) (header : Bool) :
    Mirrors (recognizerFile t n kind? header) (t.recognizerFile n kind? header) := by
  cases kind? with
  | some kind => exact mirrors_pure _
  | none => exact (mirrors_tell _).bind fun _ => mirrors_pure _

theorem mirrors_artifactFiles (n : DeclaredName) (kind? : Option Kind) (header : Bool) :
    Mirrors (artifactFiles t n kind? header) (t.artifactFiles n kind? header) :=
  (mirrors_recognizerFile t n kind? header).bind fun _ => mirrors_pure _

/-! ## The command -/

variable (o : Options)

/-- The symbols are checked: what is written to standard error are the warnings. -/
theorem yields_checkSymbols :
    Yields (checkSymbols t o) () ""
      (String.join ((CommandLine.checkSymbols t o).value.map (·.line t.language)))
      (CommandLine.checkSymbols t o).log := by
  have hwarns := yields_forM_eprint
    (fun symbol => Warning.line t.language ⟨symbol, t.reserved.category? symbol⟩)
    (t.collisions o.symbols).value
  -- all collisions are told before the first warning, and the whole check after the last
  have hrest := hwarns.andThen
    (yields_tell (.symbolsChecked o.symbols.length (t.collisions o.symbols).value.length))
  have h : Yields (checkSymbols t o) () _ _ _ := Yields.bind (mirrors_collisions t o.symbols) hrest
  simpa [CommandLine.checkSymbols, Function.comp_def] using h

/-- Where there is no report, the reason stands on standard error. -/
theorem prints_fail (language : String) (e : ReportError) :
    Prints (fail e) (pure (Output.ofReport language (.error e))) :=
  (yields_eprint e.message).ends e.exitCode

/-- The files stand on standard output, and nothing is printed of a grammar whose files are not
    valid. -/
theorem prints_reportOn (name : String) (files : ArtifactNames) :
    Prints (reportOn t o name files)
      (Output.ofReport t.language <$> CommandLine.reportOn t o name files) := by
  rw [reportOn, CommandLine.reportOn]
  by_cases hvalid : files.isValid = true
  · rw [if_pos hvalid, if_pos hvalid]
    -- the files are printed before any symbol is looked at
    have h := (yields_forM_print fileLine files.toList).andThen ((yields_checkSymbols t o).ends 0)
    simpa [Prints, Output.ofReport, Report.fileLines, Report.warningLines] using h
  · rw [if_neg hvalid, if_neg hvalid]
    cases Kind.ofTag o.kindTag with
    | error e => exact prints_fail t.language (.kind e)
    | ok k => exact prints_fail t.language (.unnamed name)

/-- The guards on the name are passed in the same order. -/
theorem prints_report :
    Prints (report t o) (Output.ofReport t.language <$> CommandLine.report t o) := by
  rw [report, CommandLine.report]
  cases hname : o.name? with
  | none => exact prints_fail t.language .nameAbsent
  | some name =>
      by_cases hempty : name = ""
      · simp only [if_pos hempty]
        exact prints_fail t.language .nameEmpty
      · simp only [if_neg hempty]
        -- the name that the files are asked for is the one that has passed the guards
        cases h : o.grammar.descriptor.declaredName with
        | error e =>
            rw [Descriptor.artifactFiles_of_error t o.header h]
            exact prints_fail t.language (.naming e)
        | ok n =>
            rw [Descriptor.artifactFiles_of_ok t o.header h, map_bind]
            exact (mirrors_artifactFiles t n _ _).bind_prints (prints_reportOn t o name _)

/-- What is answered is printed, in the same order of precedence. -/
theorem prints_answer : Prints (answer t o) (CommandLine.answer t o) := by
  rw [answer, CommandLine.answer]
  split
  · exact (yields_print (targetLine t)).ends 0
  · split
    · exact (yields_forM_print reservedLine t.reserved.toList).ends 0
    · exact prints_report t o

/-- **The steps of the command come to its run.** Whatever the logger shows, they end with the exit
    code of the run and leave its texts on either channel, and what is shown is chosen from its log
    in order. -/
theorem prints_command (args : List String) : Prints (command args) (CommandLine.run args) := by
  rw [command, CommandLine.run]
  cases Options.ofArguments args with
  | error stop =>
      cases stop with
      | help => exact (yields_print helpText).ends 0
      | version => exact (yields_print versionText).ends 0
      | refused e => exact (yields_eprint e.headline).ends 2
  | ok o => exact mirrors_load.bind_prints (f := fun t => answer t o) (prints_answer _ o)

end Console

/-! ## Executions -/

section Execution

variable (g : Logger) (setting? : Option String) (args : List String)

/-- What the command itself leaves behind is the output of its run, under any logger and setting. -/
theorem own_execute : (execute g setting? args).own = (run args).value := by
  have hcommand := Console.prints_command args
  simp only [Execution.own, execute, hcommand.value, hcommand.stdout, hcommand.stderr]

/-- On standard error a notice of the logger comes before it, and there is nothing else besides the
    lines of the log. -/
theorem withoutLog_execute :
    (execute g setting? args).withoutLog
      = { (run args).value with stderr := g.notice setting? ++ (run args).value.stderr } := by
  rw [Execution.withoutLog, own_execute]
  rfl

/-- The log has the lines of those records of the run that the logger shows. -/
theorem log_execute :
    (execute g setting? args).log
      = ((run args).log.filter (g.shows setting?)).map Record.line := by
  rw [Execution.log, execute, (Console.prints_command args).record]

end Execution

end GrammarTarget.CommandLine
