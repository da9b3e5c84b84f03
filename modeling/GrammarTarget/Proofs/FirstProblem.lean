import GrammarTarget.Log.Logger
import GrammarTarget.Proofs.Outcome

/-!
# The first problem ends a run

Arguments are read one by one, and the reading is a machine with three kinds of stages: it reads
options, or takes symbols only, or has stopped (`Stage`). Where it has stopped it stays, so nothing
that comes later is even looked at (`Stage.foldl_stopped`).

What is left are the problems that no argument shows, but the end of the arguments does. They are
about a setting that is open there, and the last arguments tell when one is
(`Stage.exists_of_waiting`, `Stage.exists_of_given`). A setting without a value may still get one.
One that repeats another is refused in any case; but an argument that is refused at sight, before
what is open is settled, takes its place (`Stage.foldl_of_error`).
-/

namespace GrammarTarget.CommandLine

/-! ## Reading as a machine -/

/-- How far the reading of a command line has come. -/
inductive Stage where
  /-- Options and symbols are read. -/
  | reading (p : Progress)
  /-- A separator has been read. -/
  | symbols (o : Options)
  | stopped (stop : Stop)

namespace Stage

/-- Reads one more argument. -/
def next : Stage → String → Stage
  | reading p, arg =>
    match p.step (Argument.ofText arg) with
    | .error stop => stopped stop
    | .ok p       => if Argument.ofText arg = .separator then symbols p.options else reading p
  | symbols o, arg => symbols (o.addSymbols [arg])
  | stopped stop, _ => stopped stop

/-- What has been read if the arguments end here. -/
def finish : Stage → Except Stop Options
  | reading p    => p.settle
  | symbols o    => .ok o
  | stopped stop => .error stop

/-- The stage after arguments. -/
def after (args : List String) : Stage :=
  args.foldl next (reading {})

/-- Behind a separator the reading only collects. -/
theorem foldl_symbols (o : Options) (args : List String) :
    args.foldl next (symbols o) = symbols (o.addSymbols args) := by
  induction args generalizing o with
  | nil => rw [Options.addSymbols_nil]; rfl
  | cons arg args ih =>
      rw [List.foldl_cons, next, ih, Options.addSymbols, Options.addSymbols, Options.addSymbols,
        List.append_assoc, List.singleton_append]

/-- Where the reading has stopped it stays. -/
theorem foldl_stopped (stop : Stop) (args : List String) :
    args.foldl next (stopped stop) = stopped stop := by
  induction args with
  | nil => rfl
  | cons arg args ih => rw [List.foldl_cons, next, ih]

/-- The machine reads what the reader of the command line reads. -/
theorem read_eq_finish (p : Progress) (args : List String) :
    p.read args = (args.foldl next (reading p)).finish := by
  induction args generalizing p with
  | nil => rfl
  | cons arg args ih =>
      rw [Progress.read, List.foldl_cons, next]
      -- what stops the one stops the other, and behind a separator both only collect
      cases p.step (Argument.ofText arg) with
      | error stop =>
          rw [foldl_stopped]
          rfl
      | ok p' =>
          show (if Argument.ofText arg = .separator then _ else p'.read args) = _
          by_cases hsep : Argument.ofText arg = .separator
          · rw [if_pos hsep]
            dsimp only
            rw [if_pos hsep, foldl_symbols]
            rfl
          · rw [if_neg hsep]
            dsimp only
            rw [if_neg hsep, ih]

end Stage

/-- A command line is read by the machine from its first stage. -/
theorem ofArguments_eq_finish (args : List String) :
    Options.ofArguments args = (Stage.after args).finish :=
  Stage.read_eq_finish {} args

/-! ## Open settings -/

theorem Progress.eq_of_awaiting? {p : Progress} {s : Setting} (h : p.awaiting? = some s) :
    p = ⟨p.options, some ⟨s, none⟩⟩ := by
  obtain ⟨o, - | ⟨s', - | v⟩⟩ := p
  · exact nomatch h
  · cases h
    rfl
  · exact nomatch h

/-- If one attempt after another succeeds, both have. -/
theorem exists_of_bind_eq_ok {ε α β : Type} {x : Except ε α} {f : α → Except ε β} {b : β}
    (h : x >>= f = .ok b) : ∃ a, x = .ok a ∧ f a = .ok b := by
  cases x with
  | error e => exact nomatch h
  | ok a => exact ⟨a, rfl, h⟩

/-- What a step leaves open: nothing, or a setting that has just been named, or one that waited and
    has been given its value. -/
theorem Progress.open_cases {p p' : Progress} {a : Argument} (h : p.step a = .ok p') :
    p'.pending? = none ∨
    (∃ s, a = .setting s none ∧ p.settle = .ok p'.options ∧ p'.pending? = some ⟨s, none⟩) ∨
    (∃ s v, a = .plain v ∧ p = ⟨p'.options, some ⟨s, none⟩⟩ ∧ p'.pending? = some ⟨s, some v⟩) := by
  -- all but a setting without its value and the value that comes to it store what they have
  cases a with
  | separator =>
      obtain ⟨o, -, ho⟩ := exists_of_bind_eq_ok h
      cases ho
      exact Or.inl rfl
  | setting s value? =>
      cases value? with
      | none =>
          obtain ⟨o, hsettle, ho⟩ := exists_of_bind_eq_ok h
          cases ho
          exact Or.inr (Or.inl ⟨s, rfl, hsettle, rfl⟩)
      | some v =>
          obtain ⟨o, -, hassign⟩ := exists_of_bind_eq_ok h
          obtain ⟨o', -, ho'⟩ := exists_of_bind_eq_ok hassign
          cases ho'
          exact Or.inl rfl
  | switch switch value? =>
      cases value? with
      | none =>
          obtain ⟨o, -, hturn⟩ := exists_of_bind_eq_ok h
          obtain ⟨o', -, ho'⟩ := exists_of_bind_eq_ok hturn
          cases ho'
          exact Or.inl rfl
      | some v => exact nomatch h
  | unknown shown => exact nomatch h
  | plain text =>
      rw [step] at h
      cases hwait : p.awaiting? with
      | none =>
          rw [hwait] at h
          obtain ⟨o, -, ho⟩ := exists_of_bind_eq_ok h
          cases ho
          exact Or.inl rfl
      | some s =>
          rw [hwait] at h
          cases h
          exact Or.inr (Or.inr ⟨s, text, rfl, eq_of_awaiting? hwait, rfl⟩)

namespace Stage

theorem after_concat (args : List String) (arg : String) :
    after (args ++ [arg]) = (after args).next arg := by
  rw [after, List.foldl_append]
  rfl

theorem after_append (args more : List String) :
    after (args ++ more) = more.foldl next (after args) :=
  List.foldl_append

/-- Where options are still read, they were read before, and the argument was accepted. -/
theorem next_eq_reading {s : Stage} {arg : String} {p' : Progress} (h : s.next arg = reading p') :
    ∃ p, s = reading p ∧ p.step (Argument.ofText arg) = .ok p' := by
  cases s with
  | symbols o => exact nomatch h
  | stopped stop => exact nomatch h
  | reading p =>
      refine ⟨p, rfl, ?_⟩
      rw [next] at h
      cases hstep : p.step (Argument.ofText arg) with
      | error stop =>
          rw [hstep] at h
          exact nomatch h
      | ok p'' =>
          rw [hstep] at h
          dsimp only at h
          split at h
          · exact nomatch h
          · rw [reading.inj h]

/-- The last argument opens the setting that waits for a value, and all before it is accepted. -/
theorem exists_of_waiting {args : List String} {o : Options} {s : Setting}
    (h : after args = reading ⟨o, some ⟨s, none⟩⟩) :
    ∃ front arg, args = front ++ [arg] ∧ Argument.ofText arg = .setting s none ∧
      Options.ofArguments front = .ok o := by
  rcases List.eq_nil_or_concat args with rfl | ⟨front, arg, rfl⟩
  · exact nomatch h
  · rw [List.concat_eq_append, after_concat] at h
    obtain ⟨p, hp, hstep⟩ := next_eq_reading h
    rcases Progress.open_cases hstep with hnone | ⟨s', harg, hsettle, hopen⟩ | ⟨s', v, -, -, hopen⟩
    · exact nomatch hnone
    · cases hopen
      refine ⟨front, arg, List.concat_eq_append, harg, ?_⟩
      rw [ofArguments_eq_finish, hp]
      exact hsettle
    · exact nomatch hopen

/-- The last two arguments are a setting that is open and its value. -/
theorem exists_of_given {args : List String} {o : Options} {s : Setting} {v : String}
    (h : after args = reading ⟨o, some ⟨s, some v⟩⟩) :
    ∃ front arg value, args = front ++ [arg, value] ∧ Argument.ofText arg = .setting s none ∧
      Argument.ofText value = .plain v ∧ Options.ofArguments front = .ok o := by
  rcases List.eq_nil_or_concat args with rfl | ⟨middle, value, rfl⟩
  · exact nomatch h
  · rw [List.concat_eq_append, after_concat] at h
    obtain ⟨p, hp, hstep⟩ := next_eq_reading h
    rcases Progress.open_cases hstep with hnone | ⟨s', -, -, hopen⟩ | ⟨s', v', hvalue, hwait, hopen⟩
    · exact nomatch hnone
    · exact nomatch hopen
    · cases hopen
      -- the value came to a setting that waited, and what opened that one stands right before it
      rw [hwait] at hp
      obtain ⟨front, arg, rfl, harg, hfront⟩ := exists_of_waiting hp
      exact ⟨front, arg, value, by simp, harg, hvalue, hfront⟩

end Stage

/-! ## What only the end of the arguments shows -/

/-- The last argument is an option whose value is still to come. What stands before it is accepted
    by itself. -/
def AwaitsValue (args : List String) : Prop :=
  ∃ front arg s o, args = front ++ [arg] ∧ Argument.ofText arg = .setting s none ∧
    Options.ofArguments front = .ok o

/-- The last two arguments are an option and its value. What stands before them is accepted by
    itself, and has given this option already. -/
def RepeatsAtEnd (args : List String) : Prop :=
  ∃ front arg value s v o, args = front ++ [arg, value] ∧ Argument.ofText arg = .setting s none ∧
    Argument.ofText value = .plain v ∧ Options.ofArguments front = .ok o ∧ (o.value? s).isSome

/-- The error of an argument that is refused without a look at what is open: an unknown option, or
    a value attached to a switch. -/
def Argument.refusal? : Argument → Option UsageError
  | .switch s (some value) => some (.unexpectedValue s value)
  | .unknown shown         => some (.unexpectedArgument shown)
  | _                      => none

/-- The error of the first argument if it is refused at sight. -/
def refusalAtSight? : List String → Option UsageError
  | []       => none
  | arg :: _ => (Argument.ofText arg).refusal?

/-- What is open cannot be settled: any argument brings this to light, unless it is refused at
    sight. -/
theorem Progress.step_of_error {p : Progress} {stop : Stop} (h : p.settle = .error stop)
    (hwait : p.awaiting? = none) (a : Argument) :
    p.step a = .error (a.refusal?.elim stop .refused) := by
  cases a with
  | separator => rw [step, h]; rfl
  | setting s value? => cases value? <;> (rw [step, h]; rfl)
  | switch switch value? =>
      cases value? with
      | none => rw [step, h]; rfl
      | some v => rfl
  | unknown shown => rfl
  | plain text => rw [step, hwait, h]; rfl

namespace Stage

/-- What cannot be settled ends the reading with its own error, or with that of an argument which is
    refused at sight. -/
theorem foldl_of_error {p : Progress} {stop : Stop} (h : p.settle = .error stop)
    (hwait : p.awaiting? = none) (more : List String) :
    (more.foldl next (reading p)).finish = .error ((refusalAtSight? more).elim stop .refused) := by
  cases more with
  | nil => exact h
  | cons arg more =>
      rw [List.foldl_cons, next, Progress.step_of_error h hwait, foldl_stopped]
      rfl

/-- An option and its value behind arguments that are accepted are left open, if they are not
    symbols. -/
theorem after_given {front : List String} {arg value : String} {s : Setting} {v : String}
    {o : Options} {stop : Stop} (harg : Argument.ofText arg = .setting s none)
    (hvalue : Argument.ofText value = .plain v) (hfront : Options.ofArguments front = .ok o)
    (h : Options.ofArguments (front ++ [arg, value]) = .error stop) :
    after (front ++ [arg, value]) = reading ⟨o, some ⟨s, some v⟩⟩ := by
  rw [ofArguments_eq_finish, after_append] at h
  rw [ofArguments_eq_finish] at hfront
  rw [after_append]
  cases hs : after front with
  | reading p =>
      rw [hs] at hfront
      have hstep : (reading p).next arg = reading ⟨o, some ⟨s, none⟩⟩ := by
        rw [next, harg, Progress.step_setting hfront]
        rfl
      rw [List.foldl_cons, hstep, List.foldl_cons, next, hvalue]
      rfl
  | symbols o' =>
      rw [hs, foldl_symbols] at h
      exact nomatch h
  | stopped stop' =>
      rw [hs] at hfront
      exact nomatch hfront

/-- A reading that fails has stopped, or the end of the arguments has found something open. -/
theorem after_of_error {args : List String} {stop : Stop}
    (h : Options.ofArguments args = .error stop) :
    after args = stopped stop ∨ AwaitsValue args ∨ RepeatsAtEnd args := by
  rw [ofArguments_eq_finish] at h
  cases hs : after args with
  | symbols o =>
      rw [hs] at h
      cases h
  | stopped stop' =>
      rw [hs] at h
      exact Or.inl (congrArg stopped (Except.error.inj h))
  | reading p =>
      rw [hs] at h
      obtain ⟨o, - | ⟨s, - | v⟩⟩ := p
      · cases h
      · obtain ⟨front, arg, hargs, harg, hfront⟩ := exists_of_waiting hs
        exact Or.inr (Or.inl ⟨front, arg, s, o, hargs, harg, hfront⟩)
      · obtain ⟨front, arg, value, hargs, harg, hvalue, hfront⟩ := exists_of_given hs
        refine Or.inr (Or.inr ⟨front, arg, value, s, v, o, hargs, harg, hvalue, hfront, ?_⟩)
        -- a setting that has no value yet would have been settled
        cases hgiven : o.value? s with
        | some w => rfl
        | none =>
            have hassign : o.assign s v = .error stop := h
            rw [Options.assign, hgiven] at hassign
            cases hassign

end Stage

/-- An option that repeats another one is refused whatever comes behind, but not always for that
    reason. -/
theorem ofArguments_of_repeatsAtEnd {args : List String} {stop : Stop}
    (h : Options.ofArguments args = .error stop) (hrepeat : RepeatsAtEnd args)
    (more : List String) :
    (∃ s, stop = .refused (.repeatedSetting s)) ∧
    Options.ofArguments (args ++ more) = .error ((refusalAtSight? more).elim stop .refused) := by
  obtain ⟨front, arg, value, s, v, o, rfl, harg, hvalue, hfront, hgiven⟩ := hrepeat
  have hafter := Stage.after_given harg hvalue hfront h
  have hsettle : (Progress.mk o (some ⟨s, some v⟩)).settle = .error stop := by
    rw [ofArguments_eq_finish, hafter] at h
    exact h
  refine ⟨⟨s, ?_⟩, ?_⟩
  · obtain ⟨w, hw⟩ := Option.isSome_iff_exists.mp hgiven
    have hassign : o.assign s v = .error stop := hsettle
    rw [Options.assign, hw] at hassign
    exact (Except.error.inj hassign).symm
  · rw [ofArguments_eq_finish, Stage.after_append, hafter]
    exact Stage.foldl_of_error hsettle rfl more

/-- What has stopped a reading stops it whatever comes behind, unless it has been found at the end
    only. -/
theorem ofArguments_of_not_repeatsAtEnd {args : List String} {stop : Stop}
    (h : Options.ofArguments args = .error stop) (hvalue : ¬ AwaitsValue args)
    (hrepeat : ¬ RepeatsAtEnd args) (more : List String) :
    Options.ofArguments (args ++ more) = .error stop := by
  rcases Stage.after_of_error h with hstopped | hawaits | hrepeats
  · rw [ofArguments_eq_finish, Stage.after_append, hstopped, Stage.foldl_stopped]
    rfl
  · exact absurd hawaits hvalue
  · exact absurd hrepeats hrepeat

/-! ## A name that is given twice -/

/-- The last argument alone may rule out that a value is still to come. -/
theorem AwaitsValue.getLast? {args : List String} (h : AwaitsValue args) :
    ∃ s, args.getLast?.map Argument.ofText = some (.setting s none) := by
  obtain ⟨front, arg, s, o, rfl, harg, -⟩ := h
  refine ⟨s, ?_⟩
  rw [List.getLast?_concat, Option.map_some, harg]

/-- A name that is given twice is refused once the second value is settled. -/
theorem ofArguments_name_twice :
    Options.ofArguments ["--name", "a", "--name", "b"]
      = .error (.refused (.repeatedSetting .name)) := by
  have hname : Argument.ofText "--name" = .setting .name none := Argument.ofText_long .name
  rw [Options.ofArguments, Progress.read_apart rfl hname (by decide),
    Progress.read_apart rfl hname (by decide)]
  rfl

theorem not_awaitsValue_name_twice : ¬ AwaitsValue ["--name", "a", "--name", "b"] := by
  intro h
  obtain ⟨s, hs⟩ := h.getLast?
  have hlast : ["--name", "a", "--name", "b"].getLast?.map Argument.ofText = some (.plain "b") := by
    decide
  rw [hlast] at hs
  exact nomatch hs

/-- What is shown is the repetition, since nothing follows that is refused at sight. -/
theorem run_name_twice :
    run ["--name", "a", "--name", "b"] =
      ⟨⟨2, "", "error: the argument '--name <NAME>' cannot be used multiple times"⟩, []⟩ := by
  rw [run_of_error ofArguments_name_twice]
  rfl

/-! ## Runs -/

/-- **The first problem ends the run.** Where the reading of arguments has stopped, for help, for
    the version or with an error, the run stays what it is and its log stays empty, whatever is put
    behind the arguments. Two errors are found at the end of the arguments only. An option that
    still waits for its value may get it. An option that repeats another one is refused in any case,
    but an argument behind it that is refused at sight has its own error shown. -/
theorem first_problem_ends_run {args : List String} {stop : Stop}
    (h : Options.ofArguments args = .error stop) (hvalue : ¬ AwaitsValue args)
    (more : List String) :
    (run (args ++ more)).value.exitCode = (run args).value.exitCode ∧
    (run (args ++ more)).value.stdout = (run args).value.stdout ∧
    (¬ (RepeatsAtEnd args ∧ (refusalAtSight? more).isSome) →
      (run (args ++ more)).value.stderr = (run args).value.stderr) ∧
    (∀ e, RepeatsAtEnd args → refusalAtSight? more = some e →
      (run (args ++ more)).value.stderr = e.headline) ∧
    (run (args ++ more)).log = [] ∧
    ∀ setting?, Log.lines (Log.mostShown setting?) (run (args ++ more)).log = [] := by
  by_cases hrepeat : RepeatsAtEnd args
  · obtain ⟨⟨s, rfl⟩, hmore⟩ := ofArguments_of_repeatsAtEnd h hrepeat more
    cases hsight : refusalAtSight? more with
    | none =>
        rw [hsight, Option.elim_none] at hmore
        rw [run_of_error h, run_of_error hmore]
        refine ⟨rfl, rfl, fun _ => rfl, ?_, rfl, fun _ => rfl⟩
        intro e _ he
        exact nomatch he
    | some e =>
        rw [hsight, Option.elim_some] at hmore
        rw [run_of_error h, run_of_error hmore]
        refine ⟨rfl, rfl, fun hnot => absurd ⟨hrepeat, rfl⟩ hnot, ?_, rfl, fun _ => rfl⟩
        intro e' _ he
        rw [Option.some.inj he]
        rfl
  · have hmore := ofArguments_of_not_repeatsAtEnd h hvalue hrepeat more
    rw [run_of_error h, run_of_error hmore]
    exact ⟨rfl, rfl, fun _ => rfl, fun _ hyes => absurd hyes hrepeat, rfl, fun _ => rfl⟩

/-- Help that is asked for too late is not shown. -/
theorem first_problem_ends_run_before_help :
    Options.ofArguments ["--name", "a", "--name", "b"]
        = .error (.refused (.repeatedSetting .name)) ∧
      ¬ AwaitsValue ["--name", "a", "--name", "b"] ∧
      (run ["--name", "a", "--name", "b", "--help"]).value.exitCode = 2 ∧
      (run ["--name", "a", "--name", "b", "--help"]).value.stderr
        = "error: the argument '--name <NAME>' cannot be used multiple times" ∧
      (run ["--name", "a", "--name", "b", "--help"]).log = [] := by
  obtain ⟨hcode, -, hstderr, -, hlog, -⟩ :=
    first_problem_ends_run ofArguments_name_twice not_awaitsValue_name_twice ["--help"]
  have hsight : refusalAtSight? ["--help"] = none := by decide
  rw [run_name_twice] at hcode hstderr
  refine ⟨ofArguments_name_twice, not_awaitsValue_name_twice, hcode, hstderr ?_, hlog⟩
  rw [hsight]
  exact fun h => nomatch h.2

/-- An option that is given twice is not the first problem for good: an unknown option behind it
    comes before it. -/
theorem unknown_option_overtakes_repeat :
    Options.ofArguments ["--name", "a", "--name", "b"]
        = .error (.refused (.repeatedSetting .name)) ∧
      ¬ AwaitsValue ["--name", "a", "--name", "b"] ∧
      (run ["--name", "a", "--name", "b"]).value.stderr
        = "error: the argument '--name <NAME>' cannot be used multiple times" ∧
      (run (["--name", "a", "--name", "b"] ++ ["--bogus"])).value.stderr
        = "error: unexpected argument '--bogus' found" := by
  have hrepeat : RepeatsAtEnd ["--name", "a", "--name", "b"] :=
    ⟨["--name", "a"], "--name", "b", .name, "b", { name? := some "a" }, rfl,
      Argument.ofText_long .name, by decide,
      ofArguments_args ⟨[⟨_, _, .apart .name "a" (by decide)⟩], none, by decide⟩, rfl⟩
  have hbogus := (ofArguments_of_repeatsAtEnd ofArguments_name_twice hrepeat ["--bogus"]).2
  refine ⟨ofArguments_name_twice, not_awaitsValue_name_twice, ?_, ?_⟩
  · rw [run_name_twice]
  · have hsight : refusalAtSight? ["--bogus"] = some (.unexpectedArgument "--bogus") := by decide
    rw [run_of_error hbogus, hsight]
    rfl

end GrammarTarget.CommandLine
