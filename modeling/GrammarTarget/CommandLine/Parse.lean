import GrammarTarget.CommandLine.Argument
import GrammarTarget.CommandLine.UsageError

/-!
# Reading a command line

Arguments are read from left to right, and the first that asks for help or for the version, or is
wrong, ends the reading. A setting whose value is not attached stays open: the next argument is its
value if it can be one, and the setting is settled, that is, checked and stored, when the next
known option or symbol comes or when the arguments end. An unknown option and a value attached to
a switch are refused without settling what is open.
-/

namespace GrammarTarget.CommandLine

/-- Why a command line is not read to its end, or not carried out. -/
inductive Stop where
  | help
  | version
  | refused (e : UsageError)
  deriving DecidableEq, Repr

/-- A setting that is not settled yet. -/
structure Pending where
  setting : Setting
  value?  : Option String
  deriving DecidableEq, Repr

/-- What has been read so far: the options that are settled, and the setting that is open. -/
structure Progress where
  options  : Options := {}
  pending? : Option Pending := none
  deriving DecidableEq, Repr

/-- Stores the value of a setting, which must not have one. -/
def Options.assign (o : Options) (setting : Setting) (value : String) : Except Stop Options :=
  match o.value? setting with
  | some _ => .error (.refused (.repeatedSetting setting))
  | none   => .ok (o.set setting value)

/-- Turns a switch on, which must not be on. -/
def Options.turnOn (o : Options) (switch : Switch) : Except Stop Options :=
  match switch with
  | .help    => .error .help
  | .version => .error .version
  | .header  =>
    if o.header then .error (.refused (.repeatedSwitch .header))
    else .ok { o with header := true }
  | .reserved =>
    if o.reserved then .error (.refused (.repeatedSwitch .reserved))
    else .ok { o with reserved := true }
  | .targetVersion =>
    if o.targetVersion then .error (.refused (.repeatedSwitch .targetVersion))
    else .ok { o with targetVersion := true }

namespace Progress

/-- The options once the open setting is settled: it needs a value and must not have had one. -/
def settle (p : Progress) : Except Stop Options :=
  match p.pending? with
  | none                       => .ok p.options
  | some ⟨setting, none⟩       => .error (.refused (.missingValue setting))
  | some ⟨setting, some value⟩ => p.options.assign setting value

/-- Whether the open setting still waits for its value. -/
def awaiting? (p : Progress) : Option Setting :=
  match p.pending? with
  | some ⟨setting, none⟩ => some setting
  | _                    => none

/-- Reads one argument; the separator just settles the open setting. -/
def step (p : Progress) : Argument → Except Stop Progress
  | .separator => do
    let options ← p.settle
    pure ⟨options, none⟩
  | .setting setting none => do
    let options ← p.settle
    pure ⟨options, some ⟨setting, none⟩⟩
  | .setting setting (some value) => do
    let options ← p.settle
    let options ← options.assign setting value
    pure ⟨options, none⟩
  | .switch switch none => do
    let options ← p.settle
    let options ← options.turnOn switch
    pure ⟨options, none⟩
  -- these two are refused at sight, before what is open is settled
  | .switch switch (some value) => .error (.refused (.unexpectedValue switch value))
  | .unknown shown => .error (.refused (.unexpectedArgument shown))
  | .plain text =>
    match p.awaiting? with
    | some setting => .ok { p with pending? := some ⟨setting, some text⟩ }
    | none => do
      let options ← p.settle
      pure ⟨options.addSymbols [text], none⟩

/-- Reads the rest of a command line. All that follow a separator are symbols. -/
def read (p : Progress) : List String → Except Stop Options
  | []          => p.settle
  | arg :: args => do
    let p ← p.step (Argument.ofText arg)
    if Argument.ofText arg = .separator then pure (p.options.addSymbols args)
    else p.read args

end Progress

/-- Reads a command line. -/
def Options.ofArguments (args : List String) : Except Stop Options :=
  Progress.read {} args

end GrammarTarget.CommandLine
