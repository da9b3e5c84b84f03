import GrammarTarget.Log.Record

/-!
# Loggers — who decides which records are shown

A program hands its records to a logger. The logger was given a setting before the program began,
which may be any text or none, and it decides by that which records are shown. What it makes of a
setting is its own affair, and of one that it cannot read it may say so on standard error. A program
can rely on the settings that are levels by name, on `off` and on there being no setting at all
(`Logger.ReadsNames`); of any other setting nothing is known.
-/

namespace GrammarTarget.Log

/-- What a setting asks for by name: the most detailed level that is shown, or that none is. There
    is no answer for a setting that is not one of the names. Without a setting errors alone are
    asked for. -/
def named? (setting? : Option String) : Option (Option Level) :=
  match setting? with
  | none         => some (some .error)
  | some "off"   => some none
  | some "error" => some (some .error)
  | some "warn"  => some (some .warn)
  | some "info"  => some (some .info)
  | some "debug" => some (some .debug)
  | some "trace" => some (some .trace)
  | some _       => none

/-- A logger, as a program sees it: what it makes of a setting. -/
structure Logger where
  /-- Whether it can read a setting. -/
  accepts : Option String → Bool
  /-- What it writes to standard error itself when it is given a setting. -/
  notice  : Option String → String
  /-- Whether it shows a record under a setting. -/
  shows   : Option String → Record → Bool

/-- What a program can rely on in a logger. Nothing is assumed of what it makes of a setting that is
    not one of the names: it may read it in its own way or leave it aside, and say so or not. -/
structure Logger.ReadsNames (g : Logger) : Prop where
  /-- Each of the names can be read, and so can the absence of a setting. -/
  accepts_named {setting? : Option String} {most? : Option Level} :
    named? setting? = some most? → g.accepts setting? = true
  /-- A name shows the records of the level that it asks for and of graver ones, or none. -/
  shows_named {setting? : Option String} {most? : Option Level} :
    named? setting? = some most? → ∀ r, g.shows setting? r = r.isShown most?
  /-- A setting that can be read gives no cause for a notice. -/
  notice_accepted {setting? : Option String} :
    g.accepts setting? = true → g.notice setting? = ""

/-- The most detailed level that `Logger.byName` shows. A setting that is none of the names is left
    aside, as if it were absent, which that logger says. -/
def mostShown (setting? : Option String) : Option Level :=
  (named? setting?).getD (some .error)

/-- The logger that reads names and nothing else. -/
def Logger.byName : Logger where
  accepts setting? := (named? setting?).isSome
  notice setting? :=
    if (named? setting?).isSome then ""
    else "the log setting " ++ setting?.getD "" ++ " is not the name of a level and is ignored\n"
  shows setting? r := r.isShown (mostShown setting?)

/-- The logger that reads names alone makes of them what a program relies on. -/
theorem Logger.readsNames_byName : Logger.byName.ReadsNames where
  accepts_named h := Option.isSome_iff_exists.mpr ⟨_, h⟩
  shows_named h r := congrArg r.isShown (congrArg (·.getD (some .error)) h)
  notice_accepted h := if_pos h

end GrammarTarget.Log
