import GrammarTarget.CommandLine.Options

/-!
# Arguments — how one argument of a command line reads by itself

A long option may hold its value after an equals sign, a short one right after its letter, with or
without an equals sign between. Among short options only the first letter counts: either it is
unknown, or it ends the run, or it takes the rest as its value.
-/

namespace GrammarTarget.CommandLine

/-- What an argument is, whatever stands before it. -/
inductive Argument where
  /-- Two hyphens: all that follows are symbols. -/
  | separator
  | setting (setting : Setting) (value? : Option String)
  | switch (switch : Switch) (attached? : Option String)
  /-- An option that there is none of, as messages show it. -/
  | unknown (shown : String)
  /-- Text that begins with no hyphen, or is just one hyphen. -/
  | plain (text : String)
  deriving DecidableEq, Repr

namespace Argument

/-- Splits at the first equals sign: what stands before it, and what stands after it if there is
    one. -/
def splitAtEquals : List Char → List Char × Option (List Char)
  | []      => ([], none)
  | c :: cs =>
    if c = '=' then ([], some cs)
    else (c :: (splitAtEquals cs).1, (splitAtEquals cs).2)

/-- Reads what follows two hyphens. -/
def ofLong (text : List Char) : Argument :=
  let long := String.ofList (splitAtEquals text).1
  let value? := (splitAtEquals text).2.map String.ofList
  match Setting.ofLong? long with
  | some s => .setting s value?
  | none   =>
    match Switch.ofLong? long with
    | some s => .switch s value?
    | none   => .unknown ("--" ++ long)

/-- The value attached to a short option: the text after its letter, less an equals sign at the
    front. -/
def shortValue? : List Char → Option String
  | []         => none
  | '=' :: cs  => some (String.ofList cs)
  | cs         => some (String.ofList cs)

/-- Reads what follows one hyphen, split into a letter and the text behind it. -/
def ofShort (letter : Char) (text : List Char) : Argument :=
  if letter = 'k' then .setting .kind (shortValue? text)
  else if letter = 'h' then .switch .help none
  else if letter = 'V' then .switch .version none
  else .unknown (String.ofList ['-', letter])

/-- How an argument reads by itself. -/
def ofText (text : String) : Argument :=
  match text.toList with
  | ['-', '-']       => .separator
  | '-' :: '-' :: cs => ofLong cs
  | '-' :: c :: cs   => ofShort c cs
  | _                => .plain text

end Argument

end GrammarTarget.CommandLine
