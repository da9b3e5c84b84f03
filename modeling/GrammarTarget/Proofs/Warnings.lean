import GrammarTarget.Proofs.Outcome

/-!
# What a report tells of the symbols that collide

A report speaks of colliding symbols in several places: a warning for each, a record for each, a
record with their number, and the number again in the record that ends the report. The symbols are
asked for twice, first whether they are reserved and then what as. All of this is read off one list,
the findings (`Table.findings`), which has an entry for each occurrence of a reserved symbol and
with it a category; so no warning is without one.
-/

namespace GrammarTarget

open Log (Logged Record)
open Reserved (Category Table)

/-! ## Findings -/

namespace Reserved.Table

/-- The symbols that are reserved, in the order in which they are given and as often, each with what
    it is reserved as. -/
def findings (t : Table) (symbols : List String) : List (String × Category) :=
  symbols.filterMap fun symbol => (t.category? symbol).map (symbol, ·)

variable (t : Table)

theorem category?_of_mem_findings {symbols : List String} {w : String × Category}
    (h : w ∈ t.findings symbols) : t.category? w.1 = some w.2 := by
  obtain ⟨symbol, -, hsymbol⟩ := List.mem_filterMap.mp h
  obtain ⟨c, hc, rfl⟩ := Option.map_eq_some_iff.mp hsymbol
  exact hc

/-- Asking for the category of what has been found to be reserved gives the findings. -/
theorem map_findings {β : Type} (f : String → Option Category → β) (symbols : List String) :
    ((t.findings symbols).map fun w => f w.1 (some w.2))
      = (symbols.filter t.contains).map fun symbol => f symbol (t.category? symbol) := by
  induction symbols with
  | nil => rfl
  | cons symbol symbols ih =>
      rw [findings, List.filterMap_cons, List.filter_cons, contains_eq_isSome]
      -- a symbol stands in both lists or in neither
      cases hc : t.category? symbol with
      | none => exact ih
      | some c =>
          show f symbol (some c) :: (t.findings symbols).map _ = _
          rw [ih]
          simp [hc]

/-- The symbols of the findings are the reserved ones, repeated as they are given. -/
theorem map_fst_findings (symbols : List String) :
    (t.findings symbols).map Prod.fst = symbols.filter t.contains :=
  (t.map_findings (fun symbol _ => symbol) symbols).trans (List.map_id' _)

theorem length_findings (symbols : List String) :
    (t.findings symbols).length = (symbols.filter t.contains).length := by
  rw [← map_fst_findings, List.length_map]

end Reserved.Table

/-! ## Records -/

/-- One record for each symbol that is found, in the order of the symbols. -/
theorem Target.flatMap_log_collides (t : Target) (texts : List String) :
    (texts.flatMap fun text => (t.collides text).log)
      = (texts.filter t.reserved.contains).map (Record.collision t.language) := by
  induction texts with
  | nil => rfl
  | cons text texts ih =>
      rw [List.flatMap_cons, ih, Target.log_collides, List.filter_cons]
      cases t.reserved.contains text with
      | true => rfl
      | false => rfl

/-- Of texts, those are found that the table has. -/
theorem Target.value_collisions_texts (t : Target) (texts : List String) :
    (t.collisions texts).value = texts.filter t.reserved.contains := by
  rw [Target.value_collisions, HasText.map_text]

/-- The records of the collisions, followed by their number if there are any. -/
theorem Target.log_collisions_texts (t : Target) (texts : List String) :
    (t.collisions texts).log
      = (texts.filter t.reserved.contains).map (Record.collision t.language) ++
        t.countRecords (texts.filter t.reserved.contains) := by
  rw [Target.log_collisions, Target.value_collisions_texts, Target.flatMap_log_collides,
    HasText.map_text]

/-- The number is told only if it is not zero. -/
theorem Target.countRecords_eq (t : Target) (found : List String) :
    t.countRecords found
      = if 0 < found.length then [.collisionCount t.language found.length] else [] := by
  cases found with
  | nil => rfl
  | cons symbol symbols => rfl

namespace CommandLine

/-! ## Reports -/

section

variable (t : Target) (o : Options)

/-- The warnings are the findings; none of them lacks a category. -/
theorem value_checkSymbols :
    (checkSymbols t o).value
      = (t.reserved.findings o.symbols).map fun w => ⟨w.1, some w.2⟩ := by
  rw [Table.map_findings t.reserved Warning.mk, ← Target.value_collisions_texts]
  rfl

/-- The log of a check speaks of the findings one by one, of their number if there are any, and of
    the check as a whole. -/
theorem log_checkSymbols :
    (checkSymbols t o).log
      = (t.reserved.findings o.symbols).map (fun w => Record.collision t.language w.1) ++
        (if 0 < (t.reserved.findings o.symbols).length then
          [.collisionCount t.language (t.reserved.findings o.symbols).length] else []) ++
        [.symbolsChecked o.symbols.length (t.reserved.findings o.symbols).length] := by
  have hlog : (checkSymbols t o).log
      = (t.collisions o.symbols).log ++
        [.symbolsChecked o.symbols.length (checkSymbols t o).value.length] := rfl
  rw [hlog, value_checkSymbols, List.length_map, Target.log_collisions_texts,
    Target.countRecords_eq, ← Table.length_findings,
    Table.map_findings t.reserved fun symbol _ => Record.collision t.language symbol]

end

/-- A finding as it is shown. -/
def findingLine (w : String × Category) : String :=
  Text.bold (Text.brightYellow "warning") ++ ": symbol " ++ Text.bold w.1 ++
    " collides with a Rust " ++ w.2.label ++ "\n"

/-- A warning with a category shows the finding that it comes from. -/
theorem line_finding (w : String × Category) :
    Warning.line "Rust" ⟨w.1, some w.2⟩ = findingLine w := by
  have hphrase : " collides with a " ++ "Rust" ++ " " = " collides with a Rust " := by decide
  rw [findingLine, ← hphrase]
  simp only [Warning.line, String.append_assoc]
  rfl

/-- Where the name and the kind are known, standard output comes from them and all else from the
    findings. -/
theorem run_of_known {args : List String} {n : DeclaredName} {k : Kind} {o : Options}
    (h : Options.ofArguments args = .ok o) (hversion : o.targetVersion = false)
    (hreserved : o.reserved = false) (hname : o.name? = some n.text) (hkind : o.kindTag = k.tag) :
    run args =
      ⟨⟨0, fileEntries (rustFiles n k o.header),
        String.join ((Target.rust.reserved.findings o.symbols).map findingLine)⟩,
        tableRecord :: (checkSymbols Target.rust o).log⟩ := by
  have hlines : ((checkSymbols Target.rust o).value.map (Warning.line "Rust"))
      = (Target.rust.reserved.findings o.symbols).map findingLine := by
    rw [value_checkSymbols, List.map_map]
    exact List.map_congr_left fun w _ => line_finding w
  rw [run_of_ok h, answer_of_report hversion hreserved, report_of_known hname hkind, ← hlines]
  simp only [Logged.value_map, Logged.value_bind, Logged.value_pure, Logged.log_map,
    Logged.log_bind, Logged.log_pure, List.append_nil]
  rfl

/-- A run that ends well and was asked for a report knew the name and the kind of the grammar. -/
theorem Outcome.exists_known {o : Options} {ran : Logged Output} (h : Outcome o ran)
    (hversion : o.targetVersion = false) (hreserved : o.reserved = false)
    (hexit : ran.value.exitCode = 0) :
    ∃ (n : DeclaredName) (k : Kind), o.name? = some n.text ∧ o.kindTag = k.tag := by
  cases h with
  | targetVersion h => exact absurd (hversion.symm.trans h) Bool.false_ne_true
  | reserved _ h => exact absurd (hreserved.symm.trans h) Bool.false_ne_true
  | nameAbsent | nameEmpty | kind => exact absurd hexit (by decide : (1 : UInt8) ≠ 0)
  | files _ _ n hname k hkind => exact ⟨n, k, hname, hkind⟩

/-- A checked grammar has the files that a report shows. -/
theorem artifactFiles_grammar (n : DeclaredName) (k : Kind) (header : Bool) :
    (Grammar.mk n.text k).descriptor.artifactFiles Target.rust header
      = .ok (pure (rustFiles n k header)) := by
  have hname : (Grammar.mk n.text k).descriptor.declaredName = .ok n :=
    Descriptor.declaredName_eq_ok_iff.mpr rfl
  exact Descriptor.artifactFiles_of_ok Target.rust header hname

/-- On the most detailed level every record is shown. -/
theorem lines_trace (records : List Record) :
    Log.lines (some .trace) records = records.map Record.line := by
  have hshown : ∀ r ∈ records, r.isShown (some .trace) = true := by
    intro r _
    cases r <;> rfl
  rw [Log.lines, List.filter_eq_self.mpr hshown]

/-- Every category has a label, so no warning breaks off before one. -/
theorem label_ne_empty (c : Category) : c.label ≠ "" := by
  cases c <;> decide

end CommandLine

end GrammarTarget
