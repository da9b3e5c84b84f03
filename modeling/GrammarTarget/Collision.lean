import GrammarTarget.Target
import GrammarTarget.Grammar.Symbol

/-!
# Collisions — grammar symbols that the target's language reserves

A symbol collides if its text is a reserved word. Every collision that is found is told to the
log, and a list of symbols is followed by the number of its collisions, if there are any. What is
found does not depend on how a symbol is held, but on its text alone.
-/

namespace GrammarTarget.Target

open Log (Logged)

variable {α : Type} [HasText α]

/-- Whether a text is a reserved word. -/
def collides (t : Target) (text : String) : Logged Bool := do
  if t.reserved.contains text then
    Logged.write (.collision t.language text)
    pure true
  else
    pure false

/-- Whether the text of a symbol is a reserved word. -/
def symbolCollides (t : Target) (symbol : α) : Logged Bool :=
  t.collides (HasText.text symbol)

/-- What the log is told after the collisions of a list have been found. -/
def countRecords (t : Target) (found : List String) : List Log.Record :=
  if found.isEmpty then [] else [.collisionCount t.language found.length]

/-- The texts of the symbols that are reserved words, in the order of the symbols. -/
def collisions (t : Target) (symbols : List α) : Logged (List String) := do
  let found ← Logged.filterEach t.collides (symbols.map HasText.text)
  Logged.writeAll (t.countRecords found)
  pure found

/-! ## What is found -/

@[simp] theorem value_collides (t : Target) (text : String) :
    (t.collides text).value = t.reserved.contains text := by
  unfold collides
  split <;> simp_all

/-- A collision is told, and a text that does not collide is passed over in silence. -/
@[simp] theorem log_collides (t : Target) (text : String) :
    (t.collides text).log =
      if t.reserved.contains text then [.collision t.language text] else [] := by
  unfold collides
  split <;> simp_all

/-- The collisions are the reserved words among the texts, each as often as it occurs. -/
@[simp] theorem value_collisions (t : Target) (symbols : List α) :
    (t.collisions symbols).value = (symbols.map HasText.text).filter t.reserved.contains := by
  simp [collisions]

/-- The log has the collisions one by one and then their number. -/
theorem log_collisions (t : Target) (symbols : List α) :
    (t.collisions symbols).log =
      ((symbols.map HasText.text).flatMap fun text => (t.collides text).log) ++
        t.countRecords (t.collisions symbols).value := by
  simp [collisions]

end GrammarTarget.Target
