import GrammarTarget.Log.Record

/-!
# Logged values — a value with the records written on the way to it

Records are kept in the order in which they were written. A value never depends on them: running
one computation after another gives the value of the second and the records of both
(`Logged.value_bind`, `Logged.log_bind`).
-/

namespace GrammarTarget.Log

/-- A value and the records that were written while it was computed. -/
structure Logged (α : Type) where
  value : α
  /-- The records, the earliest first. -/
  log   : List Record

namespace Logged

/-- One computation after another has the value of the second and the records of both. -/
instance : Monad Logged where
  pure a := ⟨a, []⟩
  bind x f := ⟨(f x.value).value, x.log ++ (f x.value).log⟩

/-- Writes one record. -/
def write (r : Record) : Logged Unit :=
  ⟨(), [r]⟩

/-- Writes records, from left to right. -/
def writeAll (records : List Record) : Logged Unit :=
  ⟨(), records⟩

variable {α β : Type}

/-- A logged value is known by what it comes to and what was written. -/
@[ext] theorem ext {x y : Logged α} (value : x.value = y.value) (log : x.log = y.log) : x = y := by
  cases x; cases y; cases value; cases log; rfl

@[simp] theorem value_pure (a : α) : (pure a : Logged α).value = a := rfl

@[simp] theorem log_pure (a : α) : (pure a : Logged α).log = [] := rfl

/-- The value of the second computation may depend on the value of the first, but on none of its
    records. -/
@[simp] theorem value_bind (x : Logged α) (f : α → Logged β) :
    (x >>= f).value = (f x.value).value := rfl

/-- What is written later stands behind what was written before. -/
@[simp] theorem log_bind (x : Logged α) (f : α → Logged β) :
    (x >>= f).log = x.log ++ (f x.value).log := rfl

@[simp] theorem value_map (f : α → β) (x : Logged α) : (f <$> x).value = f x.value := rfl

/-- A function of the value writes nothing. -/
@[simp] theorem log_map (f : α → β) (x : Logged α) : (f <$> x).log = x.log :=
  List.append_nil _

@[simp] theorem value_write (r : Record) : (write r).value = () := rfl

@[simp] theorem log_write (r : Record) : (write r).log = [r] := rfl

@[simp] theorem log_writeAll (records : List Record) : (writeAll records).log = records := rfl

/-- How computations are grouped does not matter. -/
instance : LawfulMonad Logged := LawfulMonad.mk' Logged
  (fun _ => Logged.ext rfl (List.append_nil _))
  (fun _ _ => Logged.ext rfl rfl)
  (fun _ _ _ => Logged.ext rfl (List.append_assoc ..))

/-- Asks a question about each element, from left to right. -/
def mapEach (f : α → Logged β) : List α → Logged (List β)
  | []      => pure []
  | a :: as => do
    let b ← f a
    let bs ← mapEach f as
    pure (b :: bs)

/-- Keeps the elements that pass a test, asked from left to right. -/
def filterEach (p : α → Logged Bool) : List α → Logged (List α)
  | []      => pure []
  | a :: as => do
    let keep ← p a
    let rest ← filterEach p as
    pure (if keep then a :: rest else rest)

/-- The test decides by its value alone, whatever it writes. -/
@[simp] theorem value_filterEach (p : α → Logged Bool) (as : List α) :
    (filterEach p as).value = as.filter fun a => (p a).value := by
  induction as with
  | nil          => rfl
  | cons a as ih => simp [filterEach, ih, List.filter_cons]

/-- Every element is asked about, so the records of all of them are kept, also of those that
    fail. -/
@[simp] theorem log_filterEach (p : α → Logged Bool) (as : List α) :
    (filterEach p as).log = as.flatMap fun a => (p a).log := by
  induction as with
  | nil          => rfl
  | cons a as ih => simp [filterEach, ih]

end Logged

end GrammarTarget.Log
