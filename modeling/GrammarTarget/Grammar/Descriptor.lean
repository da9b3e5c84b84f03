import GrammarTarget.Grammar.Kind

/-!
# Grammar descriptors — what the naming of files needs to know of a grammar

A descriptor holds the declared name and the kind, either of which may be missing. A checked
`Grammar` has both; a `TaggedGrammar` still holds the tag as it was declared, which may name no
kind at all. Files are named only after a `DeclaredName`, a name that is there and is not empty.
-/

namespace GrammarTarget

/-- The declared name and the kind of a grammar, as far as they are known. -/
structure Descriptor where
  name? : Option String
  kind? : Option Kind
  deriving DecidableEq, Repr

/-- A grammar that has been checked: its name and its kind are known. -/
structure Grammar where
  name : String
  kind : Kind
  deriving DecidableEq, Repr

/-- A grammar whose kind is still the tag read from its declaration. -/
structure TaggedGrammar where
  name? : Option String
  tag   : String
  deriving DecidableEq, Repr

/-- The descriptor of a checked grammar has both parts. The name may still be empty. -/
def Grammar.descriptor (g : Grammar) : Descriptor :=
  ⟨some g.name, some g.kind⟩

/-- The descriptor of a tagged grammar: the kind is missing if the tag names none. -/
def TaggedGrammar.descriptor (g : TaggedGrammar) : Descriptor :=
  ⟨g.name?, Kind.ofTag? g.tag⟩

/-- A name that files can be named after. -/
structure DeclaredName where
  text     : String
  ne_empty : text ≠ ""
  deriving DecidableEq

/-- Why a grammar has no name that files can be named after. -/
inductive NameError where
  | absent
  | empty
  deriving DecidableEq, Repr

/-- The message tells a name that is missing from one that is empty. -/
def NameError.message : NameError → String
  | absent => "grammar has no declared name"
  | empty  => "grammar has an empty declared name"

/-- The name that the files of a grammar are named after. -/
def Descriptor.declaredName (d : Descriptor) : Except NameError DeclaredName :=
  match d.name? with
  | none      => .error .absent
  | some name => if h : name = "" then .error .empty else .ok ⟨name, h⟩

/-! ## When there is a name -/

/-- A name can be used just if it is there and is not empty, and then it is used as it is. -/
theorem Descriptor.declaredName_eq_ok_iff {d : Descriptor} {n : DeclaredName} :
    d.declaredName = .ok n ↔ d.name? = some n.text := by
  rcases d with ⟨_ | name, k⟩
  · simp [declaredName]
  · by_cases h : name = ""
    · have := n.ne_empty
      simp only [declaredName, h, dif_pos, Option.some.injEq]
      exact ⟨nofun, fun e => absurd e.symm this⟩
    · rcases n with ⟨text, hn⟩
      simp [declaredName, h]

/-- A name is reported missing just if none is declared. -/
theorem Descriptor.declaredName_eq_absent_iff {d : Descriptor} :
    d.declaredName = .error .absent ↔ d.name? = none := by
  rcases d with ⟨_ | name, k⟩
  · simp [declaredName]
  · by_cases h : name = "" <;> simp [declaredName, h]

/-- A name is reported empty just if the empty one is declared. -/
theorem Descriptor.declaredName_eq_empty_iff {d : Descriptor} :
    d.declaredName = .error .empty ↔ d.name? = some "" := by
  rcases d with ⟨_ | name, k⟩
  · simp [declaredName]
  · by_cases h : name = "" <;> simp [declaredName, h]

end GrammarTarget
