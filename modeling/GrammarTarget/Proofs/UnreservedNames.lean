import GrammarTarget.Collision
import GrammarTarget.Proofs.FileNames
import GrammarTarget.Proofs.ReservedLists

/-!
# No file is called by a reserved word

A file in Rust is a module, which is called as the file is, less the extension. A grammar may be
called anything, so the stem of a file may well be a reserved word once it is in lower case. What
keeps the module from being one is the ending that tells the role: of all reserved words a single
one has an underscore (`Reserved.eq_of_underscore`), and what follows it there is not what a role is
called. The file itself has a full stop, which no reserved word has.
-/

namespace GrammarTarget

open Reserved (Category Table)

/-! ## Signs in reserved words -/

namespace Reserved

/-- There is one reserved word with an underscore. -/
theorem eq_of_underscore (c : Category) :
    ∀ word ∈ c.words, '_' ∈ word.toList → word = "parser_rule" := by
  cases c <;> decide +kernel

/-- No reserved word has a full stop in it, so whole file names cannot be reserved. -/
theorem full_stop_not_mem (c : Category) : ∀ word ∈ c.words, '.' ∉ word.toList := by
  cases c <;> decide +kernel

/-- No reserved word ends as the name of a role does. -/
theorem not_mem_words_of_ending {word : String} {r : FileRole} (h : r.ending <:+ word.toList)
    (c : Category) : word ∉ c.words := by
  intro hmem
  -- the ending brings an underscore with it, which leaves one word to look at
  have hunderscore : '_' ∈ word.toList := h.subset List.mem_cons_self
  obtain rfl : word = "parser_rule" := eq_of_underscore c word hmem hunderscore
  revert h
  cases r <;> decide

end Reserved

/-- A text that no category has is no collision, and the log is not told of it. -/
theorem collides_of_not_mem_words {word : String} (h : ∀ c : Category, word ∉ c.words) :
    Target.rust.collides word = pure false := by
  have hcontains : Target.rust.reserved.contains word = false := by
    rw [Bool.eq_false_iff]
    intro hreserved
    obtain ⟨c, hc⟩ := Table.contains_standard_iff.mp hreserved
    exact h c (Category.lists_iff.mp hc)
  rw [Target.collides, hcontains]
  rfl

/-! ## Modules -/

/-- What the module of a file in Rust is called. -/
def moduleName (stem : String) (r : FileRole) : String :=
  Unicode.lowercase stem ++ "_" ++ r.label

/-- A file is called as its module, with the extension. -/
theorem fileName_eq_moduleName (stem : String) (r : FileRole) (header : Bool) :
    Target.rust.fileName stem r header = moduleName stem r ++ ".rs" := rfl

theorem ending_suffix_moduleName (stem : String) (r : FileRole) :
    r.ending <:+ (moduleName stem r).toList := by
  refine ⟨(Unicode.lowercase stem).toList, ?_⟩
  simp [moduleName, FileRole.ending, String.toList_append]

theorem moduleName_not_mem_words (stem : String) (r : FileRole) (c : Category) :
    moduleName stem r ∉ c.words :=
  Reserved.not_mem_words_of_ending (ending_suffix_moduleName stem r) c

/-- No category has a name with the extension. -/
theorem append_extension_not_mem_words (name : String) (c : Category) :
    name ++ ".rs" ∉ c.words := by
  intro hmem
  have hstop : '.' ∈ (name ++ ".rs").toList := by
    rw [String.toList_append]
    exact List.mem_append_right _ List.mem_cons_self
  exact Reserved.full_stop_not_mem c _ hmem hstop

/-- **No file is called by a reserved word, nor is its module,** whatever the grammar is called: no
    category lists either of the two, and neither is told of as a collision. -/
theorem no_file_called_by_reserved_word (n : DeclaredName) (k : Kind) (x : Artifact)
    (header : Bool) :
    ∃ base file : String,
      (Descriptor.mk (some n.text) (some k)).HasFile Target.rust x header file ∧
      file = base ++ ".rs" ∧
      Target.rust.collides base = pure false ∧
      Target.rust.collides file = pure false ∧
      ∀ c : Category, ¬ c.Lists base ∧ ¬ c.Lists file := by
  have hbase := moduleName_not_mem_words (x.stem k n.text) (x.role k)
  have hfile := append_extension_not_mem_words (moduleName (x.stem k n.text) (x.role k))
  refine ⟨moduleName (x.stem k n.text) (x.role k), _,
    Descriptor.hasFile_known Target.rust x n k header, fileName_eq_moduleName _ _ header,
    collides_of_not_mem_words hbase, collides_of_not_mem_words hfile, ?_⟩
  intro c
  rw [Category.lists_iff, Category.lists_iff]
  exact ⟨hbase c, hfile c⟩

/-- The stem in lower case is a reserved word, and with the role behind it is none. -/
example : moduleName "SELF" .lexer = "self_lexer" := by decide +kernel

end GrammarTarget
