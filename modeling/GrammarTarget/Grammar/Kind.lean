/-!
# Grammar kinds — what a grammar generates, and the tags that declare it

A grammar generates a parser, a lexer, or both in one. A declaration names the kind by a tag;
reading a tag and writing one are inverse to each other (`Kind.ofTag_eq_ok_iff`), and a tag that
names no kind is kept whole in the error (`Kind.ofTag_eq_error_iff`).
-/

namespace GrammarTarget

/-- What a grammar generates. -/
inductive Kind where
  | parser
  | lexer
  | combined
  deriving DecidableEq, Repr

/-- A tag that declares no kind. -/
structure UnknownKind where
  tag : String
  deriving DecidableEq, Repr

/-- The message quotes the tag and gives all that would have been understood. -/
def UnknownKind.message (e : UnknownKind) : String :=
  "unknown grammar kind '" ++ e.tag ++ "', expected one of parser, lexer or combined"

namespace Kind

/-- The tag that declares a kind. -/
def tag : Kind → String
  | parser   => "parser"
  | lexer    => "lexer"
  | combined => "combined"

/-- Reads the kind off a tag. Case counts, and no blanks are left out. -/
def ofTag (tag : String) : Except UnknownKind Kind :=
  if tag = Kind.parser.tag then .ok parser
  else if tag = Kind.lexer.tag then .ok lexer
  else if tag = Kind.combined.tag then .ok combined
  else .error ⟨tag⟩

/-- The kind that a tag declares, if it declares one. -/
def ofTag? (tag : String) : Option Kind :=
  (ofTag tag).toOption

/-- A kind is read back from its tag. -/
@[simp] theorem ofTag_tag (k : Kind) : ofTag k.tag = .ok k := by
  cases k <;> simp [ofTag, tag]

/-- A kind is read off its own tag and off no other text. -/
theorem ofTag_eq_ok_iff {t : String} {k : Kind} : ofTag t = .ok k ↔ t = k.tag := by
  refine ⟨fun h => ?_, fun h => h ▸ ofTag_tag k⟩
  unfold ofTag at h
  split at h
  · cases h; assumption
  · split at h
    · cases h; assumption
    · split at h
      · cases h; assumption
      · cases h

/-- A text that is the tag of no kind is refused and kept in the error. -/
theorem ofTag_of_forall_ne {t : String} (h : ∀ k : Kind, t ≠ k.tag) : ofTag t = .error ⟨t⟩ := by
  simp [ofTag, h]

/-- The error of reading holds the text that was read, and that text declares no kind. -/
theorem ofTag_eq_error_iff {t : String} {e : UnknownKind} :
    ofTag t = .error e ↔ e = ⟨t⟩ ∧ ∀ k : Kind, t ≠ k.tag := by
  constructor
  · intro h
    have hne : ∀ k : Kind, t ≠ k.tag := by
      rintro k rfl
      simp at h
    rw [ofTag_of_forall_ne hne] at h
    cases h
    exact ⟨rfl, hne⟩
  · rintro ⟨rfl, h⟩
    exact ofTag_of_forall_ne h

end Kind

end GrammarTarget
