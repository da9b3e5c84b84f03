import GrammarTarget.Proofs.FileNames

/-!
# Names with an underscore

Lower case depends on the context in one place: a capital sigma looks back and ahead, over any run
of characters that are case ignorable, for a cased letter. An underscore is neither of the two, so
it ends both looks, and a text in which one stands is put in lower case part by part
(`Unicode.lowercase_underscore`). No ending that is left out of a name has an underscore in it, so
what is left out of the whole is left out of the last part (`withoutEnding_underscore`). Both
together split the names of files.
-/

namespace GrammarTarget

namespace Unicode

/-! ## Looking for a cased letter -/

/-- A character that ends the look for a cased letter, without being one. -/
structure IsBarrier (c : Char) : Prop where
  not_ignorable : isCaseIgnorable c = false
  not_cased     : isCased c = false

/-- The underscore ends a look in either direction. -/
theorem isBarrier_underscore : IsBarrier '_' :=
  ⟨isCaseIgnorable_underscore, isCased_underscore⟩

/-- A sigma is itself what another sigma may find when it looks for a cased letter. -/
theorem isCased_capitalSigma : isCased capitalSigma = true := by
  decide +kernel

variable {c : Char}

/-- A barrier is mapped without a view of its neighbours. -/
theorem IsBarrier.ne_capitalSigma (h : IsBarrier c) : c ≠ capitalSigma := by
  rintro rfl
  have hcased := isCased_capitalSigma
  rw [h.not_cased] at hcased
  exact Bool.false_ne_true hcased

/-- Nothing behind a barrier is seen. -/
theorem IsBarrier.startsCased_append (h : IsBarrier c) (near far : List Char) :
    startsCased (near ++ c :: far) = startsCased near := by
  induction near with
  | nil =>
      show (if isCaseIgnorable c then startsCased far else isCased c) = false
      rw [h.not_ignorable, if_neg Bool.false_ne_true, h.not_cased]
  | cons d near ih =>
      show (if isCaseIgnorable d then startsCased (near ++ c :: far) else isCased d)
        = if isCaseIgnorable d then startsCased near else isCased d
      rw [ih]

/-! ## Lower case part by part -/

/-- A sigma before a barrier does not depend on what is behind it. -/
theorem IsBarrier.lowerAfter_append (h : IsBarrier c) (before cs ds : List Char) :
    lowerAfter before (cs ++ c :: ds)
      = lowerAfter before cs ++ lowerAfter (cs.reverse ++ before) (c :: ds) := by
  -- what has been read becomes part of the text before the rest
  induction cs generalizing before with
  | nil => rfl
  | cons d cs ih =>
      rw [List.cons_append, lowerAfter_cons, lowerAfter_cons, ih, lowerSigma, lowerSigma,
        h.startsCased_append, List.reverse_cons, List.append_assoc, List.append_assoc,
        List.singleton_append]

/-- A sigma behind a barrier does not depend on what is before it. -/
theorem IsBarrier.lowerAfter_behind (h : IsBarrier c) (near far cs : List Char) :
    lowerAfter (near ++ c :: far) cs = lowerAfter near cs := by
  induction cs generalizing near with
  | nil => rfl
  | cons d cs ih =>
      have hcs : lowerAfter (d :: (near ++ c :: far)) cs = lowerAfter (d :: near) cs :=
        ih (d :: near)
      rw [lowerAfter_cons, lowerAfter_cons, hcs, lowerSigma, lowerSigma, h.startsCased_append]

/-- A barrier keeps the texts on its two sides apart. -/
theorem IsBarrier.lowerAfter_split (h : IsBarrier c) (cs ds : List Char) :
    lowerAfter [] (cs ++ c :: ds) = lowerAfter [] cs ++ lowerChar c ++ lowerAfter [] ds := by
  have hds : lowerAfter (c :: (cs.reverse ++ [])) ds = lowerAfter [] ds :=
    h.lowerAfter_behind [] _ ds
  rw [h.lowerAfter_append, lowerAfter_cons, if_neg h.ne_capitalSigma, hds, List.append_assoc]

theorem lowerChar_underscore : lowerChar '_' = ['_'] := by
  decide +kernel

end Unicode

theorem toList_underscore (a b : String) :
    (a ++ "_" ++ b).toList = a.toList ++ '_' :: b.toList := by
  rw [String.toList_append, String.toList_append, List.append_assoc]
  rfl

namespace Unicode

/-- **A text with an underscore is put in lower case part by part.** -/
theorem lowercase_underscore (a b : String) :
    lowercase (a ++ "_" ++ b) = lowercase a ++ "_" ++ lowercase b := by
  apply String.toList_inj.mp
  rw [toList_lowercase, toList_underscore, isBarrier_underscore.lowerAfter_split,
    lowerChar_underscore, String.toList_append, String.toList_append, toList_lowercase,
    toList_lowercase]
  rfl

/-- The second sigma ends a part, the third begins one. -/
example : lowercase "ΑΣΑΣ_ΣΑ" = "ασας_σα" := by decide +kernel

end Unicode

open Unicode (lowercase)

/-! ## Stems and endings -/

/-- Whether a text ends with an ending does not depend on what stands before a character that the
    ending lacks. -/
theorem suffix_append_cons_iff {c : Char} {ending : List Char} (h : c ∉ ending)
    (as bs : List Char) : ending <:+ as ++ c :: bs ↔ ending <:+ bs := by
  have hbs : bs <:+ as ++ c :: bs := ⟨as ++ [c], by simp⟩
  constructor
  · intro hending
    -- both end the text; an ending that is longer than the last part would take in the character
    rcases List.suffix_or_suffix_of_suffix hending (List.suffix_append as (c :: bs)) with hin | hout
    · rcases List.suffix_cons_iff.mp hin with rfl | hin
      · exact absurd List.mem_cons_self h
      · exact hin
    · exact absurd (hout.subset List.mem_cons_self) h
  · intro hending
    exact hending.trans hbs

/-- An ending without an underscore is left out of the last part. -/
theorem withoutEnding_underscore {ending : String} (h : '_' ∉ ending.toList) (a b : String) :
    withoutEnding ending (a ++ "_" ++ b) = a ++ "_" ++ withoutEnding ending b := by
  by_cases hb : ending.toList <:+ b.toList
  · obtain ⟨stem, hstem⟩ := exists_eq_append_of_suffix hb
    rw [hstem, ← String.append_assoc, withoutEnding_append, withoutEnding_append]
  · have hwhole : ¬ ending.toList <:+ (a ++ "_" ++ b).toList := by
      rw [toList_underscore, suffix_append_cons_iff h]
      exact hb
    rw [withoutEnding_of_not_suffix hb, withoutEnding_of_not_suffix hwhole]

/-- The stem of a name is that of its last part, with the parts before it. -/
theorem Artifact.stem_underscore (x : Artifact) (k : Kind) (a b : String) :
    x.stem k (a ++ "_" ++ b) = a ++ "_" ++ x.stem k b := by
  cases x with
  | recognizer =>
      cases k with
      | parser => exact withoutEnding_underscore (by decide) a b
      | lexer => exact withoutEnding_underscore (by decide) a b
      | combined => rfl
  | listener => rfl
  | visitor => rfl

/-! ## Names of files -/

/-- What a file in Rust is called before it is put in lower case. -/
def fullName (stem : String) (r : FileRole) : String :=
  stem ++ "_" ++ (r.label ++ ".rs")

theorem lowercase_label (r : FileRole) : lowercase (r.label ++ ".rs") = r.label ++ ".rs" := by
  cases r <;> decide +kernel

/-- It makes no difference whether a name is put in lower case before its ending is added or
    after. -/
theorem fileName_eq_lowercase (stem : String) (r : FileRole) (header : Bool) :
    Target.rust.fileName stem r header = lowercase (fullName stem r) := by
  rw [fullName, Unicode.lowercase_underscore, lowercase_label, ← String.append_assoc]
  rfl

/-- A file is called by the parts of its stem, one by one. -/
theorem Target.fileName_underscore (t : Target) (a stem : String) (r : FileRole) (header : Bool) :
    t.fileName (a ++ "_" ++ stem) r header = lowercase a ++ "_" ++ t.fileName stem r header := by
  rw [fileName, fileName, Unicode.lowercase_underscore]
  simp only [String.append_assoc]

theorem append_underscore_ne_empty (a b : String) : a ++ "_" ++ b ≠ "" := by
  intro h
  have hchars := congrArg String.toList h
  rw [toList_underscore] at hchars
  exact List.append_ne_nil_of_right_ne_nil _ (List.cons_ne_nil _ _) hchars

/-- **The files of a grammar whose name has an underscore are named part by part.** The part before
    the underscore is put in lower case, and what follows is the file of a grammar that is called by
    the part behind it: what is left out of the whole name is left out of that part alone. No sigma
    depends on the other part, nor on the ending of the file; the whole could as well be put in
    lower case as one text. -/
theorem files_named_by_parts (a : String) (b : DeclaredName) (k : Kind) (x : Artifact)
    (header : Bool) :
    ∃ file stem : String,
      (Descriptor.mk (some b.text) (some k)).HasFile Target.rust x header file ∧
      (Descriptor.mk (some (a ++ "_" ++ b.text)) (some k)).HasFile Target.rust x header
        (lowercase a ++ "_" ++ file) ∧
      IsStem (x.leftOut? k) b.text stem ∧
      IsStem (x.leftOut? k) (a ++ "_" ++ b.text) (a ++ "_" ++ stem) ∧
      file = lowercase (fullName stem (x.role k)) ∧
      lowercase a ++ "_" ++ file = lowercase (a ++ "_" ++ fullName stem (x.role k)) := by
  refine ⟨_, x.stem k b.text, Descriptor.hasFile_known Target.rust x b k header, ?_,
    Artifact.isStem_iff.mpr rfl, ?_, fileName_eq_lowercase _ _ _, ?_⟩
  · have hwhole := Descriptor.hasFile_known Target.rust x
      ⟨a ++ "_" ++ b.text, append_underscore_ne_empty a b.text⟩ k header
    rw [Artifact.stem_underscore, Target.fileName_underscore] at hwhole
    exact hwhole
  · rw [Artifact.isStem_iff, Artifact.stem_underscore]
  · rw [Unicode.lowercase_underscore, fileName_eq_lowercase]

end GrammarTarget
