import GrammarTarget.Session

/-!
# Requests of a session meet in its text alone

A session is a machine that gives one reply for each request, and its state is the text that it
holds. The state after some requests is what they have written, put together
(`Session.textAfter_eq`), and reply `i` is the one that request `i` gives in the state after the
first `i` (`Session.getElem?_replies`). A request that writes nothing does not look at the text
either (`Request.reply_of_silent`), so it might as well be the only one. The replies of a session
therefore come apart: those of the requests that write are the replies of a session of these alone,
and each of the others is the reply of a session of one request.
-/

namespace GrammarTarget

namespace Request

/-- Whether a request adds to the text of the session. -/
def writes (r : Request) : Bool :=
  r.addition?.isSome

theorem writes_of_silent {r : Request} (h : r.addition? = none) : r.writes = false := by
  rw [writes, h, Option.isSome_none]

/-- What adds something writes, even if it is the empty text. -/
theorem writes_of_addition {r : Request} {s : String} (h : r.addition? = some s) :
    r.writes = true := by
  rw [writes, h, Option.isSome_some]

/-- A request that writes nothing is answered in the same way whatever the text is. -/
theorem reply_of_silent {r : Request} (h : r.addition? = none) (t : Target) (a b : String) :
    r.reply t a = r.reply t b := by
  cases r with
  | appendEscape | appendText => exact nomatch h
  | describeTarget | kind | describeGrammar | artifactFile | artifactFiles | describeArtifacts
  | textCollisions | symbolCollisions | checkTexts | checkSymbols | classify | compareCategories
  | buildTable | integerTypeNames | run => rfl

/-- Two requests write: one the escape of a code point, the other the text that it gives. -/
theorem eq_append_of_addition? {r : Request} {s : String} (h : r.addition? = some s) :
    (∃ codePoint, r = .appendEscape codePoint ∧ s = Escape.escape codePoint) ∨
      r = .appendText s := by
  cases r with
  | appendEscape codePoint => exact Or.inl ⟨codePoint, rfl, (Option.some.inj h).symm⟩
  | appendText text => exact Or.inr (congrArg appendText (Option.some.inj h))
  | describeTarget | kind | describeGrammar | artifactFile | artifactFiles | describeArtifacts
  | textCollisions | symbolCollisions | checkTexts | checkSymbols | classify | compareCategories
  | buildTable | integerTypeNames | run => exact nomatch h

/-- A request that writes answers with the text of the session. -/
theorem reply_of_addition {r : Request} {s : String} (h : r.addition? = some s) (t : Target)
    (text : String) : r.reply t text = .ok (pure (.text text)) := by
  rcases eq_append_of_addition? h with ⟨codePoint, rfl, -⟩ | rfl
  · rfl
  · rfl

end Request

namespace Session

variable (t : Target)

/-- What requests write, one after the other. -/
def written (requests : List Request) : String :=
  String.join (requests.filterMap Request.addition?)

/-- The text that a session holds after requests. -/
def textAfter (text : String) (requests : List Request) : String :=
  requests.foldl (fun text request => (step t text request).1) text

/-! ## One request -/

/-- A request that adds nothing leaves the text as it is. -/
theorem step_of_silent {r : Request} (h : r.addition? = none) (text : String) :
    step t text r = (text, r.reply t text) := by
  rw [step, h]
  show (text ++ "", r.reply t (text ++ "")) = _
  rw [String.append_empty]

/-- A request that adds something is answered with the text that it has made. -/
theorem step_of_addition {r : Request} {s : String} (h : r.addition? = some s) (text : String) :
    step t text r = (text ++ s, .ok (pure (.text (text ++ s)))) := by
  rw [step, h, Request.reply_of_addition h]
  rfl

/-- A request that fails leaves the text as it is. -/
theorem step_of_error {r : Request} {text : String} {e : Failure}
    (h : (step t text r).2 = .error e) : (step t text r).1 = text := by
  cases hr : r.addition? with
  | none => rw [step_of_silent t hr]
  | some s =>
      rw [step_of_addition t hr] at h
      exact nomatch h

/-! ## All requests -/

variable (text : String) (r : Request) (rs : List Request)

theorem replies_cons :
    replies t text (r :: rs) = (step t text r).2 :: replies t (step t text r).1 rs := rfl

/-- A session holds what it held before, and then what has been written. -/
theorem textAfter_eq : textAfter t text rs = text ++ written rs := by
  induction rs generalizing text with
  | nil => exact (String.append_empty).symm
  | cons r rs ih =>
      show textAfter t (step t text r).1 rs = _
      rw [ih, written, written, List.filterMap_cons]
      cases h : r.addition? with
      | none => rw [step_of_silent t h]
      | some s => rw [step_of_addition t h, String.join_cons, String.append_assoc]

theorem length_replies : (replies t text rs).length = rs.length := by
  induction rs generalizing text with
  | nil => rfl
  | cons r rs ih => rw [replies_cons, List.length_cons, List.length_cons, ih]

/-- Each reply is the one that its request gives in the state that it finds. -/
theorem getElem?_replies (i : Nat) :
    (replies t text rs)[i]?
      = rs[i]?.map fun r => (step t (textAfter t text (rs.take i)) r).2 := by
  induction rs generalizing text i with
  | nil => rfl
  | cons r rs ih =>
      cases i with
      | zero => rfl
      | succ i =>
          rw [replies_cons, List.getElem?_cons_succ, List.getElem?_cons_succ, ih,
            List.take_succ_cons]
          rfl

/-! ## Requests and their replies -/

/-- The requests of a session, each with its reply. -/
def transcript (text : String) (requests : List Request) : List (Request × Reply) :=
  requests.zip (replies t text requests)

theorem transcript_cons :
    transcript t text (r :: rs)
      = (r, (step t text r).2) :: transcript t (step t text r).1 rs := rfl

/-- The requests that write are answered as if there were no others. -/
theorem filter_transcript_writes :
    (transcript t text rs).filter (·.1.writes) = transcript t text (rs.filter Request.writes) := by
  -- a silent request that is dropped has not moved the state that the rest starts from
  induction rs generalizing text with
  | nil => rfl
  | cons r rs ih =>
      rw [transcript_cons, List.filter_cons, List.filter_cons, ih]
      cases h : r.addition? with
      | none =>
          rw [step_of_silent t h]
          simp only [Request.writes_of_silent h, Bool.false_eq_true, if_false]
      | some s =>
          simp only [Request.writes_of_addition h, if_true]
          rw [transcript_cons]

/-- The others are answered as if there were no session. -/
theorem filter_transcript_silent :
    (transcript t text rs).filter (fun entry => !entry.1.writes)
      = (rs.filter fun r => !r.writes).map fun r => (r, r.reply t "") := by
  induction rs generalizing text with
  | nil => rfl
  | cons r rs ih =>
      rw [transcript_cons, List.filter_cons, List.filter_cons, ih]
      cases h : r.addition? with
      | none =>
          simp only [Request.writes_of_silent h, Bool.not_false, if_true]
          rw [List.map_cons, step_of_silent t h, Request.reply_of_silent h t text ""]
      | some s =>
          simp only [Request.writes_of_addition h, Bool.not_true, Bool.false_eq_true, if_false]

/-- Moving silent requests moves their replies along. -/
theorem transcript_perm {qs : List Request}
    (hwrites : rs.filter Request.writes = qs.filter Request.writes)
    (hsilent : (rs.filter fun r => !r.writes).Perm (qs.filter fun r => !r.writes)) :
    (transcript t text rs).Perm (transcript t text qs) := by
  have hparts : ∀ requests : List Request,
      (transcript t text (requests.filter Request.writes) ++
        (requests.filter fun r => !r.writes).map fun r => (r, r.reply t "")).Perm
          (transcript t text requests) := by
    intro requests
    rw [← filter_transcript_writes, ← filter_transcript_silent t text]
    exact List.filter_append_perm _ _
  -- in between, the requests that write come first and the silent ones after them
  refine (hparts rs).symm.trans (List.Perm.trans ?_ (hparts qs))
  rw [hwrites]
  exact (hsilent.map _).append_left _

end Session

open Session (written transcript)

/-- **The requests of a session meet in its text alone.** Each has one reply. A request that writes
    nothing gets the reply that it gets when it is the only one; one that writes gets all that has
    been written before it and then its own text. Nothing else changes the text, least of all a
    request that fails. So requests that write nothing may be put elsewhere, among themselves and
    among those that write: they take their replies along, and the others keep theirs. -/
theorem requests_meet_in_text_alone (t : Target) (requests : List Request) :
    (Session.replies t "" requests).length = requests.length ∧
    (∀ (i : Nat) (r : Request), requests[i]? = some r → r.addition? = none →
      ∃ reply, (Session.replies t "" requests)[i]? = some reply ∧
        Session.replies t "" [r] = [reply]) ∧
    (∀ (i : Nat) (codePoint : UInt32), requests[i]? = some (.appendEscape codePoint) →
      (Session.replies t "" requests)[i]?
        = some (.ok (pure (.text (t.appendEscape (written (requests.take i)) codePoint))))) ∧
    (∀ (i : Nat) (text : String), requests[i]? = some (.appendText text) →
      (Session.replies t "" requests)[i]?
        = some (.ok (pure (.text (written (requests.take i) ++ text))))) ∧
    Session.textAfter t "" requests = written requests ∧
    (∀ (text : String) (r : Request),
      (r.addition? = none ∨ ∃ e, (Session.step t text r).2 = .error e) →
        (Session.step t text r).1 = text) ∧
    (∀ others : List Request, requests.filter Request.writes = others.filter Request.writes →
      (requests.filter fun r => !r.writes).Perm (others.filter fun r => !r.writes) →
        (transcript t "" requests).Perm (transcript t "" others) ∧
        (transcript t "" requests).filter (·.1.writes)
          = (transcript t "" others).filter (·.1.writes)) := by
  have hreply : ∀ (i : Nat) (r : Request), requests[i]? = some r →
      (Session.replies t "" requests)[i]?
        = some (Session.step t (written (requests.take i)) r).2 := by
    intro i r hr
    rw [Session.getElem?_replies, hr, Session.textAfter_eq, String.empty_append, Option.map_some]
  refine ⟨Session.length_replies t "" requests, ?_, ?_, ?_, ?_, ?_, ?_⟩
  · intro i r hr hsilent
    refine ⟨_, hreply i r hr, ?_⟩
    rw [Session.replies_cons, Session.step_of_silent t hsilent, Session.step_of_silent t hsilent,
      Request.reply_of_silent hsilent t "" (written (requests.take i))]
    rfl
  · intro i codePoint hr
    rw [hreply i _ hr]
    rfl
  · intro i text hr
    rw [hreply i _ hr]
    rfl
  · rw [Session.textAfter_eq, String.empty_append]
  · rintro text r (hsilent | ⟨e, herror⟩)
    · rw [Session.step_of_silent t hsilent]
    · exact Session.step_of_error t herror
  · intro others hwrites hsilent
    refine ⟨Session.transcript_perm t "" requests hwrites hsilent, ?_⟩
    rw [Session.filter_transcript_writes, Session.filter_transcript_writes, hwrites]

/-- Between two requests that write stand one that is refused and one that is told to the log. -/
theorem requests_meet_in_text_alone_refused :
    (Session.replies Target.rust "" [.appendText "x", .kind "tree",
        .artifactFile ⟨none, none⟩ .recognizer false, .appendEscape 0x41])[3]?
      = some (.ok (pure (.text "x\\u\x7b0041\x7d"))) := by
  obtain ⟨-, -, hescape, -⟩ := requests_meet_in_text_alone Target.rust
    [.appendText "x", .kind "tree", .artifactFile ⟨none, none⟩ .recognizer false,
      .appendEscape 0x41]
  exact hescape 3 0x41 rfl

end GrammarTarget
