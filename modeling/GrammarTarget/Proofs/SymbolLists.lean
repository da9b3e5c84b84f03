import GrammarTarget.Proofs.Warnings

/-!
# Lists of symbols and the symbols in them

Symbols are checked one by one or as a list. A list has collisions at exactly the places where the
symbol that stands there collides (`Target.foundAt_collisions`), and the log is told of them as if
each symbol had been checked by itself; only then does it get their number, which is a record of
the list. All of this depends on the texts of the symbols alone (`Target.collisions_congr`).

The number is the one thing that two lists do not keep when they are joined: there is one record
for both together. Of the texts that collide every one collides again, so to check the collisions
of a list is to check the list (`Target.collisions_value`).
-/

namespace GrammarTarget

open Log (Logged Record Level)

namespace Log

/-- The records of one level, in their order. -/
def ofLevel (level : Level) (records : List Record) : List Record :=
  records.filter fun r => r.level = level

theorem ofLevel_append (level : Level) (before after : List Record) :
    ofLevel level (before ++ after) = ofLevel level before ++ ofLevel level after :=
  List.filter_append before after

/-- Where all records are of one level, the others have none. -/
theorem ofLevel_eq {records : List Record} {l : Level} (h : ∀ r ∈ records, r.level = l)
    (level : Level) : ofLevel level records = if level = l then records else [] := by
  by_cases hlevel : level = l
  · rw [if_pos hlevel, ofLevel, List.filter_eq_self]
    intro r hr
    exact decide_eq_true ((h r hr).trans hlevel.symm)
  · rw [if_neg hlevel, ofLevel, List.filter_eq_nil_iff]
    intro r hr hmatch
    exact hlevel ((of_decide_eq_true hmatch).symm.trans (h r hr))

end Log

namespace Target

/-- The texts that are found in a list of symbols stand at the given places: those of the symbols
    that collide, in ascending order. -/
structure FoundAt {α : Type} [HasText α] (t : Target) (symbols : List α) (places : List Nat)
    (found : List String) : Prop where
  ascending : places.Pairwise (· < ·)
  mem_iff : ∀ i, i ∈ places ↔
    ∃ symbol, symbols[i]? = some symbol ∧ (t.symbolCollides symbol).value = true
  /-- There is a text for each place, that of the symbol at the place. -/
  texts : found.map some = places.map fun i => symbols[i]?.map HasText.text

/-- What is found in a list of symbols and told of it is what its symbols have, and their
    number. -/
structure IsCheckOf {α : Type} [HasText α] (t : Target) (symbols : List α)
    (check : Logged (List String)) : Prop where
  places : ∃ places, t.FoundAt symbols places check.value
  log_eq : check.log = check.value.map (Record.collision t.language) ++
    if 0 < check.value.length then [.collisionCount t.language check.value.length] else []
  trace : Log.ofLevel .trace check.log = check.value.map (Record.collision t.language)
  /-- The records of the collisions are those that the symbols have by themselves. -/
  alone : Log.ofLevel .trace check.log
    = symbols.flatMap fun symbol => (t.symbolCollides symbol).log

/-- What is found in two lists that are joined: all that is found in either, with one number. -/
structure IsJoined (t : Target) (first second joined : Logged (List String)) : Prop where
  value : joined.value = first.value ++ second.value
  trace : Log.ofLevel .trace joined.log
    = Log.ofLevel .trace first.log ++ Log.ofLevel .trace second.log
  debug : Log.ofLevel .debug joined.log
    = if 0 < first.value.length + second.value.length then
        [.collisionCount t.language (first.value.length + second.value.length)] else []

end Target

/-! ## Places -/

section

variable {α : Type}

/-- The places of a list where a test is passed. -/
def placesOf (p : α → Bool) (as : List α) : List Nat :=
  (as.zipIdx.filter fun entry => p entry.1).map Prod.snd

variable (p : α → Bool) (as : List α)

theorem placesOf_ascending : (placesOf p as).Pairwise (· < ·) := by
  have hall : (as.zipIdx.map Prod.snd).Pairwise (· < ·) := by
    rw [List.zipIdx_map_snd]
    exact List.pairwise_lt_range'
  exact hall.sublist (List.filter_sublist.map Prod.snd)

/-- The places are exactly those where the test is passed. -/
theorem mem_placesOf_iff {i : Nat} : i ∈ placesOf p as ↔ ∃ a, as[i]? = some a ∧ p a = true := by
  constructor
  · intro h
    obtain ⟨⟨a, j⟩, hentry, rfl⟩ := List.mem_map.mp h
    obtain ⟨hmem, hp⟩ := List.mem_filter.mp hentry
    exact ⟨a, List.mem_zipIdx_iff_getElem?.mp hmem, hp⟩
  · rintro ⟨a, ha, hp⟩
    have hmem : (a, i) ∈ as.zipIdx := List.mem_zipIdx_iff_getElem?.mpr ha
    exact List.mem_map.mpr ⟨(a, i), List.mem_filter.mpr ⟨hmem, hp⟩, rfl⟩

/-- What stands at the places are the elements that pass. -/
theorem map_getElem?_placesOf :
    (placesOf p as).map (fun i => as[i]?) = (as.filter p).map some := by
  have hentries : ∀ entry ∈ as.zipIdx.filter fun entry => p entry.1,
      as[entry.2]? = some entry.1 := by
    intro entry h
    exact List.mem_zipIdx_iff_getElem?.mp ((List.mem_filter.mp h).1)
  calc (placesOf p as).map (fun i => as[i]?)
      = (as.zipIdx.filter fun entry => p entry.1).map fun entry => as[entry.2]? := List.map_map
    _ = (as.zipIdx.filter fun entry => p entry.1).map fun entry => some entry.1 :=
        List.map_congr_left hentries
    _ = ((as.zipIdx.map Prod.fst).filter p).map some := by
        rw [List.filter_map, List.map_map]
        rfl
    _ = (as.filter p).map some := by rw [List.zipIdx_map_fst]

end

namespace Target

variable {α β : Type} [HasText α] [HasText β] (t : Target)

/-! ## Texts alone -/

/-- Lists of the same texts are checked alike, whatever holds the texts. -/
theorem collisions_congr {symbols : List α} {others : List β}
    (h : others.map HasText.text = symbols.map HasText.text) :
    t.collisions others = t.collisions symbols := by
  rw [collisions, collisions, h]

/-- What is found are the texts of the symbols that collide. -/
theorem value_collisions_eq (symbols : List α) :
    (t.collisions symbols).value
      = (symbols.filter fun symbol => (t.symbolCollides symbol).value).map HasText.text := by
  rw [value_collisions, List.filter_map]
  simp only [symbolCollides, value_collides]
  rfl

/-- What is found in a list stands at the places of the symbols that collide. -/
theorem foundAt_collisions (symbols : List α) :
    t.FoundAt symbols (placesOf (fun symbol => (t.symbolCollides symbol).value) symbols)
      (t.collisions symbols).value := by
  refine ⟨placesOf_ascending _ _, fun i => mem_placesOf_iff _ _, ?_⟩
  have htexts := congrArg (List.map (Option.map HasText.text))
    (map_getElem?_placesOf (fun symbol => (t.symbolCollides symbol).value) symbols)
  rw [List.map_map, List.map_map] at htexts
  rw [value_collisions_eq, List.map_map]
  exact htexts.symm

/-! ## Records -/

/-- The log of a list is that of its symbols, and then the number of collisions. -/
theorem log_collisions_eq (symbols : List α) :
    (t.collisions symbols).log
      = (symbols.flatMap fun symbol => (t.symbolCollides symbol).log) ++
        t.countRecords (t.collisions symbols).value := by
  rw [log_collisions, List.flatMap_map]
  rfl

/-- The symbols by themselves tell of the same collisions. -/
theorem flatMap_log_symbolCollides (symbols : List α) :
    (symbols.flatMap fun symbol => (t.symbolCollides symbol).log)
      = (t.collisions symbols).value.map (Record.collision t.language) := by
  have htexts := t.flatMap_log_collides (symbols.map HasText.text)
  rw [List.flatMap_map, ← value_collisions] at htexts
  exact htexts

/-- Collisions are told on the most detailed level. -/
theorem level_of_mem_map_collision {found : List String} :
    ∀ r ∈ found.map (Record.collision t.language), r.level = .trace := by
  intro r hr
  obtain ⟨text, -, rfl⟩ := List.mem_map.mp hr
  rfl

/-- The number of collisions is told one level above them. -/
theorem level_of_mem_countRecords {found : List String} :
    ∀ r ∈ t.countRecords found, r.level = .debug := by
  intro r hr
  rw [countRecords_eq] at hr
  split at hr
  · rw [List.mem_singleton.mp hr]
    rfl
  · cases hr

/-- The two kinds of records can be told apart by their level, and there are no others. -/
theorem ofLevel_log_collisions (level : Level) (symbols : List α) :
    Log.ofLevel level (t.collisions symbols).log
      = (if level = .trace then
          (t.collisions symbols).value.map (Record.collision t.language) else []) ++
        if level = .debug then t.countRecords (t.collisions symbols).value else [] := by
  rw [log_collisions_eq, flatMap_log_symbolCollides, Log.ofLevel_append,
    Log.ofLevel_eq t.level_of_mem_map_collision, Log.ofLevel_eq t.level_of_mem_countRecords]

/-- The most detailed records are those of the collisions. -/
theorem ofLevel_trace_log (symbols : List α) :
    Log.ofLevel .trace (t.collisions symbols).log
      = (t.collisions symbols).value.map (Record.collision t.language) := by
  rw [ofLevel_log_collisions]
  exact List.append_nil _

theorem ofLevel_debug_log (symbols : List α) :
    Log.ofLevel .debug (t.collisions symbols).log
      = t.countRecords (t.collisions symbols).value := by
  rw [ofLevel_log_collisions]
  rfl

theorem isCheckOf_collisions (symbols : List α) : t.IsCheckOf symbols (t.collisions symbols) := by
  refine ⟨⟨_, t.foundAt_collisions symbols⟩, ?_, t.ofLevel_trace_log symbols, ?_⟩
  · rw [log_collisions_eq, flatMap_log_symbolCollides, countRecords_eq]
  · rw [ofLevel_trace_log, flatMap_log_symbolCollides]

/-! ## Joined lists and lists of collisions -/

/-- The check of joined lists has what the checks of both have, and one number. -/
theorem isJoined_collisions (symbols more : List α) :
    t.IsJoined (t.collisions symbols) (t.collisions more) (t.collisions (symbols ++ more)) := by
  have hvalue : (t.collisions (symbols ++ more)).value
      = (t.collisions symbols).value ++ (t.collisions more).value := by
    simp only [value_collisions, List.map_append, List.filter_append]
  refine ⟨hvalue, ?_, ?_⟩
  · rw [ofLevel_trace_log, ofLevel_trace_log, ofLevel_trace_log, hvalue, List.map_append]
  · rw [ofLevel_debug_log, hvalue, countRecords_eq, List.length_append]

/-- The collisions of a list are checked as the list was. -/
theorem collisions_value (symbols : List α) :
    t.collisions (t.collisions symbols).value = t.collisions symbols := by
  have hvalue :
      (t.collisions (t.collisions symbols).value).value = (t.collisions symbols).value := by
    rw [value_collisions_texts, value_collisions, List.filter_filter]
    simp only [Bool.and_self]
  apply Log.Logged.ext hvalue
  rw [log_collisions_eq, log_collisions_eq, flatMap_log_symbolCollides,
    flatMap_log_symbolCollides, hvalue]

end Target

/-- **A list of symbols is checked as its symbols are.** What is found are the texts at exactly the
    places where a symbol collides, and the log has a record for each of them, the one that the
    symbol has by itself, and then one with their number, if there are any. So two lists that are
    joined have their collisions one after the other, and the records of these as well, but one
    number; what is found is found again; and whatever holds the texts, be it text or a node of
    either role, makes no difference. -/
theorem collisions_stand_in_place (t : Target) {α : Type} [HasText α] (symbols more : List α) :
    t.IsCheckOf symbols (t.collisions symbols) ∧
    t.IsJoined (t.collisions symbols) (t.collisions more) (t.collisions (symbols ++ more)) ∧
    t.collisions (t.collisions symbols).value = t.collisions symbols ∧
    ∀ (β : Type) [HasText β] (others : List β),
      others.map HasText.text = symbols.map HasText.text →
        t.collisions others = t.collisions symbols := by
  refine ⟨t.isCheckOf_collisions symbols, t.isJoined_collisions symbols more,
    t.collisions_value symbols, ?_⟩
  intro β _ others htexts
  exact t.collisions_congr htexts

/-- A reserved word that two nodes have, a rule and a token, and a text that is not reserved. -/
theorem collisions_stand_in_place_roles :
    [Symbol.mk .rule "if", ⟨.token, "x"⟩, ⟨.token, "if"⟩].map HasText.text
        = ["if", "x", "if"].map HasText.text ∧
      Target.rust.collisions [Symbol.mk .rule "if", ⟨.token, "x"⟩, ⟨.token, "if"⟩]
        = Target.rust.collisions ["if", "x", "if"] ∧
      (Target.rust.collisions ["if", "x", "if"]).log
        = [.collision "Rust" "if", .collision "Rust" "if", .collisionCount "Rust" 2] := by
  obtain ⟨hcheck, -, -, htexts⟩ := collisions_stand_in_place Target.rust ["if", "x", "if"] []
  have hfound : (Target.rust.collisions ["if", "x", "if"]).value = ["if", "if"] := by
    have hcontains : Target.rust.reserved.contains
        = fun word => (Reserved.Category.all.find? fun c => word ∈ c.words).isSome :=
      funext Reserved.Table.contains_standard
    rw [Target.value_collisions, hcontains]
    decide
  refine ⟨rfl, htexts Symbol _ rfl, ?_⟩
  rw [hcheck.log_eq, hfound]
  rfl

end GrammarTarget
