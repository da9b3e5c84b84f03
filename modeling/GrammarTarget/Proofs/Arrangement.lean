import GrammarTarget.CommandLine.Run

/-!
# Options and symbols mix freely

A command line is arranged from groups: a setting with its value, in any of its spellings, a flag,
or a symbol. If no option is given twice, the reading of it gives what the groups say, in whatever
order they stand and however they are spelled.

The reading keeps a setting open until the next argument tells that its value is complete, so the
options that are stored lag behind the groups. The invariant is therefore about the options once
what is open is settled: reading a group leads from a progress that settles to `o` to one that
settles to `o.give item` (`Spells.read`). Along a whole arrangement every item finds its option
not given yet (`Options.Fits`), which the induction of `read_groups` carries on.
-/

namespace GrammarTarget.CommandLine

/-! ## Groups of arguments -/

/-- A switch that asks for something; the others end the run. -/
inductive Flag where
  | header
  | reserved
  | targetVersion
  deriving DecidableEq

/-- What a group of arguments stands for, whatever its spelling. -/
inductive Item where
  | value (setting : Setting) (value : String)
  | flag (flag : Flag)
  | symbol (text : String)
  deriving DecidableEq

/-- The long spelling of a setting. -/
def Setting.long : Setting → String
  | name => "--name"
  | kind => "--kind"

/-- The switch that a flag is. -/
def Flag.switch : Flag → Switch
  | header        => .header
  | reserved      => .reserved
  | targetVersion => .targetVersion

/-- The long spelling of a flag, which is the only one. -/
def Flag.long : Flag → String
  | header        => "--header"
  | reserved      => "--reserved"
  | targetVersion => "--target-version"

/-- Whether a text is no option: if it begins with a hyphen, it is just that. -/
def IsPlain (text : String) : Prop :=
  text.toList.head? = some '-' → text.toList = ['-']

/-- Whether a text is plain can be decided, so arrangements of given texts can be written down. -/
instance (text : String) : Decidable (IsPlain text) :=
  inferInstanceAs (Decidable (_ → _))

/-- The arguments that a group may be spelled with. -/
inductive Spells : Item → List String → Prop where
  /-- `--name V` or `--kind V`. -/
  | apart (s : Setting) (v : String) (h : IsPlain v) : Spells (.value s v) [s.long, v]
  /-- `--name=V` or `--kind=V`. -/
  | attached (s : Setting) (v : String) : Spells (.value s v) [s.long ++ "=" ++ v]
  /-- `-k V`. -/
  | letterApart (v : String) (h : IsPlain v) : Spells (.value .kind v) ["-k", v]
  /-- `-kV`. -/
  | letterJoined (v : String) (hne : v ≠ "") (h : v.toList.head? ≠ some '=') :
      Spells (.value .kind v) ["-k" ++ v]
  /-- `-k=V`. -/
  | letterAttached (v : String) : Spells (.value .kind v) ["-k=" ++ v]
  | flag (f : Flag) : Spells (.flag f) [f.long]
  | symbol (text : String) (h : IsPlain text) : Spells (.symbol text) [text]

/-! ## Single arguments -/

namespace Argument

theorem ofText_separator : ofText "--" = .separator := by
  decide

theorem ofText_long (s : Setting) : ofText s.long = .setting s none := by
  cases s <;> decide

/-- Whatever stands behind the first equals sign is the value, further equals signs included. -/
theorem ofText_long_equals (s : Setting) (v : String) :
    ofText (s.long ++ "=" ++ v) = .setting s (some v) := by
  cases s <;>
    simp [Setting.long, ofText, ofLong, splitAtEquals, Setting.ofLong?, String.toList_append]

theorem ofText_letter : ofText "-k" = .setting .kind none := by
  decide

/-- What follows the letter is the value, since no equals sign is taken off it. -/
theorem ofText_letter_joined {v : String} (hne : v ≠ "") (h : v.toList.head? ≠ some '=') :
    ofText ("-k" ++ v) = .setting .kind (some v) := by
  have hchars : ("-k" ++ v).toList = '-' :: 'k' :: v.toList := by
    simp [String.toList_append]
  -- the first character decides whether something is taken off
  have hvalue : shortValue? v.toList = some v := by
    cases hv : v.toList with
    | nil => exact absurd (String.toList_eq_nil_iff.mp hv) hne
    | cons c cs =>
        rw [hv] at h
        have hc : c ≠ '=' := fun hc => h (congrArg some hc)
        rw [shortValue?, ← hv, String.ofList_toList]
        · exact nofun
        · intro ds hds
          exact hc (List.cons.inj hds).1
  rw [ofText, hchars]
  show ofShort 'k' v.toList = _
  rw [ofShort, if_pos rfl, hvalue]

/-- One equals sign is taken off, so this spelling serves for any value. -/
theorem ofText_letter_equals (v : String) : ofText ("-k=" ++ v) = .setting .kind (some v) := by
  simp [ofText, ofShort, shortValue?, String.toList_append]

theorem ofText_flag (f : Flag) : ofText f.long = .switch f.switch none := by
  cases f <;> decide

/-- A text that is no option reads as itself, be it a symbol or the value of a setting. -/
theorem ofText_plain {text : String} (h : IsPlain text) : ofText text = .plain text := by
  have hone : ∀ c cs, text.toList ≠ '-' :: c :: cs := by
    intro c cs hchars
    have hlone := h (by rw [hchars]; rfl)
    rw [hchars] at hlone
    exact nomatch hlone
  rw [ofText]
  -- all cases but the last have a hyphen with something behind it
  split
  · next hchars => exact absurd hchars (hone _ _)
  · next hchars => exact absurd hchars (hone _ _)
  · next hchars => exact absurd hchars (hone _ _)
  · rfl

end Argument

/-! ## What a group gives -/

/-- The option that an item gives, if it gives one. -/
def Item.option? : Item → Option (Setting ⊕ Flag)
  | value s _ => some (.inl s)
  | flag f    => some (.inr f)
  | symbol _  => none

/-- The text of an item that is a symbol. -/
def Item.symbol? : Item → Option String
  | symbol text => some text
  | _           => none

namespace Options

/-- Whether a flag has been given. -/
def isSet (o : Options) : Flag → Bool
  | .header        => o.header
  | .reserved      => o.reserved
  | .targetVersion => o.targetVersion

/-- Gives a flag. -/
def setFlag (o : Options) : Flag → Options
  | .header        => { o with header := true }
  | .reserved      => { o with reserved := true }
  | .targetVersion => { o with targetVersion := true }

/-- The options with what an item gives. -/
def give (o : Options) : Item → Options
  | .value s v   => o.set s v
  | .flag f      => o.setFlag f
  | .symbol text => o.addSymbols [text]

/-- The options with what items give, one after the other. -/
def giveAll (o : Options) (items : List Item) : Options :=
  items.foldl give o

/-- Whether an option has been given, so that giving it again is an error. -/
def isGiven (o : Options) : Setting ⊕ Flag → Bool
  | .inl s => (o.value? s).isSome
  | .inr f => o.isSet f

theorem value?_set (o : Options) (s s' : Setting) (v : String) :
    (o.set s v).value? s' = if s = s' then some v else o.value? s' := by
  cases s <;> cases s' <;> rfl

/-- Setting a value gives no flag. -/
theorem isSet_set (o : Options) (s : Setting) (v : String) (f : Flag) :
    (o.set s v).isSet f = o.isSet f := by
  cases s <;> cases f <;> rfl

theorem value?_setFlag (o : Options) (f : Flag) (s : Setting) :
    (o.setFlag f).value? s = o.value? s := by
  cases f <;> cases s <;> rfl

/-- A flag gives itself and takes no other away. -/
theorem isSet_setFlag (o : Options) (f f' : Flag) :
    (o.setFlag f).isSet f' = (decide (f = f') || o.isSet f') := by
  cases f <;> cases f' <;> rfl

theorem symbols_set (o : Options) (s : Setting) (v : String) : (o.set s v).symbols = o.symbols := by
  cases s <;> rfl

theorem symbols_setFlag (o : Options) (f : Flag) : (o.setFlag f).symbols = o.symbols := by
  cases f <;> rfl

theorem value?_addSymbols (o : Options) (texts : List String) (s : Setting) :
    (o.addSymbols texts).value? s = o.value? s := by
  cases s <;> rfl

theorem isSet_addSymbols (o : Options) (texts : List String) (f : Flag) :
    (o.addSymbols texts).isSet f = o.isSet f := by
  cases f <;> rfl

/-- A setting that has not been given has no value that a new one might clash with. -/
theorem value?_eq_none {o : Options} {s : Setting} (h : o.isGiven (.inl s) = false) :
    o.value? s = none :=
  Option.isNone_iff_eq_none.mp (Option.isSome_eq_false_iff.mp h)

theorem addSymbols_nil (o : Options) : o.addSymbols [] = o := by
  rw [addSymbols, List.append_nil]

/-- At the beginning of a command line every option may still be given. -/
theorem isGiven_default (x : Setting ⊕ Flag) : Options.isGiven {} x = false := by
  rcases x with s | f
  · cases s <;> rfl
  · cases f <;> rfl

/-- An item gives its own option and leaves the others as they are. -/
theorem isGiven_give (o : Options) (item : Item) (x : Setting ⊕ Flag) :
    (o.give item).isGiven x = (decide (item.option? = some x) || o.isGiven x) := by
  cases item with
  | value s v =>
      cases x with
      | inl s' =>
          show ((o.set s v).value? s').isSome = _
          rw [value?_set]
          by_cases hs : s = s' <;> simp [isGiven, Item.option?, hs]
      | inr f => simp [give, isGiven, Item.option?, isSet_set]
  | flag f =>
      cases x with
      | inl s => simp [give, isGiven, Item.option?, value?_setFlag]
      | inr f' => simp [give, isGiven, Item.option?, isSet_setFlag]
  | symbol text =>
      cases x with
      | inl s => simp [give, isGiven, Item.option?, value?_addSymbols]
      | inr f => simp [give, isGiven, Item.option?, isSet_addSymbols]

/-- Items can all be given: none of their options has been given, and none is given twice. -/
structure Fits (o : Options) (items : List Item) : Prop where
  once : (items.filterMap Item.option?).Nodup
  free : ∀ x ∈ items.filterMap Item.option?, o.isGiven x = false

namespace Fits

variable {o : Options} {item : Item} {items : List Item}

/-- The first item finds its own option not given. -/
theorem head (h : Fits o (item :: items)) {x : Setting ⊕ Flag} (hx : item.option? = some x) :
    o.isGiven x = false :=
  h.free x (List.mem_filterMap.mpr ⟨item, List.mem_cons_self, hx⟩)

/-- What an item gives is not given by the items after it. -/
theorem tail (h : Fits o (item :: items)) : Fits (o.give item) items := by
  -- the option of the item is none of those that are still to come, so giving it leaves them free
  have hsub : List.Sublist (items.filterMap Item.option?)
      ((item :: items).filterMap Item.option?) :=
    (List.sublist_cons_self item items).filterMap Item.option?
  refine ⟨h.once.sublist hsub, ?_⟩
  intro x hx
  have hne : item.option? ≠ some x := by
    intro hitem
    have honce := h.once
    rw [List.filterMap_cons_some hitem] at honce
    exact (List.nodup_cons.mp honce).1 hx
  rw [isGiven_give, h.free x (hsub.subset hx)]
  simp [hne]

end Fits

/-- Given once, a setting has the value of the item that gives it, wherever that stands. -/
theorem value?_giveAll {o : Options} {items : List Item} (h : o.Fits items) (s : Setting)
    (v : String) :
    (o.giveAll items).value? s = some v ↔ Item.value s v ∈ items ∨ o.value? s = some v := by
  -- what has been given grows with each item; that the rest fits it is the invariant
  induction items generalizing o with
  | nil => simp [giveAll]
  | cons item items ih =>
      show ((o.give item).giveAll items).value? s = some v ↔ _
      rw [ih h.tail, List.mem_cons]
      cases item with
      | value s' w =>
          rw [give, value?_set]
          by_cases hs : s' = s
          · subst hs
            -- the setting had no value before, so there is none but that of the item
            rw [if_pos rfl, value?_eq_none (h.head rfl), Item.value.injEq, Option.some.injEq]
            simp only [true_and, reduceCtorEq, or_false]
            rw [or_comm, eq_comm]
          · rw [if_neg hs, Item.value.injEq]
            simp [Ne.symm hs]
      | flag f => simp [give, value?_setFlag]
      | symbol text => simp [give, value?_addSymbols]

/-- A flag is on if it was given anywhere. -/
theorem isSet_giveAll (o : Options) (items : List Item) (f : Flag) :
    (o.giveAll items).isSet f = true ↔ Item.flag f ∈ items ∨ o.isSet f = true := by
  induction items generalizing o with
  | nil => simp [giveAll]
  | cons item items ih =>
      show ((o.give item).giveAll items).isSet f = true ↔ _
      rw [ih, List.mem_cons]
      cases item with
      | value s v => simp [give, isSet_set]
      | flag f' =>
          rw [give, isSet_setFlag, Bool.or_eq_true, decide_eq_true_eq, Item.flag.injEq,
            eq_comm (a := f'), or_left_comm, or_assoc]
      | symbol text => simp [give, isSet_addSymbols]

/-- The symbols keep their order, whatever options stand between them. -/
theorem symbols_giveAll (o : Options) (items : List Item) :
    (o.giveAll items).symbols = o.symbols ++ items.filterMap Item.symbol? := by
  induction items generalizing o with
  | nil => exact (List.append_nil _).symm
  | cons item items ih =>
      show ((o.give item).giveAll items).symbols = _
      rw [ih]
      cases item with
      | value s v => rw [give, symbols_set]; rfl
      | flag f => rw [give, symbols_setFlag]; rfl
      | symbol text => exact List.append_assoc ..

end Options

/-! ## Reading a group -/

namespace Progress

variable {p : Progress} {o : Options}

/-- A progress that can be settled waits for no value, so a plain text is not taken for one. -/
theorem awaiting?_of_settle (h : p.settle = .ok o) : p.awaiting? = none := by
  obtain ⟨options, pending?⟩ := p
  cases pending? with
  | none => rfl
  | some pending =>
      obtain ⟨s, value?⟩ := pending
      cases value? with
      | none => exact nomatch h
      | some v => rfl

/-- A setting that has not been given takes its value. -/
theorem assign_of_free {s : Setting} (hfree : o.isGiven (.inl s) = false) (v : String) :
    o.assign s v = .ok (o.set s v) := by
  rw [Options.assign, Options.value?_eq_none hfree]

/-- A setting without a value settles what was open and is open itself. -/
theorem step_setting (h : p.settle = .ok o) (s : Setting) :
    p.step (.setting s none) = .ok ⟨o, some ⟨s, none⟩⟩ := by
  rw [step, h]
  rfl

/-- A value that is attached is stored at once. -/
theorem step_value (h : p.settle = .ok o) {s : Setting} (hfree : o.isGiven (.inl s) = false)
    (v : String) : p.step (.setting s (some v)) = .ok ⟨o.set s v, none⟩ := by
  rw [step, h]
  show (o.assign s v >>= fun options => pure (Progress.mk options none)) = _
  rw [assign_of_free hfree]
  rfl

/-- A flag that has not been given is given. -/
theorem step_flag (h : p.settle = .ok o) {f : Flag} (hfree : o.isGiven (.inr f) = false) :
    p.step (.switch f.switch none) = .ok ⟨o.setFlag f, none⟩ := by
  rw [step, h]
  have hon : o.turnOn f.switch = .ok (o.setFlag f) := by
    cases f <;> exact if_neg (Bool.not_eq_true _ ▸ hfree)
  show (o.turnOn f.switch >>= fun options => pure (Progress.mk options none)) = _
  rw [hon]
  rfl

theorem step_symbol (h : p.settle = .ok o) (text : String) :
    p.step (.plain text) = .ok ⟨o.addSymbols [text], none⟩ := by
  rw [step, awaiting?_of_settle h, h]
  rfl

theorem step_separator (h : p.settle = .ok o) : p.step .separator = .ok ⟨o, none⟩ := by
  rw [step, h]
  rfl

/-- An argument other than the separator is one step of the reading. -/
theorem read_cons {p' : Progress} {arg : String} {a : Argument} (ha : Argument.ofText arg = a)
    (hsep : a ≠ .separator) (hstep : p.step a = .ok p') (args : List String) :
    p.read (arg :: args) = p'.read args := by
  rw [read, ha, hstep]
  show (if a = .separator then _ else p'.read args) = _
  rw [if_neg hsep]

/-- Behind the separator every text is a symbol, also one that looks like an option. -/
theorem read_separator (h : p.settle = .ok o) (args : List String) :
    p.read ("--" :: args) = .ok (o.addSymbols args) := by
  rw [read, Argument.ofText_separator, step_separator h]
  rfl

/-- A setting with its value apart takes two steps and is left open with the value. -/
theorem read_apart (h : p.settle = .ok o) {arg : String} {s : Setting}
    (harg : Argument.ofText arg = .setting s none) {v : String} (hv : IsPlain v)
    (args : List String) :
    p.read (arg :: v :: args) = (Progress.mk o (some ⟨s, some v⟩)).read args := by
  rw [read_cons harg nofun (step_setting h s), read_cons (Argument.ofText_plain hv) nofun rfl]

end Progress

/-- Whatever the spelling of an item, its arguments lead from a progress that settles to `o` to one
    that settles to `o` with what the item gives. -/
theorem Spells.read {item : Item} {args : List String} (h : Spells item args) {p : Progress}
    {o : Options} (hp : p.settle = .ok o) (hfree : ∀ x, item.option? = some x → o.isGiven x = false) :
    ∃ p' : Progress, p'.settle = .ok (o.give item) ∧
      ∀ rest, p.read (args ++ rest) = p'.read rest := by
  -- a value apart is left open, to be stored by the settling; all else is stored at once
  cases h with
  | apart s v hv =>
      exact ⟨⟨o, some ⟨s, some v⟩⟩, Progress.assign_of_free (hfree _ rfl) v,
        Progress.read_apart hp (Argument.ofText_long s) hv⟩
  | attached s v =>
      exact ⟨⟨o.set s v, none⟩, rfl, Progress.read_cons (Argument.ofText_long_equals s v) nofun
        (Progress.step_value hp (hfree _ rfl) v)⟩
  | letterApart v hv =>
      exact ⟨⟨o, some ⟨.kind, some v⟩⟩, Progress.assign_of_free (hfree _ rfl) v,
        Progress.read_apart hp Argument.ofText_letter hv⟩
  | letterJoined v hne heq =>
      exact ⟨⟨o.set .kind v, none⟩, rfl,
        Progress.read_cons (Argument.ofText_letter_joined hne heq) nofun
          (Progress.step_value hp (hfree _ rfl) v)⟩
  | letterAttached v =>
      exact ⟨⟨o.set .kind v, none⟩, rfl, Progress.read_cons (Argument.ofText_letter_equals v) nofun
        (Progress.step_value hp (hfree _ rfl) v)⟩
  | flag f =>
      exact ⟨⟨o.setFlag f, none⟩, rfl, Progress.read_cons (Argument.ofText_flag f) nofun
        (Progress.step_flag hp (hfree _ rfl))⟩
  | symbol text htext =>
      exact ⟨⟨o.addSymbols [text], none⟩, rfl,
        Progress.read_cons (Argument.ofText_plain htext) nofun (Progress.step_symbol hp text)⟩

/-! ## Arrangements -/

/-- Arguments that belong together, with what they give. -/
structure Group where
  item    : Item
  args    : List String
  spelled : Spells item args

/-- A command line that is arranged from groups, no two of them for one option, and perhaps a
    separator with symbols behind it. -/
structure Arrangement where
  groups : List Group
  /-- What follows the separator, if there is one. -/
  rest?  : Option (List String)
  once   : ((groups.map Group.item).filterMap Item.option?).Nodup

namespace Arrangement

/-- The command line as it is typed. -/
def args (a : Arrangement) : List String :=
  a.groups.flatMap Group.args ++ a.rest?.elim [] ("--" :: ·)

/-- What the groups stand for, in their order. -/
def items (a : Arrangement) : List Item :=
  a.groups.map Group.item

/-- The items that are options. -/
def options (a : Arrangement) : List Item :=
  a.items.filter (·.option?.isSome)

/-- All symbols: those among the groups, then those behind the separator. -/
def symbols (a : Arrangement) : List String :=
  a.items.filterMap Item.symbol? ++ a.rest?.getD []

end Arrangement

/-- Groups whose options have not been given are read one after the other. -/
theorem read_groups {groups : List Group} {p : Progress} {o : Options} (hp : p.settle = .ok o)
    (h : o.Fits (groups.map Group.item)) :
    ∃ p' : Progress, p'.settle = .ok (o.giveAll (groups.map Group.item)) ∧
      ∀ rest, p.read (groups.flatMap Group.args ++ rest) = p'.read rest := by
  induction groups generalizing p o with
  | nil => exact ⟨p, hp, fun _ => rfl⟩
  | cons g groups ih =>
      -- what the first group leaves open is settled by those that follow, or by what ends them
      obtain ⟨p₁, hp₁, hread₁⟩ := g.spelled.read hp fun _ hx => h.head hx
      obtain ⟨p₂, hp₂, hread₂⟩ := ih hp₁ h.tail
      refine ⟨p₂, hp₂, ?_⟩
      intro rest
      rw [List.flatMap_cons, List.append_assoc, hread₁, hread₂]

/-- Nothing has been given before the first group, so an arrangement can be read from the start. -/
theorem Arrangement.fits (a : Arrangement) : Options.Fits {} a.items :=
  ⟨a.once, fun x _ => Options.isGiven_default x⟩

/-- An arrangement is read as what its groups give, with the symbols behind the separator. -/
theorem ofArguments_args (a : Arrangement) :
    Options.ofArguments a.args
      = .ok ((Options.giveAll {} a.items).addSymbols (a.rest?.getD [])) := by
  obtain ⟨p, hp, hread⟩ := read_groups (p := {}) rfl a.fits
  rw [Options.ofArguments, Arrangement.args, hread]
  cases a.rest? with
  | none =>
      show p.read [] = .ok ((Options.giveAll {} a.items).addSymbols [])
      rw [Options.addSymbols_nil]
      exact hp
  | some rest => exact p.read_separator hp rest

/-! ## What an arrangement asks for -/

/-- The options with the kind written out that holds if none is given. -/
def Options.explicitKind (o : Options) : Options :=
  { o with kind? := some o.kindTag }

/-- It makes no difference to the answer whether the kind is written out. -/
theorem answer_explicitKind (t : Target) (o : Options) : answer t o.explicitKind = answer t o := rfl

/-- Runs do not tell options apart that differ only in whether the kind is written out. -/
theorem run_congr {args args' : List String} {o o' : Options}
    (h : Options.ofArguments args = .ok o) (h' : Options.ofArguments args' = .ok o')
    (heq : o.explicitKind = o'.explicitKind) : run args = run args' := by
  -- the target is loaded before the options are looked at, so it is the same for both
  have hanswer : ∀ t, answer t o = answer t o' := by
    intro t
    rw [← answer_explicitKind t o, heq, answer_explicitKind]
  rw [run, run, h, h']
  simp only [hanswer]

namespace Arrangement

variable {a b : Arrangement} {o o' : Options}

/-- Whether the tag is the one for the kind: the one that is given, or the one for a combined
    grammar if none is. -/
def HasKind (a : Arrangement) (tag : String) : Prop :=
  .value .kind tag ∈ a.items ∨ (tag = "combined" ∧ ∀ v, .value .kind v ∉ a.items)

/-- The options that an arrangement asks for. -/
structure AsksFor (a : Arrangement) (o : Options) : Prop where
  name : ∀ v, o.name? = some v ↔ .value .name v ∈ a.items
  kind : ∀ tag, o.kindTag = tag ↔ a.HasKind tag
  header : o.header = true ↔ .flag .header ∈ a.items
  reserved : o.reserved = true ↔ .flag .reserved ∈ a.items
  targetVersion : o.targetVersion = true ↔ .flag .targetVersion ∈ a.items
  symbols : o.symbols = a.symbols

/-- The options that an arrangement is read as are those that it asks for. -/
theorem asksFor_giveAll (a : Arrangement) :
    a.AsksFor ((Options.giveAll {} a.items).addSymbols (a.rest?.getD [])) := by
  have hvalue : ∀ s v, (Options.giveAll {} a.items).value? s = some v ↔ .value s v ∈ a.items := by
    intro s v
    rw [Options.value?_giveAll a.fits]
    cases s <;> simp [Options.value?]
  have hset : ∀ f, (Options.giveAll {} a.items).isSet f = true ↔ .flag f ∈ a.items := by
    intro f
    rw [Options.isSet_giveAll]
    cases f <;> simp [Options.isSet]
  refine ⟨hvalue .name, ?_, hset .header, hset .reserved, hset .targetVersion, ?_⟩
  · intro tag
    show ((Options.giveAll {} a.items).value? .kind).getD "combined" = tag ↔ _
    rw [HasKind]
    -- a kind that is given is the only one, and the tag stands for it; else it is the default
    cases hkind : (Options.giveAll {} a.items).value? .kind with
    | none =>
        have hnone : ∀ v, .value .kind v ∉ a.items := by
          intro v hv
          rw [(hvalue .kind v).mpr hv] at hkind
          exact nomatch hkind
        simp [hnone, eq_comm]
    | some w =>
        have hw : .value .kind w ∈ a.items := (hvalue .kind w).mp hkind
        have hiff := hvalue .kind tag
        rw [hkind, Option.some.injEq] at hiff
        rw [← hiff]
        constructor
        · intro h
          exact Or.inl h
        · rintro (h | ⟨-, hno⟩)
          · exact h
          · exact absurd hw (hno w)
  · show (Options.giveAll {} a.items).symbols ++ a.rest?.getD [] = _
    rw [Options.symbols_giveAll]
    rfl

/-- Arrangements that ask for the same options, the kind written out or not, are answered alike. -/
theorem AsksFor.explicitKind_eq (h : a.AsksFor o) (h' : b.AsksFor o')
    (hname : ∀ v, .value .name v ∈ a.items ↔ .value .name v ∈ b.items)
    (hkind : ∀ tag, a.HasKind tag ↔ b.HasKind tag)
    (hflag : ∀ f, .flag f ∈ a.items ↔ .flag f ∈ b.items)
    (hsymbols : a.symbols = b.symbols) : o.explicitKind = o'.explicitKind := by
  have hn : o.name? = o'.name? :=
    Option.ext fun v => (h.name v).trans ((hname v).trans (h'.name v).symm)
  have hk : o.kindTag = o'.kindTag :=
    (h.kind _).mpr ((hkind _).mpr ((h'.kind _).mp rfl))
  have hh : o.header = o'.header :=
    Bool.eq_iff_iff.mpr (h.header.trans ((hflag _).trans h'.header.symm))
  have hr : o.reserved = o'.reserved :=
    Bool.eq_iff_iff.mpr (h.reserved.trans ((hflag _).trans h'.reserved.symm))
  have ht : o.targetVersion = o'.targetVersion :=
    Bool.eq_iff_iff.mpr (h.targetVersion.trans ((hflag _).trans h'.targetVersion.symm))
  have hs : o.symbols = o'.symbols := by
    rw [h.symbols, h'.symbols, hsymbols]
  rw [Options.explicitKind, Options.explicitKind, Options.mk.injEq]
  exact ⟨hn, congrArg some hk, hh, hr, ht, hs⟩

theorem run_eq (hname : ∀ v, .value .name v ∈ a.items ↔ .value .name v ∈ b.items)
    (hkind : ∀ tag, a.HasKind tag ↔ b.HasKind tag)
    (hflag : ∀ f, .flag f ∈ a.items ↔ .flag f ∈ b.items)
    (hsymbols : a.symbols = b.symbols) : run a.args = run b.args :=
  run_congr (ofArguments_args a) (ofArguments_args b)
    ((asksFor_giveAll a).explicitKind_eq (asksFor_giveAll b) hname hkind hflag hsymbols)

/-- Among items that are options it makes no difference to leave the symbols out. -/
theorem mem_options {x : Item} (h : x.option?.isSome) : x ∈ a.options ↔ x ∈ a.items := by
  rw [options, List.mem_filter, and_iff_left h]

/-- What is asked for does not depend on the order of the options and on their spelling. -/
theorem run_eq_of_perm (hoptions : a.options.Perm b.options) (hsymbols : a.symbols = b.symbols) :
    run a.args = run b.args := by
  have hmem : ∀ x : Item, x.option?.isSome → (x ∈ a.items ↔ x ∈ b.items) := by
    intro x hx
    rw [← mem_options hx, hoptions.mem_iff, mem_options hx]
  have hkind : ∀ v, .value .kind v ∈ a.items ↔ .value .kind v ∈ b.items := fun _ => hmem _ rfl
  refine run_eq (fun _ => hmem _ rfl) ?_ (fun _ => hmem _ rfl) hsymbols
  intro tag
  simp only [HasKind, hkind]

/-- The kind of a combined grammar may be left out. -/
theorem run_eq_of_default (hnone : ∀ v, .value .kind v ∉ a.items)
    (hoptions : b.options.Perm (.value .kind "combined" :: a.options))
    (hsymbols : a.symbols = b.symbols) : run a.args = run b.args := by
  have hmem : ∀ x : Item, x.option?.isSome →
      (x ∈ b.items ↔ x = .value .kind "combined" ∨ x ∈ a.items) := by
    intro x hx
    rw [← mem_options hx, hoptions.mem_iff, List.mem_cons, mem_options hx]
  -- only the kind is about what has been added; names and flags are no such item
  refine run_eq ?_ ?_ ?_ hsymbols
  · intro v
    rw [hmem _ rfl]
    exact (or_iff_right nofun).symm
  · intro tag
    have hb : .value .kind tag ∈ b.items ↔ tag = "combined" := by
      rw [hmem _ rfl, Item.value.injEq, or_iff_left (hnone tag)]
      exact and_iff_right rfl
    have hgiven : .value .kind "combined" ∈ b.items := (hmem _ rfl).mpr (Or.inl rfl)
    rw [HasKind, HasKind, hb, or_iff_right (hnone tag), and_iff_left hnone]
    exact (or_iff_left fun h => h.2 _ hgiven).symm
  · intro f
    rw [hmem _ rfl]
    exact (or_iff_right nofun).symm

end Arrangement

/-- **Options and symbols mix freely.** Every arrangement is accepted and read as what it asks for.
    Its run is that of any other arrangement which has the same options, in any order and spelling,
    and the same symbols, wherever they stand among the options or behind the separator; and the
    kind of a combined grammar may be written out or not. -/
theorem options_and_symbols_mix (a : Arrangement) :
    (∃ o, Options.ofArguments a.args = .ok o ∧ a.AsksFor o) ∧
    (∀ b : Arrangement, a.options.Perm b.options → a.symbols = b.symbols →
      run a.args = run b.args) ∧
    (∀ b : Arrangement, (∀ v, .value .kind v ∉ a.items) →
      b.options.Perm (.value .kind "combined" :: a.options) → a.symbols = b.symbols →
      run a.args = run b.args) := by
  refine ⟨⟨_, ofArguments_args a, a.asksFor_giveAll⟩, ?_, ?_⟩
  · intro b hoptions hsymbols
    exact Arrangement.run_eq_of_perm hoptions hsymbols
  · intro b hnone hoptions hsymbols
    exact Arrangement.run_eq_of_default hnone hoptions hsymbols

/-- A name, a flag and a symbol, put in two other ways. -/
theorem options_and_symbols_mix_name_header :
    run ["--name", "Test", "if", "--header"] = run ["--header", "--name=Test", "--", "if"] ∧
      run ["--name", "Test", "if", "--header"]
        = run ["if", "--header", "-kcombined", "--name", "Test"] := by
  have hmix := options_and_symbols_mix
    ⟨[⟨_, _, .apart .name "Test" (by decide)⟩, ⟨_, _, .symbol "if" (by decide)⟩,
      ⟨_, _, .flag .header⟩], none, by decide⟩
  refine ⟨?_, ?_⟩
  · exact hmix.2.1
      ⟨[⟨_, _, .flag .header⟩, ⟨_, _, .attached .name "Test"⟩], some ["if"], by decide⟩
      (by decide) rfl
  · exact hmix.2.2
      ⟨[⟨_, _, .symbol "if" (by decide)⟩, ⟨_, _, .flag .header⟩,
        ⟨_, _, .letterJoined "combined" (by decide) (by decide)⟩,
        ⟨_, _, .apart .name "Test" (by decide)⟩], none, by decide⟩
      (by simp [Arrangement.items]) (by decide) rfl

end GrammarTarget.CommandLine
