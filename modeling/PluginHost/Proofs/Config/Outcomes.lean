import PluginHost.Proofs.Config.Writes

/-!
What a whole source does to a place. What stands there afterwards is either told by the source alone
or it is what stood there before, so one source over an empty table shows what it sets. The one
exception is a list in which the source names single items.
-/

set_option autoImplicit false

namespace PluginHost

open Setting

/-- What a change of settings comes to for the value at a place. -/
inductive Outcome (names : List String) (indexed : Prop) (change : Setting → Setting) : Prop where
  | settles (found : Option Setting) (always : ∀ s, (change s).plain? names = found)
  | keeps (same : ∀ s, (change s).plain? names = s.plain? names)
  /-- A table is opened there, which replaces nothing but an empty place. -/
  | opens (replaced : ∀ s, (change s).plain? names = (s.plain? names).filter (!·.isNothing))
  | lists (named : indexed)
      (always : ∀ s, ∃ items origin, (change s).plain? names = some (.list items origin))

namespace Outcome

variable {names : List String} {indexed : Prop} {first second : Setting → Setting}

theorem comp (before : Outcome names indexed first) (after : Outcome names indexed second) :
    Outcome names indexed fun s => second (first s) := by
  cases after with
  | settles found always => exact .settles found fun s => always _
  | lists named always => exact .lists named fun s => always _
  | keeps same =>
    cases before with
    | settles found always => exact .settles found fun s => (same _).trans (always s)
    | keeps first => exact .keeps fun s => (same _).trans (first s)
    | opens replaced => exact .opens fun s => (same _).trans (replaced s)
    | lists named always =>
      refine .lists named fun s => ?_
      rw [same]
      exact always s
  | opens replaced =>
    cases before with
    | settles found always =>
      exact .settles (found.filter (!·.isNothing)) fun s => by rw [replaced, always]
    | keeps same => exact .opens fun s => by rw [replaced, same]
    | opens first => exact .opens fun s => by rw [replaced, first, Option.filter_filter]; simp
    | lists named always =>
      refine .lists named fun s => ?_
      obtain ⟨items, origin, found⟩ := always s
      exact ⟨items, origin, by rw [replaced, found]; rfl⟩

theorem mono {fewer more : Prop} (outcome : Outcome names fewer first) (weaker : fewer → more) :
    Outcome names more first := by
  cases outcome with
  | settles found always => exact .settles found always
  | keeps same => exact .keeps same
  | opens replaced => exact .opens replaced
  | lists named always => exact .lists (weaker named) always

end Outcome

/-- The value that a place holds after a touch, if it holds one that is no table, by the one that it
held before. -/
def Touch.Shows : Touch → Option Setting → Option Setting → Prop
  | passes, before, after => after = before
  | opens, before, after => after = before.filter (!·.isNothing)
  | clears, _, after | enters _, _, after => after = none
  | sets value, _, after => after = some value
  | indexes, _, after => ∃ items, after = some (.list items none)

namespace Write

variable {w : Write} {names : List String}

theorem shows_apply (single : w.Single) (named : names ≠ []) (s : Setting) :
    (w.touch names).Shows (s.plain? names) ((w.apply s).plain? names) := by
  have leaves := leaves_apply single named s
  unfold plain?
  cases touch : w.touch names <;> simp only [touch, Touch.Leaves] at leaves
  case passes | clears =>
    rw [leaves]
    rfl
  case sets value => simp [leaves, Touch.Shows]
  case enters name =>
    obtain ⟨part, found⟩ := leaves
    rw [found]
    rfl
  case indexes =>
    obtain ⟨items, found⟩ := leaves
    exact ⟨items, by rw [found]; rfl⟩
  case opens =>
    rw [leaves]
    cases s.part? names with
    | none => rfl
    | some part =>
      cases part with
      | leaf value origin => cases value <;> rfl
      | list | table => rfl

theorem outcome (single : w.Single) (named : names ≠ []) :
    Outcome names (w.touch names = .indexes) (apply · w) := by
  have shows := shows_apply single named
  cases touch : w.touch names <;> simp only [touch, Touch.Shows] at shows
  case passes => exact .keeps shows
  case opens => exact .opens shows
  case clears => exact .settles none shows
  case enters name => exact .settles none shows
  case sets value => exact .settles _ shows
  case indexes =>
    refine .lists rfl fun s => ?_
    obtain ⟨items, found⟩ := shows s
    exact ⟨items, none, found⟩

end Write

/-- What a change of settings comes to for the members of the table at a place. -/
inductive Keeping (names : List String) (change : Setting → Setting) : Prop where
  | fixed (keys : String → Prop) (always : ∀ s key, (change s).Holds names key ↔ keys key)
  | adds (keys : String → Prop)
      (also : ∀ s key, (change s).Holds names key ↔ keys key ∨ s.Holds names key)

namespace Keeping

variable {names : List String} {first second : Setting → Setting}

theorem comp (before : Keeping names first) (after : Keeping names second) :
    Keeping names fun s => second (first s) := by
  cases after with
  | fixed keys always => exact .fixed keys fun s => always _
  | adds keys also =>
    cases before with
    | fixed old always =>
      exact .fixed (fun key => keys key ∨ old key) fun s key => by rw [also, always]
    | adds old more =>
      exact .adds (fun key => keys key ∨ old key) fun s key => by rw [also, more, or_assoc]

end Keeping

theorem Setting.holds_of_none {names : List String} {s : Setting} (absent : s.part? names = none)
    (key : String) : ¬ s.Holds names key := by
  rintro ⟨part, found, -⟩
  rw [absent] at found
  cases found

theorem Setting.holds_iff_of_some {names : List String} {s part : Setting}
    (found : s.part? names = some part) (key : String) :
    s.Holds names key ↔ (part.members.find? key).isSome := by
  simp [Holds, found]

/-- A place that is not there holds as much as one that was just made. -/
theorem Setting.holds_iff_getD (names : List String) (s : Setting) (key : String) :
    s.Holds names key ↔ (((s.part? names).getD empty).members.find? key).isSome := by
  cases found : s.part? names with
  | none => exact iff_of_false (holds_of_none found key) (by simp [empty, members, Members.find?])
  | some part => exact holds_iff_of_some found key

theorem Setting.members_emptyTable_layOver (s : Setting) :
    (emptyTable.layOver s).members = s.members := by
  cases s with
  | leaf value origin => cases value <;> rfl
  | list | table => rfl

theorem Write.keeping {w : Write} (single : w.Single) {names : List String} (named : names ≠ []) :
    Keeping names (Write.apply · w) := by
  have leaves := leaves_apply single named
  cases touch : w.touch names <;> simp only [touch, Touch.Leaves] at leaves
  case passes =>
    exact .adds (fun _ => False) fun s key => by rw [Holds, leaves, Holds, false_or]
  case clears =>
    exact .fixed (fun _ => False) fun s key => iff_false_intro (holds_of_none (leaves s) key)
  case opens =>
    refine .adds (fun _ => False) fun s key => ?_
    rw [holds_iff_of_some (leaves s), members_emptyTable_layOver, holds_iff_getD names s, false_or]
  case enters name =>
    refine .adds (· = name) fun s key => ?_
    obtain ⟨part, found⟩ := leaves s
    rw [holds_iff_of_some found, holds_iff_getD names s, members, Members.find?_insert]
    by_cases same : name = key
    · simp [same]
    · simp [same, Ne.symm same]
  case sets value =>
    exact .fixed _ fun s key => holds_iff_of_some (leaves s).2 key
  case indexes =>
    refine .fixed (fun _ => False) fun s key => ?_
    obtain ⟨items, found⟩ := leaves s
    rw [holds_iff_of_some found]
    simp [members, Members.find?]

namespace Setting

/-- A table without members, which sets nothing. -/
def isVoid : Setting → Bool
  | table [] _ => true
  | _ => false

/-- What stands at a place, unless it is a table without members. -/
def given? (names : List String) (s : Setting) : Option Setting :=
  (s.part? names).filter (!·.isVoid)

theorem plain?_eq_some {names : List String} {s value : Setting} :
    s.plain? names = some value ↔ s.part? names = some value ∧ value.isTable = false := by
  rw [plain?, Option.filter_eq_some_iff]
  simp

theorem given?_of_plain? {names : List String} {s value : Setting}
    (plain : s.plain? names = some value) : s.given? names = some value := by
  obtain ⟨found, noTable⟩ := plain?_eq_some.1 plain
  rw [given?, found]
  cases value with
  | leaf | list => rfl
  | table => cases noTable

/-- What is given for a place is no table, or it has a member. -/
theorem given?_cases {names : List String} {s value : Setting} (given : s.given? names = some value) :
    s.plain? names = some value ∨
      s.part? names = some value ∧ value.isTable = true ∧ ∃ key, s.Holds names key := by
  rw [given?, Option.filter_eq_some_iff] at given
  obtain ⟨found, some_⟩ := given
  cases value with
  | leaf | list => exact .inl (plain?_eq_some.2 ⟨found, rfl⟩)
  | table members origin =>
    cases members with
    | nil => cases some_
    | cons m rest =>
      refine .inr ⟨found, rfl, m.1, (holds_iff_of_some found _).2 ?_⟩
      simp [Setting.members, Members.find?]

/-- Where nothing is given there is no value, and no member. -/
theorem plain?_of_ungiven {names : List String} {s : Setting} (ungiven : s.given? names = none) :
    s.plain? names = none := by
  cases plain : s.plain? names with
  | none => rfl
  | some value =>
    rw [given?_of_plain? plain] at ungiven
    cases ungiven

theorem not_holds_of_ungiven {names : List String} {s : Setting} (ungiven : s.given? names = none)
    (key : String) : ¬ s.Holds names key := by
  rintro ⟨part, found, has⟩
  rw [given?, Option.mem_def.1 found] at ungiven
  cases part with
  | leaf | list => simp [members, Members.find?] at has
  | table members origin =>
    cases members with
    | nil => simp [Setting.members, Members.find?] at has
    | cons m rest => simp [Option.filter, isVoid] at ungiven

theorem not_holds_of_plain? {names : List String} {s value : Setting}
    (plain : s.plain? names = some value) (key : String) : ¬ s.Holds names key := by
  obtain ⟨found, noTable⟩ := plain?_eq_some.1 plain
  rw [holds_iff_of_some found]
  cases value with
  | leaf | list => simp [members, Members.find?]
  | table => cases noTable

end Setting

namespace Layer

/-- What a source sets on its own. -/
def alone (layer : Layer) : Setting := layer.onto .emptyTable

/-- A source names an item of the list at a place. -/
def Indexes (layer : Layer) (names : List String) : Prop :=
  ∃ w ∈ layer.writes, w.touch names = .indexes

/-- A source puts something at a place that is no table. -/
def PutsValue (layer : Layer) (names : List String) : Prop :=
  ∃ w ∈ layer.writes, (∃ value, w.touch names = .sets value) ∨ w.touch names = .indexes

instance (layer : Layer) (names : List String) : Decidable (layer.PutsValue names) :=
  @List.decidableBEx _ _ (fun w => match w.touch names with
    | .sets value => .isTrue (.inl ⟨value, rfl⟩)
    | .indexes => .isTrue (.inr rfl)
    | .passes | .clears | .opens | .enters _ => .isFalse (by simp)) layer.writes

/-- A source puts a table at a place, or something into one. -/
def PutsTable (layer : Layer) (names : List String) : Prop :=
  ∃ w ∈ layer.writes, w.touch names = .opens ∨ ∃ name, w.touch names = .enters name

variable {layer : Layer} {names : List String}

/-- What holds of every write of a source, and of changes in turn if of each, holds of the source. -/
theorem onto_comp {motive : (Setting → Setting) → Prop} (nothing : motive fun s => s)
    (comp : ∀ first second, motive first → motive second → motive fun s => second (first s))
    (step : ∀ w ∈ layer.writes, motive (Write.apply · w)) : motive layer.onto := by
  have whole : layer.onto = (layer.writes.foldl Write.apply ·) := funext (onto_eq_writes layer)
  rw [whole]
  generalize layer.writes = writes at step
  induction writes with
  | nil => exact nothing
  | cons w rest ih =>
    exact comp _ _ (step w List.mem_cons_self)
      (ih fun v later => step v (List.mem_cons_of_mem _ later))

/-- What every write keeps the source keeps. -/
theorem onto_induction {motive : Setting → Prop}
    (step : ∀ w ∈ layer.writes, ∀ s, motive s → motive (w.apply s)) {s : Setting}
    (start : motive s) : motive (layer.onto s) :=
  onto_comp (motive := fun change => ∀ s, motive s → motive (change s)) (fun _ kept => kept)
    (fun _ _ first second s kept => second _ (first s kept)) step s start

theorem outcome (layer : Layer) (named : names ≠ []) :
    Outcome names (layer.Indexes names) layer.onto :=
  onto_comp (.keeps fun _ => rfl) (fun _ _ => .comp) fun w written =>
    (w.outcome (writes_single written) named).mono fun indexes => ⟨w, written, indexes⟩

theorem keeping (layer : Layer) (named : names ≠ []) : Keeping names layer.onto :=
  onto_comp (.adds (fun _ => False) fun _ _ => (false_or _).symm ▸ Iff.rfl) (fun _ _ => .comp)
    fun w written => w.keeping (writes_single written) named

end Layer

end PluginHost
