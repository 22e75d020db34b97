import PluginHost.Plugin.Registry
import Mathlib.Logic.Relation

/-!
Which plugin needs which. Plugins that always ask for the same make a graph over the indices of the
registry. The graph does not depend on how far plugins have come, and a registration leaves the
edges that there are where they are.
-/

set_option autoImplicit false

namespace PluginHost

/-- A plugin that asks for the same plugins whenever it is asked. -/
def Plugin.Steady (p : Plugin) : Prop := ∀ g h : Host, p.requires g = p.requires h

def Catalogue.Steady (catalogue : Catalogue) : Prop :=
  ∀ t ∈ catalogue, ∀ h : Host, (t.create h).1.Steady

namespace Registry

/-- The plugins and their numbers, apart from how far they have come. -/
def members (r : Registry) : List (Nat × Plugin) :=
  r.slots.map fun slot => (slot.serial, slot.plugin)

/-- What registration alone decides: the members, and which index a name has. -/
def roster (r : Registry) : List (Nat × Plugin) × Members Nat := (r.members, r.byName)

def names (r : Registry) : List String := r.slots.map fun slot => slot.plugin.name

/-- Names have the indices of their own slots, and nothing else has one. -/
def Indexed (r : Registry) : Prop :=
  ∀ name index, r.indexOf name = some index ↔ r.names[index]? = some name

/-- A registry that has grown: members came at the end, and names have the indices they had. -/
structure Extends (old new : Registry) : Prop where
  members : old.members <+: new.members
  indexOf : ∀ name index, old.indexOf name = some index → new.indexOf name = some index

def pluginAt (r : Registry) (index : Nat) : Option Plugin := r.slots[index]?.map Slot.plugin

def serialAt (r : Registry) (index : Nat) : Option Nat := r.slots[index]?.map Slot.serial

def Steady (r : Registry) : Prop := ∀ index plugin, r.pluginAt index = some plugin → plugin.Steady

/-- The plugin at one index depends on the plugin at another one. -/
def Needs (r : Registry) (index needed : Nat) : Prop :=
  ∃ plugin h, r.pluginAt index = some plugin ∧ ∃ d ∈ plugin.requires h, r.locate d = some needed

/-- Everything the plugin at an index depends on is registered. -/
def Resolved (r : Registry) (index : Nat) : Prop :=
  ∀ plugin h, r.pluginAt index = some plugin → ∀ d ∈ plugin.requires h, (r.locate d).isSome

variable {r old new : Registry}

theorem pluginAt_eq (r : Registry) (index : Nat) :
    r.pluginAt index = r.members[index]?.map Prod.snd := by
  simp only [pluginAt, members, List.getElem?_map, Option.map_map, Function.comp_def]

theorem serialAt_eq (r : Registry) (index : Nat) :
    r.serialAt index = r.members[index]?.map Prod.fst := by
  simp only [serialAt, members, List.getElem?_map, Option.map_map, Function.comp_def]

theorem names_eq (r : Registry) : r.names = r.members.map fun m => m.2.name := by
  simp only [names, members, List.map_map, Function.comp_def]

theorem indexOfType_eq (r : Registry) (type : String) :
    r.indexOfType type = r.members.findIdx? fun m => m.2.type = type := by
  simp only [indexOfType, members, List.findIdx?_map, Function.comp_def]

theorem pluginAt_of_slot {index : Nat} {slot : Slot} (found : r.slots[index]? = some slot) :
    r.pluginAt index = some slot.plugin := by
  simp only [pluginAt, found, Option.map_some]

theorem serialAt_of_slot {index : Nat} {slot : Slot} (found : r.slots[index]? = some slot) :
    r.serialAt index = some slot.serial := by
  simp only [serialAt, found, Option.map_some]

namespace Indexed

theorem clear (r : Registry) : r.clear.Indexed := by
  intro name index
  exact ⟨nofun, nofun⟩

theorem lt (indexed : r.Indexed) {name : String} {index : Nat}
    (found : r.indexOf name = some index) : index < r.slots.length := by
  have within := (List.getElem?_eq_some_iff.1 ((indexed name index).1 found)).1
  simpa only [names, List.length_map] using within

theorem indexOf_eq_none_iff (indexed : r.Indexed) {name : String} :
    r.indexOf name = none ↔ name ∉ r.names := by
  constructor
  · intro free member
    obtain ⟨index, at_⟩ := List.mem_iff_getElem?.1 member
    rw [(indexed name index).2 at_] at free
    cases free
  · intro absent
    cases found : r.indexOf name with
    | none => rfl
    | some index => exact absurd (List.mem_of_getElem? ((indexed name index).1 found)) absent

/-- One name has one index, so no two slots share a name. -/
theorem nodup (indexed : r.Indexed) : r.names.Nodup := by
  refine List.pairwise_iff_getElem.2 fun i j insideI insideJ before same => ?_
  have first := (indexed r.names[j] i).2 (by rw [List.getElem?_eq_getElem insideI, same])
  rw [(indexed _ j).2 (List.getElem?_eq_getElem insideJ)] at first
  cases first
  exact Nat.lt_irrefl _ before

/-- Looking a name up is searching the slots for it. -/
theorem indexOf_eq_findIdx? (indexed : r.Indexed) (name : String) :
    r.indexOf name = r.slots.findIdx? fun slot => slot.plugin.name = name := by
  cases searched : r.slots.findIdx? fun slot => slot.plugin.name = name with
  | none =>
    rw [indexed.indexOf_eq_none_iff]
    intro member
    obtain ⟨slot, inside, named⟩ := List.mem_map.1 member
    have other := List.findIdx?_eq_none_iff.1 searched slot inside
    simp [named] at other
  | some index =>
    obtain ⟨inside, named, _⟩ := List.findIdx?_eq_some_iff_getElem.1 searched
    rw [indexed name index, names, List.getElem?_map, List.getElem?_eq_getElem inside]
    simpa using named

end Indexed

theorem indexOf_push (r : Registry) (plugin : Plugin) (name : String) :
    (r.push plugin).indexOf name =
      if plugin.name = name then some r.slots.length else r.indexOf name :=
  Members.find?_insert _ _ _ _

theorem indexOfType_push (r : Registry) (plugin : Plugin) (type : String) :
    (r.push plugin).indexOfType type =
      (r.indexOfType type).or (if plugin.type = type then some r.slots.length else none) := by
  rw [indexOfType, push, List.findIdx?_append, ← indexOfType]
  by_cases same : plugin.type = type <;> simp [same, List.findIdx?_cons]

theorem names_push (r : Registry) (plugin : Plugin) :
    (r.push plugin).names = r.names ++ [plugin.name] := by
  simp only [names, push, List.map_append, List.map_cons, List.map_nil]

theorem names_push_getElem? (r : Registry) (plugin : Plugin) (name : String) (index : Nat) :
    (r.push plugin).names[index]? = some name ↔
      r.names[index]? = some name ∨ index = r.slots.length ∧ plugin.name = name := by
  have length : r.names.length = r.slots.length := List.length_map _
  rw [names_push, List.getElem?_append, ← length]
  split
  · rename_i inside
    exact (or_iff_left fun last => absurd last.1 (Nat.ne_of_lt inside)).symm
  · rename_i outside
    rw [List.getElem?_eq_none (Nat.le_of_not_lt outside), List.getElem?_singleton]
    have last : index - r.names.length = 0 ↔ index = r.names.length := by omega
    simp [last]

/-- A name that was free gets the index of the slot that comes with it. -/
theorem Indexed.push (indexed : r.Indexed) {plugin : Plugin} (free : r.indexOf plugin.name = none) :
    (r.push plugin).Indexed := by
  intro name index
  rw [indexOf_push, names_push_getElem?]
  by_cases same : plugin.name = name
  · rw [if_pos same]
    constructor
    · intro last
      exact .inr ⟨(Option.some.inj last).symm, same⟩
    · rintro (old | ⟨last, -⟩)
      · rw [← same, ← indexed] at old
        rw [old] at free
        cases free
      · rw [last]
  · rw [if_neg same, indexed]
    exact (or_iff_left fun last => same last.2).symm

/-- What meets a dependency is registered. -/
theorem lt_of_locate (indexed : r.Indexed) {d : Dependency} {index : Nat}
    (located : r.locate d = some index) : index < r.slots.length := by
  cases d with
  | typed type => exact (List.findIdx?_eq_some_iff_findIdx_eq.1 located).1
  | named name => exact indexed.lt located

theorem Needs.lt (indexed : r.Indexed) {index needed : Nat} (edge : r.Needs index needed) :
    needed < r.slots.length := by
  obtain ⟨_, _, _, _, _, located⟩ := edge
  exact lt_of_locate indexed located

/-- What is located, in order. -/
theorem locateAll_ok {plugin : String} {ds : List Dependency} {indices : List Nat}
    (located : r.locateAll plugin ds = .ok indices) : ds.map r.locate = indices.map some := by
  induction ds generalizing indices with
  | nil =>
    cases located
    rfl
  | cons d rest ih =>
    unfold locateAll at located
    split at located
    · cases located
    · rename_i index found
      split at located
      · rename_i later foundRest
        cases located
        rw [List.map_cons, List.map_cons, found, ih foundRest]
      · cases located

theorem locateAll_error {plugin : String} {ds : List Dependency} {e : Failure}
    (failed : r.locateAll plugin ds = .error e) : ∃ d ∈ ds, r.locate d = none := by
  induction ds with
  | nil => cases failed
  | cons d rest ih =>
    unfold locateAll at failed
    split at failed
    · rename_i missing
      exact ⟨d, List.mem_cons_self, missing⟩
    · split at failed
      · cases failed
      · rename_i failedRest
        cases failed
        obtain ⟨d', member, missing⟩ := ih failedRest
        exact ⟨d', List.mem_cons_of_mem _ member, missing⟩

/-- The dependencies of a plugin that is steady are all that it ever needs. -/
theorem dependencies_ok (steady : r.Steady) {h : Host} {index : Nat} {needed : List Nat}
    (found : r.dependencies h index = .ok needed) :
    r.Resolved index ∧ ∀ d, r.Needs index d ↔ d ∈ needed := by
  unfold dependencies at found
  split at found
  · rename_i absent
    cases found
    have none : r.pluginAt index = none := by simp only [pluginAt, absent, Option.map_none]
    constructor
    · intro plugin _ present
      rw [none] at present
      cases present
    · intro d
      constructor
      · rintro ⟨plugin, _, present, _⟩
        rw [none] at present
        cases present
      · intro member
        cases member
  · rename_i slot inside
    have present := pluginAt_of_slot inside
    have located := locateAll_ok found
    have same := fun g => steady index slot.plugin present g h
    constructor
    · intro plugin g given d member
      rw [present] at given
      cases given
      rw [same g] at member
      have image := List.mem_map_of_mem (f := r.locate) member
      rw [located] at image
      obtain ⟨i, _, isSome⟩ := List.mem_map.1 image
      rw [← isSome]
      rfl
    · intro i
      constructor
      · rintro ⟨plugin, g, given, d, member, at_⟩
        rw [present] at given
        cases given
        rw [same g] at member
        have image := List.mem_map_of_mem (f := r.locate) member
        rw [located, at_] at image
        simpa using image
      · intro member
        have image := List.mem_map_of_mem (f := some) member
        rw [← located] at image
        obtain ⟨d, asked, at_⟩ := List.mem_map.1 image
        exact ⟨slot.plugin, h, present, d, asked, at_⟩

theorem dependencies_error {h : Host} {index : Nat} {e : Failure}
    (failed : r.dependencies h index = .error e) : ¬ r.Resolved index := by
  intro resolved
  unfold dependencies at failed
  split at failed
  · cases failed
  · rename_i slot inside
    obtain ⟨d, asked, missing⟩ := locateAll_error failed
    have found := resolved slot.plugin h (pluginAt_of_slot inside) d asked
    rw [missing] at found
    cases found

theorem findIdx?_of_isPrefix {α : Type} {p : α → Bool} {before after : List α} {index : Nat}
    (longer : before <+: after) (found : before.findIdx? p = some index) :
    after.findIdx? p = some index := by
  obtain ⟨added, rfl⟩ := longer
  rw [List.findIdx?_append, found]
  rfl

namespace Extends

theorem refl (r : Registry) : r.Extends r := ⟨List.prefix_refl _, fun _ _ => id⟩

theorem trans {middle : Registry} (first : old.Extends middle) (second : middle.Extends new) :
    old.Extends new :=
  ⟨first.members.trans second.members,
    fun name index found => second.indexOf name index (first.indexOf name index found)⟩

theorem of_roster (same : new.roster = old.roster) : old.Extends new := by
  obtain ⟨members, names⟩ := Prod.ext_iff.1 same
  refine ⟨?_, fun name index found => ?_⟩
  · have kept : new.members = old.members := members
    exact kept ▸ List.prefix_refl _
  · rwa [Registry.indexOf, show new.byName = old.byName from names]

theorem push {plugin : Plugin} (free : r.indexOf plugin.name = none) :
    r.Extends (r.push plugin) where
  members := by
    simp only [Registry.members, Registry.push, List.map_append]
    exact List.prefix_append _ _
  indexOf name index found := by
    rw [indexOf_push, if_neg, found]
    intro same
    rw [same, found] at free
    cases free

end Extends

theorem locate_of_extends (longer : old.Extends new) {d : Dependency} {index : Nat}
    (located : old.locate d = some index) : new.locate d = some index := by
  cases d with
  | typed type =>
    rw [locate, indexOfType_eq] at located ⊢
    exact findIdx?_of_isPrefix longer.members located
  | named name => exact longer.indexOf name index located

theorem pluginAt_of_isPrefix (longer : old.members <+: new.members) {index : Nat}
    (inside : index < old.slots.length) : new.pluginAt index = old.pluginAt index := by
  obtain ⟨added, same⟩ := longer
  have within : index < old.members.length := by simpa only [members, List.length_map] using inside
  rw [pluginAt_eq, pluginAt_eq, ← same, List.getElem?_append_left within]

theorem serialAt_of_isPrefix (longer : old.members <+: new.members) {index : Nat}
    (inside : index < old.slots.length) : new.serialAt index = old.serialAt index := by
  obtain ⟨added, same⟩ := longer
  have within : index < old.members.length := by simpa only [members, List.length_map] using inside
  rw [serialAt_eq, serialAt_eq, ← same, List.getElem?_append_left within]

theorem lt_of_pluginAt {index : Nat} {plugin : Plugin} (present : r.pluginAt index = some plugin) :
    index < r.slots.length := by
  obtain ⟨slot, found, _⟩ := Option.map_eq_some_iff.1 present
  exact (List.getElem?_eq_some_iff.1 found).1

/-- Edges stay. -/
theorem Needs.of_extends (longer : old.Extends new) {index needed : Nat}
    (edge : old.Needs index needed) : new.Needs index needed := by
  obtain ⟨plugin, h, present, d, asked, located⟩ := edge
  refine ⟨plugin, h, ?_, d, asked, locate_of_extends longer located⟩
  rw [pluginAt_of_isPrefix longer.members (lt_of_pluginAt present)]
  exact present

theorem Resolved.of_extends (longer : old.Extends new) {index : Nat}
    (inside : index < old.slots.length) (resolved : old.Resolved index) : new.Resolved index := by
  intro plugin h present d asked
  rw [pluginAt_of_isPrefix longer.members inside] at present
  obtain ⟨i, located⟩ := Option.isSome_iff_exists.1 (resolved plugin h present d asked)
  rw [locate_of_extends longer located]
  rfl

/-- Of a plugin whose dependencies are all registered no edge is new. -/
theorem Needs.of_resolved (longer : old.Extends new) {index needed : Nat}
    (inside : index < old.slots.length) (resolved : old.Resolved index)
    (edge : new.Needs index needed) : old.Needs index needed := by
  obtain ⟨plugin, h, present, d, asked, located⟩ := edge
  rw [pluginAt_of_isPrefix longer.members inside] at present
  obtain ⟨i, before⟩ := Option.isSome_iff_exists.1 (resolved plugin h present d asked)
  have after := locate_of_extends longer before
  rw [located] at after
  cases after
  exact ⟨plugin, h, present, d, asked, before⟩

theorem members_of_roster (same : new.roster = old.roster) : new.members = old.members :=
  congrArg Prod.fst same

theorem byName_of_roster (same : new.roster = old.roster) : new.byName = old.byName :=
  congrArg Prod.snd same

theorem Indexed.congr (indexed : old.Indexed) (same : new.roster = old.roster) : new.Indexed := by
  intro name index
  rw [indexOf, byName_of_roster same, names_eq, members_of_roster same, ← names_eq]
  exact indexed name index

theorem needs_congr (same : new.roster = old.roster) {index needed : Nat} :
    new.Needs index needed ↔ old.Needs index needed :=
  ⟨Needs.of_extends (.of_roster same.symm), Needs.of_extends (.of_roster same)⟩

theorem needs_eq (same : new.roster = old.roster) : new.Needs = old.Needs := by
  funext index needed
  exact propext (needs_congr same)

theorem length_of_members (same : new.members = old.members) :
    new.slots.length = old.slots.length := by
  have lengths := congrArg List.length same
  simpa only [members, List.length_map] using lengths

theorem pluginAt_congr (same : new.members = old.members) (index : Nat) :
    new.pluginAt index = old.pluginAt index := by rw [pluginAt_eq, pluginAt_eq, same]

theorem serialAt_congr (same : new.members = old.members) (index : Nat) :
    new.serialAt index = old.serialAt index := by rw [serialAt_eq, serialAt_eq, same]

theorem locate_congr (same : new.roster = old.roster) (d : Dependency) :
    new.locate d = old.locate d := by
  cases d with
  | typed type => rw [locate, locate, indexOfType_eq, indexOfType_eq, members_of_roster same]
  | named name => rw [locate, locate, indexOf, indexOf, byName_of_roster same]

theorem members_setState (r : Registry) (index : Nat) (state : PluginState) :
    (r.setState index state).members = r.members := by
  apply List.ext_getElem?
  intro i
  simp only [members, setState, List.getElem?_map, List.getElem?_modify]
  cases r.slots[i]? with
  | none => rfl
  | some slot =>
    simp only [Option.map_some]
    split <;> rfl

theorem roster_setState (r : Registry) (index : Nat) (state : PluginState) :
    (r.setState index state).roster = r.roster :=
  Prod.ext (members_setState r index state) rfl

theorem dependencies_congr (same : new.roster = old.roster) (h : Host) (index : Nat) :
    new.dependencies h index = old.dependencies h index := by
  have locates : ∀ name ds, new.locateAll name ds = old.locateAll name ds := by
    intro name ds
    induction ds with
    | nil => rfl
    | cons d rest ih => simp only [locateAll, locate_congr same, ih]
  have plugins := pluginAt_congr (members_of_roster same) index
  unfold pluginAt at plugins
  unfold dependencies
  cases found : old.slots[index]? with
  | none =>
    rw [found, Option.map_none, Option.map_eq_none_iff] at plugins
    rw [plugins]
  | some slot =>
    rw [found, Option.map_some, Option.map_eq_some_iff] at plugins
    obtain ⟨slot', found', equal⟩ := plugins
    simp only [found', equal]
    exact locates _ _

theorem resolved_congr (same : new.roster = old.roster) {index : Nat} :
    new.Resolved index ↔ old.Resolved index := by
  simp only [Resolved, pluginAt_congr (members_of_roster same), locate_congr same]

theorem Steady.congr (steady : old.Steady) (same : new.members = old.members) : new.Steady := by
  intro index plugin present
  rw [pluginAt_congr same] at present
  exact steady index plugin present

end Registry

end PluginHost
