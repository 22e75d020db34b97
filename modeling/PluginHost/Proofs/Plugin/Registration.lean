import PluginHost.Plugin.Lifecycle
import PluginHost.Proofs.Plugin.Graph

set_option autoImplicit false

namespace PluginHost

namespace Registry

variable {catalogue : Catalogue}

section Keeping

/- `made` holds of the plugins that come, and adding such a plugin under a free name keeps `P`. -/
variable {P : Registry → Prop} {made : Plugin → Prop}

theorem registerDependencies_keeps
    {registerType : String → Registry × Host → Bool × Registry × Host}
    (keeps : ∀ type r h, P r → P (registerType type (r, h)).2.1) (ds : List Dependency)
    {r : Registry} (h : Host) (holds : P r) :
    P (registerDependencies registerType ds (r, h)).1 := by
  induction ds generalizing r h with
  | nil => exact holds
  | cons d rest ih =>
    cases d with
    | named name => exact ih h holds
    | typed type =>
      have first := keeps type r h holds
      unfold registerDependencies
      split
      · rename_i r' h' registered
        rw [registered] at first
        exact ih _ first
      · rename_i s known
        rw [known] at first
        exact ih s.2 first

variable (pushed : ∀ r plugin, P r → made plugin → r.indexOf plugin.name = none →
  P (r.push plugin))
include pushed

theorem registerWith_keeps {registerType : String → Registry × Host → Bool × Registry × Host}
    (keeps : ∀ type r h, P r → P (registerType type (r, h)).2.1) {plugin : Plugin}
    (own : made plugin) {r : Registry} (h : Host) (holds : P r) :
    P (registerWith registerType plugin (r, h)).2.1 := by
  unfold registerWith
  dsimp only
  split
  · split <;> exact holds
  · rename_i free
    exact registerDependencies_keeps keeps _ _ (pushed r plugin holds own free)

theorem registerTypeWithin_keeps (all : ∀ t ∈ catalogue, ∀ h : Host, made (t.create h).1)
    (depth : Nat) (type : String) (r : Registry) (h : Host) (holds : P r) :
    P (registerTypeWithin catalogue depth type (r, h)).2.1 := by
  induction depth generalizing type r h with
  | zero => exact holds
  | succ depth ih =>
    unfold registerTypeWithin
    by_cases known : (r.indexOfType type).isSome
    · rw [if_pos known]
      exact holds
    · rw [if_neg known]
      cases found : catalogue.find? type with
      | none => exact holds
      | some t =>
        exact registerWith_keeps pushed ih (all t (List.mem_of_find?_eq_some found) h) _ holds

theorem registerType_keeps (all : ∀ t ∈ catalogue, ∀ h : Host, made (t.create h).1) (type : String)
    (r : Registry) (h : Host) (holds : P r) : P (registerType catalogue type (r, h)).2.1 :=
  registerTypeWithin_keeps pushed all _ type r h holds

theorem register_keeps (all : ∀ t ∈ catalogue, ∀ h : Host, made (t.create h).1) {plugin : Plugin}
    (own : made plugin) (r : Registry) (h : Host) (holds : P r) :
    P (register catalogue plugin (r, h)).2.1 :=
  registerWith_keeps pushed (registerType_keeps pushed all) own h holds

end Keeping

/-- Steady plugins are added one after the other, each under a free name. -/
def Grows : Registry → Registry → Prop :=
  Relation.ReflTransGen fun old new => ∃ plugin : Plugin, plugin.Steady ∧
    old.indexOf plugin.name = none ∧ new = old.push plugin

theorem Grows.push (first r : Registry) (plugin : Plugin) (grows : Grows first r)
    (steady : plugin.Steady) (free : r.indexOf plugin.name = none) :
    Grows first (r.push plugin) :=
  .tail grows ⟨plugin, steady, free, rfl⟩

theorem registerType_grows (steady : catalogue.Steady) (type : String) (r : Registry) (h : Host) :
    Grows r (registerType catalogue type (r, h)).2.1 :=
  registerType_keeps (Grows.push r) steady type r h .refl

theorem register_grows (steady : catalogue.Steady) {plugin : Plugin} (fixed : plugin.Steady)
    (r : Registry) (h : Host) : Grows r (register catalogue plugin (r, h)).2.1 :=
  register_keeps (Grows.push r) steady fixed r h .refl

theorem members_push (r : Registry) (plugin : Plugin) :
    (r.push plugin).members = r.members ++ [(r.issued, plugin)] := by
  simp only [push, members, List.map_append, List.map_cons, List.map_nil]

theorem Steady.push {r : Registry} (steady : r.Steady) {plugin : Plugin} (fixed : plugin.Steady) :
    (r.push plugin).Steady := by
  intro index p present
  rw [pluginAt_eq, members_push] at present
  by_cases inside : index < r.members.length
  · rw [List.getElem?_append_left inside, ← pluginAt_eq] at present
    exact steady index p present
  · rw [List.getElem?_append_right (by omega)] at present
    obtain ⟨m, member, rfl⟩ := Option.map_eq_some_iff.1 present
    have single := List.mem_of_getElem? member
    rw [List.mem_singleton] at single
    subst single
    exact fixed

theorem slots_push_of_lt (r : Registry) (plugin : Plugin) {index : Nat}
    (inside : index < r.slots.length) : (r.push plugin).slots[index]? = r.slots[index]? :=
  List.getElem?_append_left inside

theorem slots_push_of_some {r : Registry} {plugin : Plugin} {index : Nat} {slot : Slot}
    (found : (r.push plugin).slots[index]? = some slot) :
    r.slots[index]? = some slot ∨
      index = r.slots.length ∧ slot = ⟨r.issued, plugin, .registered⟩ := by
  by_cases inside : index < r.slots.length
  · rw [slots_push_of_lt r plugin inside] at found
    exact .inl found
  · right
    have appended : (r.slots ++ [⟨r.issued, plugin, .registered⟩])[index]? = some slot := found
    rw [List.getElem?_append_right (by omega)] at appended
    have single := List.mem_of_getElem? appended
    have within := (List.getElem?_eq_some_iff.1 appended).1
    rw [List.mem_singleton] at single
    rw [List.length_singleton] at within
    exact ⟨by omega, single⟩

end Registry

end PluginHost
