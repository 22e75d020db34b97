import PluginHost.Proofs.Plugin.SettingUp

/-!
The orders of a lifecycle. Whatever fails in between, the order of setting up lists every plugin
once and after all that it depends on, since a plugin joins it only when the visit of its
dependencies has succeeded, and such a visit lists them all.
-/

set_option autoImplicit false

namespace PluginHost

/-- Each index comes once, and after all that the plugin there depends on. -/
inductive Registry.Ordered (r : Registry) : List Nat → Prop
  | nil : Ordered r []
  | snoc {before : List Nat} {index : Nat} (ordered : Ordered r before) (fresh : index ∉ before)
      (resolved : r.Resolved index) (earlier : ∀ d, r.Needs index d → d ∈ before) :
      Ordered r (before ++ [index])

namespace Registry.Ordered

variable {r : Registry} {order : List Nat}

theorem nodup (ordered : r.Ordered order) : order.Nodup := by
  induction ordered with
  | nil => exact List.nodup_nil
  | snoc _ fresh _ _ ih =>
    rw [List.nodup_append]
    refine ⟨ih, List.nodup_cons.2 ⟨List.not_mem_nil, List.nodup_nil⟩, ?_⟩
    intro i old j new same
    rw [List.mem_singleton] at new
    subst new
    subst same
    exact fresh old

theorem resolved (ordered : r.Ordered order) {index : Nat} (member : index ∈ order) :
    r.Resolved index := by
  induction ordered with
  | nil => cases member
  | snoc _ _ resolved _ ih =>
    rcases List.mem_append.1 member with old | new
    · exact ih old
    · rw [List.mem_singleton] at new
      exact new ▸ resolved

/-- Dependencies occur earlier. -/
theorem earlier (ordered : r.Ordered order) {before rest : List Nat} {index needed : Nat}
    (split : order = before ++ index :: rest) (edge : r.Needs index needed) :
    needed ∈ before := by
  induction ordered generalizing rest with
  | nil => exact absurd split.symm (List.append_ne_nil_of_right_ne_nil _ (List.cons_ne_nil _ _))
  | @snoc old last _ _ _ earlier ih =>
    rcases List.eq_nil_or_concat rest with rfl | ⟨rest, x, rfl⟩
    · obtain ⟨rfl, same⟩ := List.append_inj' split rfl
      cases same
      exact earlier needed edge
    · rw [List.concat_eq_append, ← List.cons_append, ← List.append_assoc] at split
      obtain ⟨same, _⟩ := List.append_inj' split rfl
      exact ih same

theorem mem_of_needs (ordered : r.Ordered order) {index needed : Nat} (member : index ∈ order)
    (edge : r.Needs index needed) : needed ∈ order := by
  obtain ⟨before, rest, split⟩ := List.append_of_mem member
  have occurs := ordered.earlier split edge
  rw [split]
  exact List.mem_append_left _ occurs

theorem of_extends {new : Registry} (ordered : r.Ordered order)
    (longer : r.Extends new) (inside : ∀ i ∈ order, i < r.slots.length) :
    new.Ordered order := by
  induction ordered with
  | nil => exact .nil
  | snoc _ fresh resolved earlier ih =>
    have within := inside _ (List.mem_concat_self)
    refine .snoc (ih fun i member => inside i (List.mem_append_left _ member)) fresh
      (resolved.of_extends longer within) ?_
    intro d edge
    exact earlier d (edge.of_resolved longer within resolved)

theorem congr {new : Registry} (ordered : r.Ordered order) (same : new.roster = r.roster) :
    new.Ordered order := by
  induction ordered with
  | nil => exact .nil
  | snoc _ fresh resolved earlier ih =>
    exact .snoc ih fresh ((resolved_congr same).2 resolved) fun d edge =>
      earlier d ((needs_congr same).1 edge)

end Registry.Ordered

namespace Lifecycle

/-- What holds of a lifecycle at any time. Plugins that are marked but not listed are those on the
path of a visit, or were left behind by one that failed. -/
structure Sound (l : Lifecycle) : Prop where
  steady : l.registry.Steady
  indexed : l.registry.Indexed
  ordered : l.registry.Ordered l.initialized
  running : l.running <+: l.initialized
  started : ∀ i, l.stateAt i = some .started ↔ i ∈ l.running
  begun : ∀ i ∈ l.initialized, l.stateAt i = some .initialized ∨ l.stateAt i = some .started
  unstopped : ∀ i, l.stateAt i ≠ some .stopped

variable {l after : Lifecycle} {index : Nat}

namespace Sound

theorem empty (issued : Nat) : Sound { registry := { issued := issued } } where
  steady := by
    intro index plugin present
    cases present
  indexed := .clear { issued := issued }
  ordered := .nil
  running := List.prefix_refl _
  started := by
    intro i
    exact ⟨nofun, nofun⟩
  begun := fun i member => absurd member List.not_mem_nil
  unstopped := by
    intro i
    exact nofun

theorem not_mem_of_registered (sound : l.Sound) (fresh : l.stateAt index = some .registered) :
    index ∉ l.initialized := by
  intro member
  rcases sound.begun index member with is | is <;>
  · rw [fresh] at is
    cases is

theorem lt_length (sound : l.Sound) {i : Nat} (member : i ∈ l.initialized) :
    i < l.registry.slots.length := by
  have state : ∃ s, l.stateAt i = some s := by
    rcases sound.begun i member with is | is <;> exact ⟨_, is⟩
  obtain ⟨s, is⟩ := state
  obtain ⟨slot, found, _⟩ := Option.map_eq_some_iff.1 is
  exact (List.getElem?_eq_some_iff.1 found).1

/-- A plugin that is neither registered only nor pending is listed. -/
theorem mem_of_not_pending (sound : l.Sound) (inside : index < l.registry.slots.length)
    (later : l.stateAt index ≠ some .registered) (notPending : ¬ l.isPending index) :
    index ∈ l.initialized := by
  have is : l.stateAt index = some l.registry.slots[index].state :=
    stateAt_of_slot (List.getElem?_eq_getElem inside)
  cases state : l.registry.slots[index].state with
  | registered => exact absurd (state ▸ is) later
  | initialized =>
    by_cases listed : index ∈ l.initialized
    · exact listed
    · exfalso
      apply notPending
      simp [isPending, state ▸ is, listed]
  | started => exact sound.running.subset ((sound.started index).1 (state ▸ is))
  | stopped => exact absurd (state ▸ is) (sound.unstopped index)

/-- Whatever advances stays sound if its order is. -/
theorem of_advances (sound : l.Sound) (advances : l.Advances after)
    (ordered : after.registry.Ordered after.initialized) : after.Sound where
  steady := sound.steady.congr advances.members
  indexed := sound.indexed.congr advances.roster
  ordered := ordered
  running := advances.running ▸ sound.running.trans advances.order
  started := by
    intro i
    rw [advances.running]
    rcases advances.states i with same | ⟨was, is⟩
    · rw [same]
      exact sound.started i
    · rw [is]
      refine ⟨nofun, fun member => ?_⟩
      exact absurd (sound.running.subset member) (sound.not_mem_of_registered was)
  begun := by
    intro i member
    rcases advances.listed i member with old | ⟨_, is⟩
    · have begun := sound.begun i old
      rwa [advances.stateAt_of_ne i]
      intro registered
      exact sound.not_mem_of_registered registered old
    · exact .inl is
  unstopped := by
    intro i
    rcases advances.states i with same | ⟨_, is⟩
    · rw [same]
      exact sound.unstopped i
    · rw [is]
      exact nofun

theorem mark (sound : l.Sound) (fresh : l.stateAt index = some .registered) :
    (l.setState index .initialized).Sound :=
  sound.of_advances (.mark fresh) (sound.ordered.congr (Registry.roster_setState _ _ _))

end Sound

/-- The plugins that a visit lists if it succeeds. -/
def Visit.Listed (visit : Visit) (before after : Lifecycle) : Prop :=
  match visit with
  | .plugin index => ¬ before.isPending index → index < before.registry.slots.length →
      index ∈ after.initialized
  | .needs _ indices => ∀ d ∈ indices, d < before.registry.slots.length → d ∈ after.initialized

/-- A visit leaves a sound lifecycle, and if it succeeds it has listed what it visited. -/
theorem SetsUp.sound {visit : Visit} {calls : List Call} {result : Except Failure Unit}
    (setsUp : SetsUp visit l calls result after) (sound : l.Sound) :
    after.Sound ∧ (result = .ok () → Visit.Listed visit l after) := by
  induction setsUp with
  | absent absent =>
    refine ⟨sound, ?_⟩
    intro _ _ inside
    rw [List.getElem?_eq_getElem inside] at absent
    cases absent
  | @idle l index slot found later =>
    refine ⟨sound, ?_⟩
    intro _ notPending inside
    have begun : l.stateAt index ≠ some .registered := by
      rw [stateAt_of_slot found]
      exact fun same => later (Option.some.inj same)
    exact sound.mem_of_not_pending inside begun notPending
  | unresolved found fresh _ => exact ⟨sound.mark (fresh ▸ stateAt_of_slot found), nofun⟩
  | blocked found fresh _ _ ih => exact ⟨(ih (sound.mark (fresh ▸ stateAt_of_slot found))).1, nofun⟩
  | failed found fresh _ _ ih => exact ⟨(ih (sound.mark (fresh ▸ stateAt_of_slot found))).1, nofun⟩
  | @done l after index slot h needed calls found fresh resolved visit ih =>
    have registered : l.stateAt index = some .registered := fresh ▸ stateAt_of_slot found
    obtain ⟨soundAfter, listed⟩ := ih (sound.mark registered)
    have advances := visit.advances
    obtain ⟨allResolved, edges⟩ := Registry.dependencies_ok sound.steady resolved
    have roster : after.registry.roster = l.registry.roster :=
      advances.roster.trans (Registry.roster_setState _ _ _)
    have fresh : index ∉ after.initialized := by
      intro member
      rcases advances.listed index member with old | ⟨was, _⟩
      · exact sound.not_mem_of_registered registered old
      · rw [stateAt_mark registered] at was
        cases was
    have ordered : after.registry.Ordered (after.initialized ++ [index]) := by
      refine .snoc soundAfter.ordered fresh ((Registry.resolved_congr roster).2 allResolved) ?_
      intro d edge
      have before := (Registry.needs_congr roster).1 edge
      apply listed rfl d ((edges d).1 before)
      have length := Registry.length_of_members
        (Registry.members_setState l.registry index .initialized)
      have below := before.lt sound.indexed
      show d < (l.registry.setState index .initialized).slots.length
      omega
    have marked := advances.stateAt_marked registered
    have whole : l.Advances (after.list index) :=
      ((Advances.mark registered).trans advances).list registered marked
    refine ⟨sound.of_advances whole ordered, ?_⟩
    intro _ _ _
    exact List.mem_concat_self
  | nil => exact ⟨sound, fun _ d member => absurd member List.not_mem_nil⟩
  | cycle => exact ⟨sound, nofun⟩
  | cut _ _ ih => exact ⟨(ih sound).1, nofun⟩
  | cons notPending first others ihFirst ihOthers =>
    obtain ⟨soundMiddle, listedFirst⟩ := ihFirst sound
    obtain ⟨soundAfter, listedOthers⟩ := ihOthers soundMiddle
    refine ⟨soundAfter, ?_⟩
    intro succeeded d member inside
    rcases List.mem_cons.1 member with rfl | later
    · exact others.advances.order.subset (listedFirst rfl notPending inside)
    · apply listedOthers succeeded d later
      rwa [Registry.length_of_members first.advances.members]

theorem Sound.push (sound : l.Sound) {plugin : Plugin} (fixed : plugin.Steady)
    (free : l.registry.indexOf plugin.name = none) :
    Sound { l with registry := l.registry.push plugin } := by
  have same : ∀ i s, s ≠ .registered →
      (stateAt { l with registry := l.registry.push plugin } i = some s ↔
        l.stateAt i = some s) := by
    intro i s later
    constructor
    · intro is
      obtain ⟨slot, found, state⟩ := Option.map_eq_some_iff.1 is
      rcases Registry.slots_push_of_some found with old | ⟨_, rfl⟩
      · rw [stateAt_of_slot old, state]
      · exact absurd state.symm later
    · intro is
      obtain ⟨slot, found, state⟩ := Option.map_eq_some_iff.1 is
      have inside := (List.getElem?_eq_some_iff.1 found).1
      rw [stateAt_of_slot ((Registry.slots_push_of_lt _ _ inside).trans found), state]
  exact
    { steady := sound.steady.push fixed
      indexed := sound.indexed.push free
      ordered := sound.ordered.of_extends (.push free) fun _ => sound.lt_length
      running := sound.running
      started := fun i => (same i .started (by decide)).trans (sound.started i)
      begun := fun i member => by
        rw [same i .initialized (by decide), same i .started (by decide)]
        exact sound.begun i member
      unstopped := fun i is => sound.unstopped i ((same i .stopped (by decide)).1 is) }

theorem Sound.grow (sound : l.Sound) {r : Registry} (grows : l.registry.Grows r) :
    Sound { l with registry := r } := by
  induction grows with
  | refl => exact sound
  | tail _ step ih =>
    obtain ⟨plugin, fixed, free, rfl⟩ := step
    exact ih.push fixed free

end Lifecycle

end PluginHost
