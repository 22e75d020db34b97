import PluginHost.Proofs.Plugin.Registration
import Mathlib.Data.Finset.Card
import Mathlib.Data.Finset.Range

/-!
Setting up as a relation between lifecycles, with the calls that plugins get on the way. The host is
left out of it: it decides what a call comes to, and nothing else. A plugin is marked before its
dependencies are visited, so on the way down there are ever fewer plugins that were not visited.
-/

set_option autoImplicit false

namespace PluginHost

/-- What is set up: the plugin at an index, or what it depends on. -/
inductive Visit where
  | plugin (index : Nat)
  | needs (owner : Nat) (indices : List Nat)

/-- A call of a plugin from beginning to end. -/
def Slot.called (slot : Slot) (hook : Hook) (succeeded : Bool) : List Call :=
  [.entered slot.serial hook, .left slot.serial hook succeeded]

namespace Lifecycle

def list (l : Lifecycle) (index : Nat) : Lifecycle :=
  { l with initialized := l.initialized ++ [index] }

/-- A visit, whatever the calls of plugins on the way come to. -/
inductive SetsUp :
    Visit → Lifecycle → List Call → Except Failure Unit → Lifecycle → Prop where
  | absent {l : Lifecycle} {index : Nat} (absent : l.registry.slots[index]? = none) :
      SetsUp (.plugin index) l [] (.ok ()) l
  /-- It got past being registered before. -/
  | idle {l : Lifecycle} {index : Nat} {slot : Slot} (found : l.registry.slots[index]? = some slot)
      (later : slot.state ≠ .registered) : SetsUp (.plugin index) l [] (.ok ()) l
  | unresolved {l : Lifecycle} {index : Nat} {slot : Slot} {h : Host} {e : Failure}
      (found : l.registry.slots[index]? = some slot) (fresh : slot.state = .registered)
      (unresolved : l.registry.dependencies h index = .error e) :
      SetsUp (.plugin index) l [] (.error e) (l.setState index .initialized)
  | blocked {l after : Lifecycle} {index : Nat} {slot : Slot} {h : Host} {needed : List Nat}
      {calls : List Call} {e : Failure}
      (found : l.registry.slots[index]? = some slot) (fresh : slot.state = .registered)
      (resolved : l.registry.dependencies h index = .ok needed)
      (visit : SetsUp (.needs index needed) (l.setState index .initialized) calls (.error e)
        after) : SetsUp (.plugin index) l calls (.error e) after
  | failed {l after : Lifecycle} {index : Nat} {slot : Slot} {h : Host} {needed : List Nat}
      {calls : List Call} {e : Failure}
      (found : l.registry.slots[index]? = some slot) (fresh : slot.state = .registered)
      (resolved : l.registry.dependencies h index = .ok needed)
      (visit : SetsUp (.needs index needed) (l.setState index .initialized) calls (.ok ()) after) :
      SetsUp (.plugin index) l (calls ++ slot.called .setUp false) (.error e) after
  | done {l after : Lifecycle} {index : Nat} {slot : Slot} {h : Host} {needed : List Nat}
      {calls : List Call}
      (found : l.registry.slots[index]? = some slot) (fresh : slot.state = .registered)
      (resolved : l.registry.dependencies h index = .ok needed)
      (visit : SetsUp (.needs index needed) (l.setState index .initialized) calls (.ok ()) after) :
      SetsUp (.plugin index) l (calls ++ slot.called .setUp true) (.ok ()) (after.list index)
  | nil {l : Lifecycle} {owner : Nat} : SetsUp (.needs owner []) l [] (.ok ()) l
  /-- It stands on the path to itself. -/
  | cycle {l : Lifecycle} {owner index : Nat} {rest : List Nat} (pending : l.isPending index) :
      SetsUp (.needs owner (index :: rest)) l []
        (.error (.dependencyCycle (l.registry.nameAt owner) (l.registry.nameAt index))) l
  | cut {l after : Lifecycle} {owner index : Nat} {rest : List Nat} {calls : List Call}
      {e : Failure} (notPending : ¬ l.isPending index)
      (first : SetsUp (.plugin index) l calls (.error e) after) :
      SetsUp (.needs owner (index :: rest)) l calls (.error e) after
  | cons {l middle after : Lifecycle} {owner index : Nat} {rest : List Nat}
      {calls later : List Call} {result : Except Failure Unit} (notPending : ¬ l.isPending index)
      (first : SetsUp (.plugin index) l calls (.ok ()) middle)
      (others : SetsUp (.needs owner rest) middle later result after) :
      SetsUp (.needs owner (index :: rest)) l (calls ++ later) result after

variable {l before middle after : Lifecycle} {index : Nat}

theorem stateAt_of_slot {slot : Slot} (found : l.registry.slots[index]? = some slot) :
    l.stateAt index = some slot.state := by
  simp only [stateAt, found, Option.map_some]

theorem stateAt_setState (l : Lifecycle) (index i : Nat) (state : PluginState) :
    (l.setState index state).stateAt i =
      if index = i then (l.stateAt i).map fun _ => state else l.stateAt i := by
  simp only [stateAt, setState, Registry.setState, List.getElem?_modify]
  split <;> cases l.registry.slots[i]? <;> rfl

/-- Plugins that were registered may be marked, and those may join the order. -/
structure Advances (before after : Lifecycle) : Prop where
  roster : after.registry.roster = before.registry.roster
  issued : after.registry.issued = before.registry.issued
  running : after.running = before.running
  order : before.initialized <+: after.initialized
  states : ∀ i, after.stateAt i = before.stateAt i ∨
    before.stateAt i = some .registered ∧ after.stateAt i = some .initialized
  listed : ∀ i ∈ after.initialized, i ∈ before.initialized ∨
    before.stateAt i = some .registered ∧ after.stateAt i = some .initialized

namespace Advances

theorem refl (l : Lifecycle) : l.Advances l :=
  ⟨rfl, rfl, rfl, List.prefix_refl _, fun _ => .inl rfl, fun _ => .inl⟩

theorem members (advances : before.Advances after) :
    after.registry.members = before.registry.members :=
  Registry.members_of_roster advances.roster

theorem trans (first : before.Advances middle) (second : middle.Advances after) :
    before.Advances after where
  roster := second.roster.trans first.roster
  issued := second.issued.trans first.issued
  running := second.running.trans first.running
  order := first.order.trans second.order
  states := by
    intro i
    rcases second.states i with same | ⟨was, is⟩
    · rw [same]
      exact first.states i
    · rcases first.states i with same | ⟨_, marked⟩
      · exact .inr ⟨same ▸ was, is⟩
      · rw [was] at marked
        cases marked
  listed := by
    intro i member
    rcases second.listed i member with old | ⟨was, is⟩
    · rcases first.listed i old with older | ⟨was, is⟩
      · exact .inl older
      · refine .inr ⟨was, ?_⟩
        rcases second.states i with same | ⟨registered, _⟩
        · rw [same, is]
        · rw [is] at registered
          cases registered
    · rcases first.states i with same | ⟨_, marked⟩
      · exact .inr ⟨same ▸ was, is⟩
      · rw [was] at marked
        cases marked

theorem mark (fresh : l.stateAt index = some .registered) :
    l.Advances (l.setState index .initialized) where
  roster := Registry.roster_setState _ _ _
  issued := rfl
  running := rfl
  order := List.prefix_refl _
  states := by
    intro i
    rw [stateAt_setState]
    split
    · rename_i same
      subst same
      exact .inr ⟨fresh, by rw [fresh]; rfl⟩
    · exact .inl rfl
  listed := fun _ => .inl

theorem list (advances : l.Advances after) (fresh : l.stateAt index = some .registered)
    (marked : after.stateAt index = some .initialized) : l.Advances (after.list index) :=
  { advances with
    order := advances.order.trans (List.prefix_append _ _)
    listed := by
      intro i member
      rcases List.mem_append.1 member with old | new
      · exact advances.listed i old
      · rw [List.mem_singleton] at new
        subst new
        exact .inr ⟨fresh, marked⟩ }

/-- What was not registered any more stays as it was. -/
theorem stateAt_of_ne (advances : l.Advances after) (i : Nat)
    (later : l.stateAt i ≠ some .registered) : after.stateAt i = l.stateAt i := by
  rcases advances.states i with same | ⟨registered, _⟩
  · exact same
  · exact absurd registered later

end Advances

theorem stateAt_mark (fresh : l.stateAt index = some .registered) :
    (l.setState index .initialized).stateAt index = some .initialized := by
  rw [stateAt_setState, if_pos rfl, fresh]
  rfl

/-- What is marked when its dependencies are visited is still marked afterwards. -/
theorem Advances.stateAt_marked (advances : (l.setState index .initialized).Advances after)
    (fresh : l.stateAt index = some .registered) : after.stateAt index = some .initialized := by
  have marked := stateAt_mark fresh
  rw [advances.stateAt_of_ne index (by rw [marked]; decide), marked]

theorem SetsUp.advances {visit : Visit} {calls : List Call} {result : Except Failure Unit}
    (setsUp : SetsUp visit l calls result after) : l.Advances after := by
  induction setsUp with
  | absent | idle | nil | cycle => exact .refl _
  | unresolved found fresh _ => exact .mark (fresh ▸ stateAt_of_slot found)
  | blocked found fresh _ _ ih => exact (Advances.mark (fresh ▸ stateAt_of_slot found)).trans ih
  | failed found fresh _ _ ih => exact (Advances.mark (fresh ▸ stateAt_of_slot found)).trans ih
  | done found fresh _ _ ih =>
    have registered := fresh ▸ stateAt_of_slot found
    exact ((Advances.mark registered).trans ih).list registered (ih.stateAt_marked registered)
  | cut _ _ ih => exact ih
  | cons _ _ _ ihFirst ihOthers => exact ihFirst.trans ihOthers

def inState (l : Lifecycle) (state : PluginState) : Finset Nat :=
  (Finset.range l.registry.slots.length).filter fun i => l.stateAt i = some state

variable {state next : PluginState}

theorem mem_inState {i : Nat} : i ∈ l.inState state ↔ l.stateAt i = some state := by
  simp only [inState, Finset.mem_filter, Finset.mem_range, and_iff_right_iff_imp]
  intro is
  obtain ⟨slot, found, _⟩ := Option.map_eq_some_iff.1 is
  exact (List.getElem?_eq_some_iff.1 found).1

theorem card_inState_le (l : Lifecycle) (state : PluginState) :
    (l.inState state).card ≤ l.registry.slots.length := by
  have bound := Finset.card_filter_le (Finset.range l.registry.slots.length)
    fun i => l.stateAt i = some state
  rwa [Finset.card_range] at bound

/-- A plugin that moves on comes to no other state but the next one. -/
theorem inState_setState_subset (l : Lifecycle) (index : Nat) (other : next ≠ state) :
    (l.setState index next).inState state ⊆ l.inState state := by
  intro i member
  rw [mem_inState, stateAt_setState] at member
  rw [mem_inState]
  by_cases same : index = i
  · rw [if_pos same] at member
    obtain ⟨_, _, is⟩ := Option.map_eq_some_iff.1 member
    exact absurd is other
  · rwa [if_neg same] at member

/-- A plugin that moves on leaves fewer in its state. -/
theorem card_inState_setState_lt (was : l.stateAt index = some state) (other : next ≠ state) :
    ((l.setState index next).inState state).card < (l.inState state).card := by
  refine Finset.card_lt_card ⟨inState_setState_subset l index other, fun all => ?_⟩
  have still := all (mem_inState.2 was)
  rw [mem_inState, stateAt_setState, if_pos rfl, was, Option.map_some, Option.some.injEq] at still
  exact other still

def fresh (l : Lifecycle) : Finset Nat :=
  (Finset.range l.registry.slots.length).filter fun i => l.stateAt i = some .registered

theorem mem_fresh {i : Nat} : i ∈ l.fresh ↔ l.stateAt i = some .registered := mem_inState

theorem card_fresh_le (l : Lifecycle) : l.fresh.card ≤ l.registry.slots.length :=
  l.card_inState_le .registered

theorem Advances.fresh_subset (advances : l.Advances after) : after.fresh ⊆ l.fresh := by
  intro i member
  rw [mem_fresh] at member ⊢
  rcases advances.states i with same | ⟨was, _⟩
  · rw [← same]
    exact member
  · exact was

theorem card_fresh_mark (registered : l.stateAt index = some .registered) :
    (l.setState index .initialized).fresh.card < l.fresh.card :=
  card_inState_setState_lt registered (by decide)

end Lifecycle

end PluginHost
