import PluginHost.Proofs.Plugin.Record
import PluginHost.Proofs.Plugin.Stopping

set_option autoImplicit false

namespace PluginHost

namespace Registry

/-- Every plugin has a number of its own, from those that were issued. -/
structure Numbered (r : Registry) : Prop where
  issued : ∀ i s, r.serialAt i = some s → s < r.issued
  distinct : ∀ i j s, r.serialAt i = some s → r.serialAt j = some s → i = j

theorem Numbered.empty (issued : Nat) : Numbered { issued := issued } :=
  ⟨fun _ _ none => (nomatch none), fun _ _ _ none => (nomatch none)⟩

theorem Numbered.congr {old new : Registry} (numbered : old.Numbered)
    (same : new.members = old.members) (issued : new.issued = old.issued) : new.Numbered := by
  constructor
  · intro i s is
    rw [serialAt_congr same] at is
    rw [issued]
    exact numbered.issued i s is
  · intro i j s is js
    rw [serialAt_congr same] at is js
    exact numbered.distinct i j s is js

theorem serialAt_push (r : Registry) (plugin : Plugin) {i s : Nat}
    (is : (r.push plugin).serialAt i = some s) :
    r.serialAt i = some s ∨ i = r.slots.length ∧ s = r.issued := by
  obtain ⟨slot, found, rfl⟩ := Option.map_eq_some_iff.1 is
  rcases slots_push_of_some found with old | ⟨last, rfl⟩
  · exact .inl (serialAt_of_slot old)
  · exact .inr ⟨last, rfl⟩

theorem lt_of_serialAt {r : Registry} {i s : Nat} (is : r.serialAt i = some s) :
    i < r.slots.length := by
  obtain ⟨slot, found, _⟩ := Option.map_eq_some_iff.1 is
  exact (List.getElem?_eq_some_iff.1 found).1

theorem serialAt_push_of_lt (r : Registry) (plugin : Plugin) {i : Nat}
    (inside : i < r.slots.length) : (r.push plugin).serialAt i = r.serialAt i :=
  serialAt_of_isPrefix ⟨_, (members_push r plugin).symm⟩ inside

theorem Numbered.push {r : Registry} (numbered : r.Numbered) (plugin : Plugin) :
    (r.push plugin).Numbered := by
  constructor
  · intro i s is
    rcases serialAt_push r plugin is with old | ⟨_, rfl⟩
    · have below := numbered.issued i s old
      show s < r.issued + 1
      omega
    · show r.issued < r.issued + 1
      omega
  · intro i j s is js
    rcases serialAt_push r plugin is with old | ⟨rfl, rfl⟩ <;>
    rcases serialAt_push r plugin js with old' | ⟨rfl, same⟩
    · exact numbered.distinct i j s old old'
    · have below := numbered.issued i s old
      omega
    · have below := numbered.issued j _ old'
      omega
    · rfl

end Registry

namespace Lifecycle

variable {l middle after : Lifecycle} {visit : Visit} {calls later : List Call}
  {result : Except Failure Unit}

theorem Advances.of_registered (advances : l.Advances after) {i : Nat}
    (fresh : after.stateAt i = some .registered) : l.stateAt i = some .registered := by
  rcases advances.states i with same | ⟨was, _⟩
  · rw [← same]
    exact fresh
  · exact was

/-- Only plugins that were registered, and then are so no longer, are called to set themselves
up. -/
theorem SetsUp.called (setsUp : SetsUp visit l calls result after) {c : Call} (member : c ∈ calls) :
    c.hook = .setUp ∧ ∃ i, l.registry.serialAt i = some c.plugin ∧
      l.stateAt i = some .registered ∧ after.stateAt i ≠ some .registered := by
  induction setsUp with
  | absent | idle | unresolved | nil | cycle => cases member
  | blocked found fresh _ _ ih =>
    obtain ⟨hook, i, is, registered, left⟩ := ih member
    have mark := Advances.mark (fresh ▸ stateAt_of_slot found)
    rw [Registry.serialAt_congr mark.members] at is
    exact ⟨hook, i, is, mark.of_registered registered, left⟩
  | @failed l after index slot h needed calls e found fresh _ visit ih
  | @done l after index slot h needed calls found fresh _ visit ih =>
    have registered : l.stateAt index = some .registered := fresh ▸ stateAt_of_slot found
    have mark := Advances.mark registered
    rcases List.mem_append.1 member with old | new
    · obtain ⟨hook, i, is, registered, left⟩ := ih old
      rw [Registry.serialAt_congr mark.members] at is
      exact ⟨hook, i, is, mark.of_registered registered, left⟩
    · have marked := visit.advances.stateAt_marked registered
      have left : after.stateAt index ≠ some .registered := by
        rw [marked]
        exact nofun
      simp only [Slot.called, List.mem_cons, List.not_mem_nil, or_false] at new
      rcases new with rfl | rfl <;>
        exact ⟨rfl, index, Registry.serialAt_of_slot found, registered, left⟩
  | cut _ _ ih => exact ih member
  | cons _ first others ihFirst ihOthers =>
    rcases List.mem_append.1 member with old | new
    · obtain ⟨hook, i, is, registered, left⟩ := ihFirst old
      exact ⟨hook, i, is, registered, fun fresh => left (others.advances.of_registered fresh)⟩
    · obtain ⟨hook, i, is, registered, left⟩ := ihOthers new
      rw [Registry.serialAt_congr first.advances.members] at is
      exact ⟨hook, i, is, first.advances.of_registered registered, left⟩

theorem mem_called {slot : Slot} {hook : Hook} {ok : Bool} {c : Call}
    (member : c ∈ slot.called hook ok) : c.hook = hook ∧ c.plugin = slot.serial := by
  simp only [Slot.called, List.mem_cons, List.not_mem_nil, or_false] at member
  rcases member with rfl | rfl <;> exact ⟨rfl, rfl⟩

theorem entries_called (slot : Slot) (hook other : Hook) (ok : Bool) :
    entries other (slot.called hook ok) = if hook = other then [slot.serial] else [] := by
  by_cases same : hook = other
  · simp only [entries, Slot.called, Call.begins, List.filterMap_cons, List.filterMap_nil, same,
      if_true]
  · simp only [entries, Slot.called, Call.begins, List.filterMap_cons, List.filterMap_nil, same,
      if_false]

/-- No plugin is called twice to set itself up. -/
theorem SetsUp.once (setsUp : SetsUp visit l calls result after)
    (numbered : l.registry.Numbered) : (entries .setUp calls).Nodup := by
  induction setsUp with
  | absent | idle | unresolved | nil | cycle => exact List.nodup_nil
  | blocked found fresh _ _ ih =>
    have mark := Advances.mark (fresh ▸ stateAt_of_slot found)
    exact ih (numbered.congr mark.members mark.issued)
  | @failed l after index slot h needed calls e found fresh _ visit ih
  | @done l after index slot h needed calls found fresh _ visit ih =>
    have registered : l.stateAt index = some .registered := fresh ▸ stateAt_of_slot found
    have mark := Advances.mark registered
    rw [entries_append, entries_called, if_pos rfl, List.nodup_append]
    refine ⟨ih (numbered.congr mark.members mark.issued),
      List.nodup_cons.2 ⟨List.not_mem_nil, List.nodup_nil⟩, ?_⟩
    rintro p before q again rfl
    rw [List.mem_singleton] at again
    obtain ⟨_, i, is, fresh, _⟩ := visit.called (mem_entries.1 before)
    rw [Registry.serialAt_congr mark.members] at is
    have same : i = index :=
      numbered.distinct i index p is (again ▸ Registry.serialAt_of_slot found)
    rw [same, stateAt_mark registered] at fresh
    cases fresh
  | cut _ _ ih => exact ih numbered
  | @cons _ middle _ _ _ _ _ _ _ _ first others ihFirst ihOthers =>
    have advances := first.advances
    have numberedMiddle := numbered.congr advances.members advances.issued
    rw [entries_append, List.nodup_append]
    refine ⟨ihFirst numbered, ihOthers numberedMiddle, ?_⟩
    rintro p before q again rfl
    obtain ⟨_, i, is, _, left⟩ := first.called (mem_entries.1 before)
    obtain ⟨_, j, js, fresh, _⟩ := others.called (mem_entries.1 again)
    rw [← Registry.serialAt_congr advances.members] at is
    exact left (numberedMiddle.distinct i j p is js ▸ fresh)

/-- Whoever joined the order was called with success. -/
theorem SetsUp.left (setsUp : SetsUp visit l calls result after) {i s : Nat}
    (is : l.registry.serialAt i = some s) (listed : i ∈ after.initialized) :
    i ∈ l.initialized ∨ .left s .setUp true ∈ calls := by
  induction setsUp with
  | absent | idle | unresolved | nil | cycle => exact .inl listed
  | blocked _ _ _ _ ih =>
    exact ih ((Registry.serialAt_congr (Registry.members_setState _ _ _) i).trans is) listed
  | failed _ _ _ _ ih =>
    rcases ih ((Registry.serialAt_congr (Registry.members_setState _ _ _) i).trans is) listed with
      old | called
    · exact .inl old
    · exact .inr (List.mem_append_left _ called)
  | done found _ _ _ ih =>
    rcases List.mem_append.1 listed with listed | new
    · rcases ih ((Registry.serialAt_congr (Registry.members_setState _ _ _) i).trans is) listed with
        old | called
      · exact .inl old
      · exact .inr (List.mem_append_left _ called)
    · rw [List.mem_singleton] at new
      subst new
      rw [Registry.serialAt_of_slot found, Option.some.injEq] at is
      subst is
      exact .inr (List.mem_append_right _ (List.mem_cons_of_mem _ List.mem_cons_self))
  | cut _ _ ih => exact ih is listed
  | cons _ first _ ihFirst ihOthers =>
    rcases ihOthers ((Registry.serialAt_congr first.advances.members i).trans is) listed with
      old | called
    · rcases ihFirst is old with older | called
      · exact .inl older
      · exact .inr (List.mem_append_left _ called)
    · exact .inr (List.mem_append_right _ called)

/-- Whoever was called with success joined the order. -/
theorem SetsUp.listed (setsUp : SetsUp visit l calls result after)
    (numbered : l.registry.Numbered) {i s : Nat} (is : l.registry.serialAt i = some s)
    (member : .left s .setUp true ∈ calls) : i ∈ after.initialized := by
  induction setsUp with
  | absent | idle | unresolved | nil | cycle => cases member
  | blocked found fresh _ _ ih =>
    have mark := Advances.mark (fresh ▸ stateAt_of_slot found)
    exact ih (numbered.congr mark.members mark.issued)
      ((Registry.serialAt_congr mark.members i).trans is) member
  | failed found fresh _ _ ih =>
    have mark := Advances.mark (fresh ▸ stateAt_of_slot found)
    rcases List.mem_append.1 member with old | new
    · exact ih (numbered.congr mark.members mark.issued)
        ((Registry.serialAt_congr mark.members i).trans is) old
    · simp [Slot.called] at new
  | @done _ _ index slot _ _ _ found fresh _ _ ih =>
    have mark := Advances.mark (fresh ▸ stateAt_of_slot found)
    rcases List.mem_append.1 member with old | new
    · have listed := ih (numbered.congr mark.members mark.issued)
        ((Registry.serialAt_congr mark.members i).trans is) old
      exact List.mem_append_left _ listed
    · have own : s = slot.serial := (mem_called new).2
      have same : i = index :=
        numbered.distinct i index s is (own ▸ Registry.serialAt_of_slot found)
      subst same
      exact List.mem_concat_self
  | cut _ _ ih => exact ih numbered is member
  | cons _ first others ihFirst ihOthers =>
    have advances := first.advances
    rcases List.mem_append.1 member with old | new
    · exact others.advances.order.subset (ihFirst numbered is old)
    · exact ihOthers (numbered.congr advances.members advances.issued)
        ((Registry.serialAt_congr advances.members i).trans is) new

theorem Reloads.called {indices : List Nat} (reloads : l.Reloads indices calls) {c : Call}
    (member : c ∈ calls) : c.hook = .reload ∧ ∃ i, l.registry.serialAt i = some c.plugin ∧
      l.stateAt i ≠ some .registered := by
  induction reloads with
  | nil => cases member
  | skip _ _ ih => exact ih member
  | cons found begun _ ih =>
    rcases List.mem_append.1 member with first | later
    · obtain ⟨hook, plugin⟩ := mem_called first
      refine ⟨hook, _, plugin ▸ Registry.serialAt_of_slot found, ?_⟩
      rw [stateAt_of_slot found]
      exact fun same => begun (Option.some.inj same)
    · exact ih later

variable {r : Registry} {order : List Nat}

theorem Stops.called (stops : Stops r order calls result) {c : Call} (member : c ∈ calls) :
    c.hook = .stop ∧ ∃ i, r.serialAt i = some c.plugin := by
  induction stops with
  | nil => cases member
  | failed found _ ih | cons found _ ih =>
    rcases List.mem_append.1 member with first | later
    · obtain ⟨hook, plugin⟩ := mem_called first
      exact ⟨hook, _, plugin ▸ Registry.serialAt_of_slot found⟩
    · obtain ⟨hook, i, is⟩ := ih later
      exact ⟨hook, i, (Registry.serialAt_congr (Registry.members_setState _ _ _) i) ▸ is⟩

theorem Stops.entries (stops : Stops r order calls result) :
    entries .stop calls = order.filterMap r.serialAt := by
  have same : ∀ (r : Registry) index,
      (r.setState index .stopped).serialAt = r.serialAt := fun r index =>
    funext (Registry.serialAt_congr (Registry.members_setState _ _ _))
  induction stops with
  | nil => rfl
  | failed found _ ih | cons found _ ih =>
    rw [entries_append, entries_called, if_pos rfl, ih, same,
      List.filterMap_cons_some (Registry.serialAt_of_slot found), List.singleton_append]

/-- Whoever comes earlier in the order has been stopped before. -/
theorem Stops.earlier (stops : Stops r order calls result) (numbered : r.Numbered)
    (nodup : order.Nodup) {pre post : List Nat} {i d p q : Nat}
    (split : order = pre ++ d :: post) (member : i ∈ pre) (is : r.serialAt i = some p)
    (ds : r.serialAt d = some q) {before after : List Call}
    (point : calls = before ++ .entered q .stop :: after) : ∃ ok, .left p .stop ok ∈ before := by
  induction stops generalizing pre before with
  | nil => exact absurd point.symm (List.append_ne_nil_of_right_ne_nil _ (List.cons_ne_nil _ _))
  | @failed r index rest slot _ _ _ found _ ih | @cons r index rest slot _ _ found _ ih =>
    have members := Registry.members_setState r index .stopped
    cases pre with
    | nil => cases member
    | cons first pre =>
      rw [List.cons_append, List.cons.injEq] at split
      obtain ⟨rfl, split⟩ := split
      obtain ⟨away, nodup⟩ := List.nodup_cons.1 nodup
      have among : d ∈ rest := by
        rw [split]
        exact List.mem_append_cons_self
      rcases append_split point with ⟨more, rfl, later⟩ | ⟨more, own, _⟩
      · rcases List.mem_cons.1 member with rfl | inside
        · rw [Registry.serialAt_of_slot found, Option.some.injEq] at is
          subst is
          exact ⟨_, List.mem_append_left _ (List.mem_cons_of_mem _ List.mem_cons_self)⟩
        · obtain ⟨ok, ended⟩ := ih (numbered.congr members rfl) nodup split inside
            ((Registry.serialAt_congr members i).trans is)
            ((Registry.serialAt_congr members d).trans ds) later
          exact ⟨ok, List.mem_append_right _ ended⟩
      · have called := List.mem_append_right before
          (List.mem_cons_self (a := Call.entered q .stop) (l := more))
        rw [← own] at called
        have same : q = slot.serial := (mem_called called).2
        have equal := numbered.distinct d index q ds (same ▸ Registry.serialAt_of_slot found)
        exact absurd (equal ▸ among) away

end Lifecycle

end PluginHost
