import PluginHost.Proofs.Plugin.Life

set_option autoImplicit false

namespace PluginHost

namespace Lifecycle

/-- How the calls of the life in progress fit a lifecycle. -/
structure Underway (l : Lifecycle) (calls : List Call) : Prop where
  numbered : l.registry.Numbered
  plugins : ∀ c ∈ calls, ∃ i, l.registry.serialAt i = some c.plugin
  untouched : ∀ i, l.stateAt i = some .registered →
    ∀ c ∈ calls, l.registry.serialAt i ≠ some c.plugin
  setUpOnce : (entries .setUp calls).Nodup
  setUp : ∀ i ∈ l.initialized, ∀ s, l.registry.serialAt i = some s → .left s .setUp true ∈ calls
  listed : ∀ i s, l.registry.serialAt i = some s → .left s .setUp true ∈ calls →
    i ∈ l.initialized
  starts : entries .start calls = l.running.filterMap l.registry.serialAt
  rises : ∀ c ∈ calls, c.hook ≠ .stop
  startAfterSetUp : ∀ p, Precedes (.left p .setUp true) (.entered p .start) calls
  startAfterNeeds : ∀ i d p q, l.registry.Needs i d → l.registry.serialAt i = some p →
    l.registry.serialAt d = some q → Precedes (.left q .start true) (.entered p .start) calls

/-- Every plugin that runs got through starting. -/
def Complete (l : Lifecycle) (calls : List Call) : Prop :=
  ∀ i ∈ l.running, ∀ s, l.registry.serialAt i = some s → .left s .start true ∈ calls

variable {l after : Lifecycle} {calls later : List Call} {result : Except Failure Unit}

theorem Underway.empty (issued : Nat) : Underway { registry := { issued := issued } } [] where
  numbered := .empty issued
  plugins := fun _ none => absurd none List.not_mem_nil
  untouched := fun _ _ _ none => absurd none List.not_mem_nil
  setUpOnce := List.nodup_nil
  setUp := fun _ none => absurd none List.not_mem_nil
  listed := fun _ _ _ none => absurd none List.not_mem_nil
  starts := rfl
  rises := fun _ none => absurd none List.not_mem_nil
  startAfterSetUp := fun _ => .of_not_mem List.not_mem_nil
  startAfterNeeds := fun _ _ _ _ _ _ _ => .of_not_mem List.not_mem_nil

theorem Complete.empty (issued : Nat) : Complete { registry := { issued := issued } } [] :=
  fun _ none => absurd none List.not_mem_nil

/-- Who began to start is running. -/
theorem Underway.runs (underway : l.Underway calls) {p : Nat} (began : p ∈ entries .start calls) :
    ∃ i ∈ l.running, l.registry.serialAt i = some p := by
  rw [underway.starts, List.mem_filterMap] at began
  exact began

theorem stateAt_push (l : Lifecycle) (plugin : Plugin) {i : Nat}
    (inside : i < l.registry.slots.length) :
    stateAt { l with registry := l.registry.push plugin } i = l.stateAt i := by
  simp only [stateAt, Registry.slots_push_of_lt l.registry plugin inside]

theorem Underway.push (underway : l.Underway calls) (sound : l.Sound) (plugin : Plugin)
    (free : l.registry.indexOf plugin.name = none) :
    Underway { l with registry := l.registry.push plugin } calls := by
  have old : ∀ i s, (l.registry.push plugin).serialAt i = some s → i < l.registry.slots.length →
      l.registry.serialAt i = some s := by
    intro i s is inside
    rwa [Registry.serialAt_push_of_lt _ _ inside] at is
  have listed : ∀ i ∈ l.running, (l.registry.push plugin).serialAt i = l.registry.serialAt i :=
    fun i member => Registry.serialAt_push_of_lt _ _ (sound.lt_length (sound.running.subset member))
  exact
    { numbered := underway.numbered.push plugin
      plugins := by
        intro c member
        obtain ⟨i, is⟩ := underway.plugins c member
        exact ⟨i, (Registry.serialAt_push_of_lt _ _ (Registry.lt_of_serialAt is)).trans is⟩
      untouched := by
        intro i fresh c member is
        rcases Registry.serialAt_push _ _ is with before | ⟨_, same⟩
        · rw [stateAt_push _ _ (Registry.lt_of_serialAt before)] at fresh
          exact underway.untouched i fresh c member before
        · obtain ⟨j, js⟩ := underway.plugins c member
          have below := underway.numbered.issued j _ js
          omega
      setUpOnce := underway.setUpOnce
      setUp := fun i member s is => underway.setUp i member s (old i s is (sound.lt_length member))
      listed := by
        intro i s is member
        rcases Registry.serialAt_push _ _ is with before | ⟨_, same⟩
        · exact underway.listed i s before member
        · obtain ⟨j, js⟩ := underway.plugins _ member
          have below : s < l.registry.issued := underway.numbered.issued j _ js
          omega
      starts := by
        rw [underway.starts]
        exact List.filterMap_congr fun i member => (listed i member).symm
      rises := underway.rises
      startAfterSetUp := underway.startAfterSetUp
      startAfterNeeds := by
        intro i d p q edge is ds
        by_cases began : p ∈ entries .start calls
        · -- a plugin that runs has all it needs, so no edge of it is new
          obtain ⟨j, runs, js⟩ := underway.runs began
          have insideJ := Registry.lt_of_serialAt js
          rw [← Registry.serialAt_push_of_lt l.registry plugin insideJ] at js
          have same := (underway.numbered.push plugin).distinct i j p is js
          subst same
          have prior : l.registry.Needs i d := edge.of_resolved (.push free) insideJ
            (sound.ordered.resolved (sound.running.subset runs))
          exact underway.startAfterNeeds i d p q prior (old i p is insideJ)
            (old d q ds (prior.lt sound.indexed))
        · exact .of_not_mem (mt mem_entries.2 began) }

theorem Complete.push (complete : l.Complete calls) (sound : l.Sound) (plugin : Plugin) :
    Complete { l with registry := l.registry.push plugin } calls := by
  intro i member s is
  have inside := sound.lt_length (sound.running.subset member)
  apply complete i member s
  rwa [Registry.serialAt_push_of_lt _ _ inside] at is

/-- Calls to set up or to reload do not count among those to start. -/
theorem startAfter_append {first : Call} {p : Nat}
    (precedes : Precedes first (.entered p .start) calls)
    (others : entries .start later = []) : Precedes first (.entered p .start) (calls ++ later) := by
  apply precedes.extend
  intro member
  have none := mem_entries.2 member
  rw [others] at none
  cases none

theorem Underway.setsUp {visit : Visit} (underway : l.Underway calls)
    (setsUp : SetsUp visit l later result after) : after.Underway (calls ++ later) := by
  have advances := setsUp.advances
  have serials := funext (Registry.serialAt_congr advances.members)
  have noStart : entries .start later = [] :=
    entries_of_hook (fun c member => (setsUp.called member).1) (by decide)
  exact
    { numbered := underway.numbered.congr advances.members advances.issued
      plugins := by
        intro c member
        rw [serials]
        rcases List.mem_append.1 member with old | new
        · exact underway.plugins c old
        · obtain ⟨_, i, is, _⟩ := setsUp.called new
          exact ⟨i, is⟩
      untouched := by
        intro i fresh c member is
        rw [serials] at is
        rcases List.mem_append.1 member with old | new
        · exact underway.untouched i (advances.of_registered fresh) c old is
        · obtain ⟨_, j, js, _, left⟩ := setsUp.called new
          exact left (underway.numbered.distinct i j _ is js ▸ fresh)
      setUpOnce := by
        rw [entries_append, List.nodup_append]
        refine ⟨underway.setUpOnce, setsUp.once underway.numbered, ?_⟩
        rintro p old q new rfl
        obtain ⟨_, i, is, fresh, _⟩ := setsUp.called (mem_entries.1 new)
        exact underway.untouched i fresh _ (mem_entries.1 old) is
      setUp := by
        intro i member s is
        rw [serials] at is
        rcases setsUp.left is member with old | new
        · exact List.mem_append_left _ (underway.setUp i old s is)
        · exact List.mem_append_right _ new
      listed := by
        intro i s is member
        rw [serials] at is
        rcases List.mem_append.1 member with old | new
        · exact advances.order.subset (underway.listed i s is old)
        · exact setsUp.listed underway.numbered is new
      starts := by
        rw [entries_append, noStart, List.append_nil, advances.running, serials]
        exact underway.starts
      rises := by
        intro c member
        rcases List.mem_append.1 member with old | new
        · exact underway.rises c old
        · rw [(setsUp.called new).1]
          decide
      startAfterSetUp := fun p => startAfter_append (underway.startAfterSetUp p) noStart
      startAfterNeeds := by
        intro i d p q edge is ds
        rw [serials] at is ds
        exact startAfter_append (underway.startAfterNeeds i d p q
          ((Registry.needs_congr advances.roster).1 edge) is ds) noStart }

theorem Complete.advances (complete : l.Complete calls) (advances : l.Advances after)
    (later : List Call) : after.Complete (calls ++ later) := by
  intro i member s is
  rw [advances.running] at member
  rw [Registry.serialAt_congr advances.members] at is
  exact List.mem_append_left _ (complete i member s is)

theorem Underway.reloads {indices : List Nat} (underway : l.Underway calls)
    (reloads : l.Reloads indices later) : l.Underway (calls ++ later) := by
  have none : ∀ hook, hook ≠ .reload → entries hook later = [] := fun hook other =>
    entries_of_hook (fun c member => (reloads.called member).1) other.symm
  exact
    { underway with
      plugins := by
        intro c member
        rcases List.mem_append.1 member with old | new
        · exact underway.plugins c old
        · obtain ⟨_, i, is, _⟩ := reloads.called new
          exact ⟨i, is⟩
      untouched := by
        intro i fresh c member is
        rcases List.mem_append.1 member with old | new
        · exact underway.untouched i fresh c old is
        · obtain ⟨_, j, js, begun⟩ := reloads.called new
          exact begun (underway.numbered.distinct i j _ is js ▸ fresh)
      setUpOnce := by
        rw [entries_append, none .setUp (by decide), List.append_nil]
        exact underway.setUpOnce
      setUp := fun i member s is => List.mem_append_left _ (underway.setUp i member s is)
      listed := by
        intro i s is member
        rcases List.mem_append.1 member with old | new
        · exact underway.listed i s is old
        · cases (reloads.called new).1
      starts := by
        rw [entries_append, none .start (by decide), List.append_nil]
        exact underway.starts
      rises := by
        intro c member
        rcases List.mem_append.1 member with old | new
        · exact underway.rises c old
        · rw [(reloads.called new).1]
          decide
      startAfterSetUp := fun p =>
        startAfter_append (underway.startAfterSetUp p) (none .start (by decide))
      startAfterNeeds := fun i d p q edge is ds =>
        startAfter_append (underway.startAfterNeeds i d p q edge is ds) (none .start (by decide)) }

/-- A plugin that begins to start was set up, and what it needs has been started. -/
theorem Underway.launch {index : Nat} {rest : List Nat} {slot : Slot}
    (underway : l.Underway calls) (complete : l.Complete calls) (sound : l.Sound)
    (waits : l.initialized = l.running ++ index :: rest)
    (found : l.registry.slots[index]? = some slot) (ok : Bool) :
    (l.launch index).Underway (calls ++ slot.called .start ok) := by
  have members : (l.launch index).registry.members = l.registry.members :=
    Registry.members_setState _ _ _
  have serials := funext (Registry.serialAt_congr members)
  have serial := Registry.serialAt_of_slot found
  have listed : index ∈ l.initialized := by
    rw [waits]
    exact List.mem_append_cons_self
  have own : ∀ {p}, .entered p .start ∈ slot.called .start ok → p = slot.serial :=
    fun member => (mem_called member).2
  exact
    { numbered := underway.numbered.congr members rfl
      plugins := by
        intro c member
        rw [serials]
        rcases List.mem_append.1 member with old | new
        · exact underway.plugins c old
        · exact ⟨index, (mem_called new).2 ▸ serial⟩
      untouched := by
        intro i fresh c member is
        rw [serials] at is
        rw [stateAt_launch] at fresh
        split at fresh
        · obtain ⟨_, _, same⟩ := Option.map_eq_some_iff.1 fresh
          cases same
        · rename_i other
          rcases List.mem_append.1 member with old | new
          · exact underway.untouched i fresh c old is
          · exact other (underway.numbered.distinct index i _ ((mem_called new).2 ▸ serial) is)
      setUpOnce := by
        rw [entries_append, entries_called, if_neg (by decide), List.append_nil]
        exact underway.setUpOnce
      setUp := by
        intro i member s is
        rw [serials] at is
        exact List.mem_append_left _ (underway.setUp i member s is)
      listed := by
        intro i s is member
        rw [serials] at is
        rcases List.mem_append.1 member with old | new
        · exact underway.listed i s is old
        · cases (mem_called new).1
      starts := by
        rw [entries_append, entries_called, if_pos rfl, serials, underway.starts]
        show _ = (l.running ++ [index]).filterMap l.registry.serialAt
        rw [List.filterMap_append, List.filterMap_cons_some serial, List.filterMap_nil]
      rises := by
        intro c member
        rcases List.mem_append.1 member with old | new
        · exact underway.rises c old
        · rw [(mem_called new).1]
          decide
      startAfterSetUp := fun p => (underway.startAfterSetUp p).extend fun member =>
        own member ▸ underway.setUp index listed _ serial
      startAfterNeeds := by
        intro i d p q edge is ds
        rw [serials] at is ds
        have prior := (Registry.needs_congr (Registry.roster_setState _ _ _)).1 edge
        apply (underway.startAfterNeeds i d p q prior is ds).extend
        intro member
        have same : i = index := underway.numbered.distinct i index p is (own member ▸ serial)
        exact complete d (sound.ordered.earlier waits (same ▸ prior)) q ds }

theorem Complete.launch {index : Nat} {slot : Slot} (complete : l.Complete calls)
    (found : l.registry.slots[index]? = some slot) :
    (l.launch index).Complete (calls ++ slot.called .start true) := by
  have members : (l.launch index).registry.members = l.registry.members :=
    Registry.members_setState _ _ _
  intro i member s is
  rw [Registry.serialAt_congr members] at is
  rcases List.mem_append.1 member with old | new
  · exact List.mem_append_left _ (complete i old s is)
  · rw [List.mem_singleton] at new
    subst new
    rw [Registry.serialAt_of_slot found, Option.some.injEq] at is
    subst is
    exact List.mem_append_right _ (List.mem_cons_of_mem _ List.mem_cons_self)

theorem Underway.starting {waiting : List Nat} (underway : l.Underway calls)
    (complete : l.Complete calls) (sound : l.Sound) (waits : l.initialized = l.running ++ waiting)
    (starts : Starts waiting l later result after) :
    after.Underway (calls ++ later) ∧ (result = .ok () → after.Complete (calls ++ later)) := by
  induction starts generalizing calls with
  | nil =>
    rw [List.append_nil]
    exact ⟨underway, fun _ => complete⟩
  | failed found => exact ⟨underway.launch complete sound waits found false, nofun⟩
  | cons found _ ih =>
    rw [← List.append_assoc]
    apply ih (underway.launch complete sound waits found true) (complete.launch found)
      (sound.launch waits)
    rw [Lifecycle.launch, List.append_assoc, List.singleton_append]
    exact waits

/-- Plugins that need each other are both registered, and the one leads to the other, or both are
gone. -/
def Honours (needs : Nat → Nat → Prop) (r : Registry) : Prop :=
  ∀ p q, needs p q → p < r.issued ∧ q < r.issued ∧
    ((∃ i d, r.serialAt i = some p ∧ r.serialAt d = some q ∧ r.Needs i d) ∨
      ∀ i, r.serialAt i ≠ some p ∧ r.serialAt i ≠ some q)

/-- The calls of a life, with those of its tear-down. -/
theorem Underway.close {needs : Nat → Nat → Prop} (underway : l.Underway calls) (sound : l.Sound)
    (honours : Honours needs l.registry)
    (stops : Stops l.registry l.running.reverse later result) :
    Discipline needs (calls ++ later) := by
  have falls : ∀ c ∈ later, c.hook = .stop := fun c member => (stops.called member).1
  have none : ∀ hook, hook ≠ .stop → entries hook later = [] := fun hook other =>
    entries_of_hook falls other.symm
  have noStop : entries .stop calls = [] := by
    rw [List.eq_nil_iff_forall_not_mem]
    exact fun p member => underway.rises _ (mem_entries.1 member) rfl
  have reversed : entries .stop later = (entries .start calls).reverse := by
    rw [stops.entries, underway.starts, List.filterMap_reverse]
  have nodupRunning := sound.running.sublist.nodup sound.ordered.nodup
  have startOnce : (entries .start calls).Nodup := by
    rw [underway.starts]
    exact nodupRunning.filterMap fun i j s is js =>
      underway.numbered.distinct i j s (Option.mem_def.1 is) (Option.mem_def.1 js)
  exact
    { setUpOnce := by
        rw [entries_append, none .setUp (by decide), List.append_nil]
        exact underway.setUpOnce
      startOnce := by
        rw [entries_append, none .start (by decide), List.append_nil]
        exact startOnce
      stopOnce := by
        rw [entries_append, noStop, List.nil_append, reversed]
        exact List.nodup_reverse.2 startOnce
      startAfterSetUp := fun p =>
        startAfter_append (underway.startAfterSetUp p) (none .start (by decide))
      startAfterNeeds := by
        intro p q need
        have earlier : Precedes (.left q .start true) (.entered p .start) calls := by
          by_cases began : p ∈ entries .start calls
          · obtain ⟨j, _, js⟩ := underway.runs began
            rcases (honours p q need).2.2 with ⟨i, d, is, ds, edge⟩ | gone
            · exact underway.startAfterNeeds i d p q edge is ds
            · exact absurd js (gone j).1
          · exact .of_not_mem (mt mem_entries.2 began)
        exact startAfter_append earlier (none .start (by decide))
      stopsStarted := by
        intro p
        rw [entries_append, entries_append, noStop, List.nil_append, reversed,
          none .start (by decide), List.append_nil, List.mem_reverse]
      lives := .snoc .nil underway.rises falls reversed
      dependentsFirst := by
        intro p q need began before after split
        rw [entries_append, none .start (by decide), List.append_nil] at began
        obtain ⟨j, runs, js⟩ := underway.runs began
        rcases append_split split with ⟨more, rfl, point⟩ | ⟨more, same, _⟩
        · rcases (honours p q need).2.2 with ⟨i, d, is, ds, edge⟩ | gone
          · have same := underway.numbered.distinct i j p is js
            subst same
            -- what a plugin needs starts earlier, so its turn to stop comes later
            obtain ⟨pre, post, running⟩ := List.append_of_mem runs
            obtain ⟨waiting, prefixed⟩ := sound.running
            have earlier : d ∈ pre := sound.ordered.earlier
              (by rw [← prefixed, running, List.append_assoc, List.cons_append]) edge
            obtain ⟨first, last, inside⟩ := List.append_of_mem earlier
            have turns : l.running.reverse = (post.reverse ++ i :: last.reverse) ++
                d :: first.reverse := by
              rw [running, inside]
              simp
            obtain ⟨ok, ended⟩ := stops.earlier underway.numbered
              (List.nodup_reverse.2 nodupRunning) turns
              (List.mem_append_cons_self) is ds point
            exact ⟨ok, List.mem_append_right _ ended⟩
          · exact absurd js (gone j).1
        · have stopped : .entered q .stop ∈ calls := by
            rw [same]
            exact List.mem_append_cons_self
          exact absurd rfl (underway.rises _ stopped) }

end Lifecycle

end PluginHost
