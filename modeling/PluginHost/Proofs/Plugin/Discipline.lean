import PluginHost.Proofs.Plugin.Histories
import PluginHost.Proofs.Plugin.Underway

set_option autoImplicit false

namespace PluginHost

open Lifecycle (Honours Stops)

/-- The plugin of one number depends on the plugin of another one. -/
def Registry.Serves (r : Registry) (p q : Nat) : Prop :=
  ∃ i d, r.serialAt i = some p ∧ r.serialAt d = some q ∧ r.Needs i d

namespace Ensemble

/-- A record that is the one of the lives that are over and of the life in progress. -/
structure Recorded (needs : Nat → Nat → Prop) (e : Ensemble) (past current : List Call) : Prop where
  sound : e.lifecycle.Sound
  calls : e.calls = past ++ current
  before : Discipline needs past
  gone : ∀ c ∈ past, c.plugin < e.lifecycle.registry.issued ∧
    ∀ i, e.lifecycle.registry.serialAt i ≠ some c.plugin
  underway : e.lifecycle.Underway current
  honours : Honours needs e.lifecycle.registry

/-- A state of plugins that fits the record of their calls. -/
def Risen (needs : Nat → Nat → Prop) (e : Ensemble) : Prop :=
  ∃ past current, Recorded needs e past current

/-- The same, where every plugin that runs got through starting. -/
def Orderly (needs : Nat → Nat → Prop) (e : Ensemble) : Prop :=
  ∃ past current, Recorded needs e past current ∧ e.lifecycle.Complete current

variable {needs : Nat → Nat → Prop} {e after : Ensemble} {past current later : List Call}
  {result : Except Failure Unit}

theorem Orderly.risen (orderly : e.Orderly needs) : e.Risen needs := by
  obtain ⟨past, current, recorded, _⟩ := orderly
  exact ⟨past, current, recorded⟩

theorem Orderly.sound (orderly : e.Orderly needs) : e.lifecycle.Sound := by
  obtain ⟨_, _, recorded, _⟩ := orderly
  exact recorded.sound

theorem Orderly.fresh (needs : Nat → Nat → Prop) (none : ∀ p q, ¬ needs p q) (h : Host) :
    Orderly needs { host := h } :=
  ⟨[], [], ⟨.empty 0, rfl, .nil needs, fun _ none => absurd none List.not_mem_nil, .empty 0,
    fun p q need => absurd need (none p q)⟩, .empty 0⟩

theorem Risen.congr (risen : e.Risen needs) (lifecycle : after.lifecycle = e.lifecycle)
    (calls : after.calls = e.calls) : after.Risen needs := by
  obtain ⟨past, current, sound, recorded, before, gone, underway, honours⟩ := risen
  refine ⟨past, current, ?_, calls.trans recorded, before, ?_, ?_, ?_⟩ <;> rwa [lifecycle]

theorem Orderly.congr (orderly : e.Orderly needs) (lifecycle : after.lifecycle = e.lifecycle)
    (calls : after.calls = e.calls) : after.Orderly needs := by
  obtain ⟨past, current, ⟨sound, recorded, before, gone, underway, honours⟩, complete⟩ := orderly
  refine ⟨past, current, ⟨?_, calls.trans recorded, before, ?_, ?_, ?_⟩, ?_⟩ <;> rwa [lifecycle]

theorem Recorded.push (recorded : Recorded needs e past current) {plugin : Plugin}
    (fixed : plugin.Steady) (free : e.lifecycle.registry.indexOf plugin.name = none) (h : Host) :
    Recorded needs { e with
      lifecycle := { e.lifecycle with registry := e.lifecycle.registry.push plugin }, host := h }
      past current where
  sound := recorded.sound.push fixed free
  calls := recorded.calls
  before := recorded.before
  gone := by
    intro c member
    obtain ⟨issued, absent⟩ := recorded.gone c member
    constructor
    · show c.plugin < e.lifecycle.registry.issued + 1
      omega
    · intro i is
      rcases Registry.serialAt_push _ _ is with old | ⟨_, same⟩
      · exact absent i old
      · omega
  underway := recorded.underway.push recorded.sound plugin free
  honours := by
    intro p q need
    obtain ⟨issuedP, issuedQ, both⟩ := recorded.honours p q need
    show p < e.lifecycle.registry.issued + 1 ∧ q < e.lifecycle.registry.issued + 1 ∧ _
    refine ⟨by omega, by omega, ?_⟩
    rcases both with ⟨i, d, is, ds, edge⟩ | absent
    · left
      refine ⟨i, d, ?_, ?_, edge.of_extends (.push free)⟩
      · exact (Registry.serialAt_push_of_lt _ _ (Registry.lt_of_serialAt is)).trans is
      · exact (Registry.serialAt_push_of_lt _ _ (Registry.lt_of_serialAt ds)).trans ds
    · right
      intro i
      constructor
      · intro is
        rcases Registry.serialAt_push _ _ is with old | ⟨_, same⟩
        · exact (absent i).1 old
        · omega
      · intro is
        rcases Registry.serialAt_push _ _ is with old | ⟨_, same⟩
        · exact (absent i).2 old
        · omega

theorem Orderly.grow (orderly : e.Orderly needs) {r : Registry}
    (grows : e.lifecycle.registry.Grows r) (h : Host) :
    Orderly needs { e with lifecycle := { e.lifecycle with registry := r }, host := h } := by
  induction grows with
  | refl => exact orderly.congr rfl rfl
  | tail _ step ih =>
    obtain ⟨plugin, fixed, free, rfl⟩ := step
    obtain ⟨past, current, recorded, complete⟩ := ih
    exact ⟨past, current, recorded.push fixed free h, complete.push recorded.sound plugin⟩

/-- A life goes on with the same plugins. -/
theorem Recorded.go (recorded : Recorded needs e past current)
    (sound : after.lifecycle.Sound) (calls : after.calls = e.calls ++ later)
    (roster : after.lifecycle.registry.roster = e.lifecycle.registry.roster)
    (issued : after.lifecycle.registry.issued = e.lifecycle.registry.issued)
    (underway : after.lifecycle.Underway (current ++ later)) :
    Recorded needs after past (current ++ later) where
  sound := sound
  calls := by rw [calls, recorded.calls, List.append_assoc]
  before := recorded.before
  gone := by
    simp only [issued, Registry.serialAt_congr (Registry.members_of_roster roster)]
    exact recorded.gone
  underway := underway
  honours := by
    simp only [Honours, issued, Registry.serialAt_congr (Registry.members_of_roster roster),
      Registry.needs_congr roster]
    exact recorded.honours

theorem Orderly.setsUp (orderly : e.Orderly needs) {visit : Visit}
    (setsUp : Lifecycle.SetsUp visit e.lifecycle later result after.lifecycle)
    (calls : after.calls = e.calls ++ later) : after.Orderly needs := by
  obtain ⟨past, current, recorded, complete⟩ := orderly
  have advances := setsUp.advances
  exact ⟨past, current ++ later,
    recorded.go (setsUp.sound recorded.sound).1 calls advances.roster advances.issued
      (recorded.underway.setsUp setsUp),
    complete.advances advances later⟩

theorem Orderly.reloads (orderly : e.Orderly needs) {indices : List Nat}
    (reloads : e.lifecycle.Reloads indices later) (lifecycle : after.lifecycle = e.lifecycle)
    (calls : after.calls = e.calls ++ later) : after.Orderly needs := by
  obtain ⟨past, current, recorded, complete⟩ := orderly
  refine ⟨past, current ++ later, ?_, ?_⟩
  · apply recorded.go _ calls (by rw [lifecycle]) (by rw [lifecycle])
    · rw [lifecycle]
      exact recorded.underway.reloads reloads
    · rw [lifecycle]
      exact recorded.sound
  · rw [lifecycle]
    exact complete.advances (.refl _) later

theorem roster_of_starts {waiting : List Nat} {l l' : Lifecycle}
    (starts : l.Starts waiting later result l') :
    l'.registry.roster = l.registry.roster ∧ l'.registry.issued = l.registry.issued := by
  induction starts with
  | nil => exact ⟨rfl, rfl⟩
  | failed _ => exact ⟨Registry.roster_setState _ _ _, rfl⟩
  | cons _ _ ih => exact ⟨ih.1.trans (Registry.roster_setState _ _ _), ih.2⟩

theorem Orderly.starts (orderly : e.Orderly needs) {waiting : List Nat}
    (waits : e.lifecycle.initialized = e.lifecycle.running ++ waiting)
    (starts : e.lifecycle.Starts waiting later result after.lifecycle)
    (calls : after.calls = e.calls ++ later) :
    after.Risen needs ∧ (result = .ok () → after.Orderly needs) := by
  obtain ⟨past, current, recorded, complete⟩ := orderly
  obtain ⟨roster, issued⟩ := roster_of_starts starts
  obtain ⟨underway, completes⟩ :=
    recorded.underway.starting complete recorded.sound waits starts
  have next := recorded.go (starts.sound recorded.sound waits) calls roster issued underway
  exact ⟨⟨past, _, next⟩, fun ok => ⟨past, _, next, completes ok⟩⟩

/-- With the calls of the tear-down the whole record is disciplined. -/
theorem Recorded.close (recorded : Recorded needs e past current)
    (stops : Stops e.lifecycle.registry e.lifecycle.running.reverse later result) :
    Discipline needs (e.calls ++ later) := by
  have life := recorded.underway.close recorded.sound recorded.honours stops
  have present : ∀ c ∈ current ++ later, ∃ i, e.lifecycle.registry.serialAt i = some c.plugin := by
    intro c member
    rcases List.mem_append.1 member with old | new
    · exact recorded.underway.plugins c old
    · exact (stops.called new).2
  rw [recorded.calls, List.append_assoc]
  apply recorded.before.append life
  · intro c old d new same
    obtain ⟨i, is⟩ := present d new
    exact (recorded.gone c old).2 i (same ▸ is)
  · intro p q need c old d new
    obtain ⟨k, ks⟩ := present d new
    have away := (recorded.gone c old).2
    rcases (recorded.honours p q need).2.2 with ⟨i, j, is, js, _⟩ | absent
    · exact ⟨fun ⟨isP, _⟩ => away i (isP ▸ is), fun ⟨isQ, _⟩ => away j (isQ ▸ js)⟩
    · exact ⟨fun ⟨_, isQ⟩ => (absent k).2 (isQ ▸ ks), fun ⟨_, isP⟩ => (absent k).1 (isP ▸ ks)⟩

theorem Risen.stops (risen : e.Risen needs)
    (stops : Stops e.lifecycle.registry e.lifecycle.running.reverse later result)
    (lifecycle : after.lifecycle = { registry := { issued := e.lifecycle.registry.issued } })
    (calls : after.calls = e.calls ++ later) : after.Orderly needs := by
  obtain ⟨past, current, recorded⟩ := risen
  have discipline := recorded.close stops
  refine ⟨e.calls ++ later, [], ⟨?_, ?_, discipline, ?_, ?_, ?_⟩, ?_⟩
  · rw [lifecycle]
    exact .empty _
  · rw [calls, List.append_nil]
  · rw [lifecycle]
    intro c member
    refine ⟨?_, fun i => nofun⟩
    rw [recorded.calls, List.append_assoc] at member
    rcases List.mem_append.1 member with old | new
    · exact (recorded.gone c old).1
    · rcases List.mem_append.1 new with risen | fallen
      · obtain ⟨i, is⟩ := recorded.underway.plugins c risen
        exact recorded.underway.numbered.issued i _ is
      · obtain ⟨_, i, is⟩ := stops.called fallen
        exact recorded.underway.numbered.issued i _ is
  · rw [lifecycle]
    exact .empty _
  · rw [lifecycle]
    intro p q need
    obtain ⟨issuedP, issuedQ, _⟩ := recorded.honours p q need
    exact ⟨issuedP, issuedQ, .inr fun i => ⟨nofun, nofun⟩⟩
  · rw [lifecycle]
    exact .empty _

/-- If nothing runs there is nothing to tear down. -/
theorem Risen.discipline (risen : e.Risen needs) (idle : e.lifecycle.running = []) :
    Discipline needs e.calls := by
  obtain ⟨past, current, recorded⟩ := risen
  have none : Stops e.lifecycle.registry e.lifecycle.running.reverse [] (.ok ()) := by
    rw [idle]
    exact .nil
  have closed := recorded.close none
  rwa [List.append_nil] at closed

/-- Who got through setting up has all that it depends on. -/
theorem Orderly.resolved (orderly : e.Orderly needs) {i p : Nat}
    (is : e.lifecycle.registry.serialAt i = some p) (ended : .left p .setUp true ∈ e.calls) :
    e.lifecycle.registry.Resolved i := by
  obtain ⟨past, current, recorded, _⟩ := orderly
  rw [recorded.calls] at ended
  rcases List.mem_append.1 ended with old | new
  · exact absurd is ((recorded.gone _ old).2 i)
  · exact recorded.sound.ordered.resolved (recorded.underway.listed i p is new)

/-- What plugins need now can be counted in from now on: nothing before was about them. -/
theorem Orderly.serves (orderly : e.Orderly needs) : e.Orderly e.lifecycle.registry.Serves := by
  obtain ⟨past, current, recorded, complete⟩ := orderly
  have absent : ∀ p q, e.lifecycle.registry.Serves p q → p ∉ entries .start past := by
    rintro p q ⟨i, _, is, _⟩ began
    exact (recorded.gone _ (mem_entries.1 began)).2 i is
  refine ⟨past, current, { recorded with before := ?_, honours := ?_ }, complete⟩
  · exact
      { recorded.before with
        startAfterNeeds := fun p q need => .of_not_mem (mt mem_entries.2 (absent p q need))
        dependentsFirst := fun p q need began => absurd began (absent p q need) }
  · rintro p q ⟨i, d, is, ds, edge⟩
    have numbered := recorded.underway.numbered
    exact ⟨numbered.issued i p is, numbered.issued d q ds, .inl ⟨i, d, is, ds, edge⟩⟩

end Ensemble

end PluginHost
