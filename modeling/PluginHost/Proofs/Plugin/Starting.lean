import PluginHost.Proofs.Plugin.Orders

set_option autoImplicit false

namespace PluginHost

namespace Lifecycle

def launch (l : Lifecycle) (index : Nat) : Lifecycle :=
  { l.setState index .started with running := l.running ++ [index] }

/-- Plugins that start one after the other, until one fails. -/
inductive Starts : List Nat → Lifecycle → List Call → Except Failure Unit → Lifecycle → Prop
  | nil {l : Lifecycle} : Starts [] l [] (.ok ()) l
  | failed {l : Lifecycle} {index : Nat} {rest : List Nat} {slot : Slot} {e : Failure}
      (found : l.registry.slots[index]? = some slot) :
      Starts (index :: rest) l (slot.called .start false) (.error e) (l.launch index)
  | cons {l after : Lifecycle} {index : Nat} {rest : List Nat} {slot : Slot} {calls : List Call}
      {result : Except Failure Unit} (found : l.registry.slots[index]? = some slot)
      (others : Starts rest (l.launch index) calls result after) :
      Starts (index :: rest) l (slot.called .start true ++ calls) result after

variable {l : Lifecycle} {index : Nat} {rest : List Nat}

theorem stateAt_launch (l : Lifecycle) (index i : Nat) :
    (l.launch index).stateAt i =
      if index = i then (l.stateAt i).map fun _ => .started else l.stateAt i :=
  stateAt_setState l index i .started

/-- The plugin whose turn it is to start. -/
theorem Sound.stateAt_next (sound : l.Sound) (waits : l.initialized = l.running ++ index :: rest) :
    l.stateAt index = some .initialized := by
  have member : index ∈ l.initialized := by
    rw [waits]
    exact List.mem_append_cons_self
  rcases sound.begun index member with is | is
  · exact is
  · have nodup := sound.ordered.nodup
    rw [waits, List.nodup_append] at nodup
    exact absurd rfl (nodup.2.2 index ((sound.started index).1 is) index List.mem_cons_self)

theorem Sound.launch (sound : l.Sound) (waits : l.initialized = l.running ++ index :: rest) :
    (l.launch index).Sound where
  steady := sound.steady.congr (Registry.members_setState _ _ _)
  indexed := sound.indexed.congr (Registry.roster_setState _ _ _)
  ordered := sound.ordered.congr (Registry.roster_setState _ _ _)
  running := by
    refine ⟨rest, ?_⟩
    show l.running ++ [index] ++ rest = l.initialized
    rw [waits, List.append_assoc, List.singleton_append]
  started := by
    intro i
    rw [stateAt_launch]
    show _ ↔ i ∈ l.running ++ [index]
    rw [List.mem_append, List.mem_singleton]
    split
    · rename_i same
      subst same
      rw [sound.stateAt_next waits]
      exact ⟨fun _ => .inr rfl, fun _ => rfl⟩
    · rename_i other
      rw [sound.started i]
      exact ⟨.inl, fun member => member.resolve_right fun same => other same.symm⟩
  begun := by
    intro i member
    rw [stateAt_launch]
    split
    · rename_i same
      subst same
      rw [sound.stateAt_next waits]
      exact .inr rfl
    · exact sound.begun i member
  unstopped := by
    intro i
    rw [stateAt_launch]
    split
    · rename_i same
      subst same
      rw [sound.stateAt_next waits]
      exact nofun
    · exact sound.unstopped i

/-- The order of starting grows along the order of setting up. -/
theorem Starts.sound {waiting : List Nat} {calls : List Call} {result : Except Failure Unit}
    {after : Lifecycle} (starts : Starts waiting l calls result after) (sound : l.Sound)
    (waits : l.initialized = l.running ++ waiting) : after.Sound := by
  induction starts with
  | nil => exact sound
  | failed _ => exact sound.launch waits
  | cons _ _ ih =>
    apply ih (sound.launch waits)
    rw [Lifecycle.launch, List.append_assoc, List.singleton_append]
    exact waits

/-- Starting that succeeds comes to the end of the order. -/
theorem Starts.through {waiting : List Nat} {calls : List Call} {result : Except Failure Unit}
    {after : Lifecycle} (starts : Starts waiting l calls result after) (ok : result = .ok ()) :
    after.initialized = l.initialized ∧ after.running = l.running ++ waiting := by
  induction starts with
  | nil => exact ⟨rfl, (List.append_nil _).symm⟩
  | failed _ => cases ok
  | cons _ _ ih =>
    obtain ⟨order, running⟩ := ih ok
    refine ⟨order, ?_⟩
    rw [running, Lifecycle.launch, List.append_assoc, List.singleton_append]

/-- Starting fails only if the call of a plugin does. -/
theorem Starts.left_of_error {waiting : List Nat} {calls : List Call}
    {result : Except Failure Unit} {after : Lifecycle}
    (starts : Starts waiting l calls result after) {e : Failure} (failed : result = .error e) :
    ∃ p, .left p .start false ∈ calls := by
  induction starts with
  | nil => cases failed
  | failed _ => exact ⟨_, List.mem_cons_of_mem _ List.mem_cons_self⟩
  | cons _ _ ih =>
    obtain ⟨p, member⟩ := ih failed
    exact ⟨p, List.mem_append_right _ member⟩

end Lifecycle

namespace Ensemble

variable {dispatch : Dispatch}

theorem forEach_cons_of_idle {act : Nat → Act Ensemble (Except Failure Unit)} {index : Nat}
    {rest : List Nat} {e : Ensemble} (idle : act index e = (.returned (.ok ()), e)) :
    forEach act (index :: rest) e = forEach act rest e := by
  simp only [forEach, Act.bind_apply, idle]

theorem forEach_of_idle {act : Nat → Act Ensemble (Except Failure Unit)} {indices : List Nat}
    (rest : List Nat) {e : Ensemble}
    (idle : ∀ index ∈ indices, act index e = (.returned (.ok ()), e)) :
    forEach act (indices ++ rest) e = forEach act rest e := by
  induction indices with
  | nil => rfl
  | cons index others ih =>
    rw [List.cons_append, forEach_cons_of_idle (idle index List.mem_cons_self)]
    exact ih fun i member => idle i (List.mem_cons_of_mem _ member)

theorem startAt_of_started {depth index : Nat} {e : Ensemble}
    (started : e.lifecycle.stateAt index = some .started) :
    startAt dispatch (depth + 1) index e = (.returned (.ok ()), e) := by
  obtain ⟨slot, found, state⟩ := Option.map_eq_some_iff.1 started
  simp only [startAt, Act.bind_apply, Act.look_apply, found, state]
  rfl

/-- All that the plugin whose turn it is depends on has been started. -/
theorem startAt_next (dispatch : Dispatch) (depth : Nat) {index : Nat} {rest : List Nat}
    {e : Ensemble} {slot : Slot}
    (sound : e.lifecycle.Sound)
    (waits : e.lifecycle.initialized = e.lifecycle.running ++ index :: rest)
    (found : e.lifecycle.registry.slots[index]? = some slot) :
    startAt dispatch (depth + 2) index e = callStart dispatch slot index
      { e with lifecycle := e.lifecycle.setState index .started } := by
  have state := sound.stateAt_next waits
  rw [Lifecycle.stateAt_of_slot found, Option.some.injEq] at state
  have same : (e.lifecycle.setState index .started).registry.dependencies e.host index =
      e.lifecycle.registry.dependencies e.host index :=
    Registry.dependencies_congr (Registry.roster_setState _ _ _) _ _
  cases resolved : e.lifecycle.registry.dependencies e.host index with
  | error failure =>
    have listed : index ∈ e.lifecycle.initialized := by
      rw [waits]
      exact List.mem_append_cons_self
    exact absurd (sound.ordered.resolved listed) (Registry.dependencies_error resolved)
  | ok needed =>
    have idle : forEach (startAt dispatch (depth + 1)) needed
        { e with lifecycle := e.lifecycle.setState index .started } =
        (.returned (.ok ()), { e with lifecycle := e.lifecycle.setState index .started }) := by
      rw [← List.append_nil needed]
      apply forEach_of_idle []
      intro d member
      apply startAt_of_started
      have runs : d ∈ e.lifecycle.running := sound.ordered.earlier waits
        (((Registry.dependencies_ok sound.steady resolved).2 d).2 member)
      have started := (sound.started d).2 runs
      show (e.lifecycle.setState index .started).stateAt d = some .started
      rw [Lifecycle.stateAt_setState, started]
      split <;> rfl
    rw [startAt]
    simp only [Act.bind_apply, Act.look_apply, found, state, if_true, changeLifecycle,
      Act.modify_apply, same, resolved, idle]

/-- What a call to start does to the lifecycle. -/
theorem callStart_cases (dispatch : Dispatch) (slot : Slot) (index : Nat) (e : Ensemble) :
    (callStart dispatch slot index e).1 = .stalled ∨ ∃ succeeded result h,
      callStart dispatch slot index e = (.returned result,
        { lifecycle := { e.lifecycle with running := e.lifecycle.running ++ [index] }, host := h
          calls := e.calls ++ slot.called .start succeeded }) ∧ result.toBool = succeeded := by
  unfold callStart
  simp only [Act.bind_apply, changeLifecycle, tell, onHost, Act.within, Act.modify_apply]
  generalize e.host.tell _ _ _ _ = h
  rcases invoke_cases dispatch slot .start slot.plugin.start
    { e with
      lifecycle := { e.lifecycle with running := e.lifecycle.running ++ [index] }, host := h } with
    ⟨result, k, returned⟩ | ⟨stalled, _⟩
  · rw [returned]
    right
    cases result with
    | error failure => exact ⟨false, .error failure, _, rfl, rfl⟩
    | ok value => exact ⟨true, .ok (), k, rfl, rfl⟩
  · exact .inl (Act.bind_stalled stalled _).1

theorem forEach_starts (dispatch : Dispatch) (depth : Nat) (waiting : List Nat) (e : Ensemble)
    (sound : e.lifecycle.Sound)
    (waits : e.lifecycle.initialized = e.lifecycle.running ++ waiting) :
    (forEach (startAt dispatch (depth + 2)) waiting e).1 = .stalled ∨ ∃ result calls,
      (forEach (startAt dispatch (depth + 2)) waiting e).1 = .returned result ∧
      (forEach (startAt dispatch (depth + 2)) waiting e).2.calls = e.calls ++ calls ∧
      Lifecycle.Starts waiting e.lifecycle calls result
        (forEach (startAt dispatch (depth + 2)) waiting e).2.lifecycle := by
  induction waiting generalizing e with
  | nil => exact .inr ⟨.ok (), [], rfl, (List.append_nil _).symm, .nil⟩
  | cons index rest ih =>
    have inside : index < e.lifecycle.registry.slots.length := by
      apply sound.lt_length
      rw [waits]
      exact List.mem_append_cons_self
    have found := List.getElem?_eq_getElem inside
    have next := startAt_next dispatch depth sound waits found
    have launched := sound.launch waits
    have others : (e.lifecycle.launch index).initialized =
        (e.lifecycle.launch index).running ++ rest := by
      show e.lifecycle.initialized = e.lifecycle.running ++ [index] ++ rest
      rw [waits, List.append_assoc, List.singleton_append]
    simp only [forEach, Act.bind_apply, next]
    rcases callStart_cases dispatch e.lifecycle.registry.slots[index] index
      { e with lifecycle := e.lifecycle.setState index .started } with
      stalled | ⟨succeeded, result, h, called, outcome⟩
    · exact .inl (Act.bind_stalled stalled _).1
    · rw [called]
      cases result with
      | error failure =>
        cases outcome
        exact .inr ⟨.error failure, _, rfl, rfl, .failed found⟩
      | ok _ =>
        cases outcome
        rcases ih { lifecycle := e.lifecycle.launch index, host := h
                    calls := e.calls ++ e.lifecycle.registry.slots[index].called .start true }
          launched others with
          stalled | ⟨result, calls, returned, recorded, starts⟩
        · exact .inl stalled
        · refine .inr ⟨result, _, returned, ?_, .cons found starts⟩
          rw [← List.append_assoc]
          exact recorded

/-- Starting starts what is set up and does not run yet, in that order. -/
theorem start_starts (dispatch : Dispatch) (e : Ensemble) (sound : e.lifecycle.Sound) :
    (start dispatch e).1 = .stalled ∨ ∃ waiting result calls,
      e.lifecycle.initialized = e.lifecycle.running ++ waiting ∧
      (start dispatch e).1 = .returned result ∧ (start dispatch e).2.calls = e.calls ++ calls ∧
      Lifecycle.Starts waiting e.lifecycle calls result (start dispatch e).2.lifecycle := by
  obtain ⟨waiting, split⟩ := sound.running
  have begins : start dispatch e = forEach (startAt dispatch e.depth) waiting e := by
    show forEach (startAt dispatch e.depth) e.lifecycle.initialized e = _
    rw [← split]
    apply forEach_of_idle waiting
    intro index member
    exact startAt_of_started ((sound.started index).2 member)
  rw [begins]
  cases waiting with
  | nil => exact .inr ⟨[], .ok (), [], split.symm, rfl, (List.append_nil _).symm, .nil⟩
  | cons index rest =>
    have listed : index ∈ e.lifecycle.initialized := by
      rw [← split]
      exact List.mem_append_cons_self
    have inside := sound.lt_length listed
    obtain ⟨depth, deep⟩ : ∃ depth, e.depth = depth + 2 := by
      refine ⟨e.lifecycle.registry.slots.length - 1, ?_⟩
      unfold Ensemble.depth
      omega
    rw [deep]
    rcases forEach_starts dispatch depth (index :: rest) e sound split.symm with
      stalled | ⟨result, calls, returned, recorded, starts⟩
    · exact .inl stalled
    · exact .inr ⟨_, result, calls, split.symm, returned, recorded, starts⟩

end Ensemble

end PluginHost
