import PluginHost.Proofs.Plugin.Starting
import Mathlib.Data.List.Nodup

set_option autoImplicit false

namespace PluginHost

namespace Lifecycle

/-- Plugins that stop one after the other, whatever comes of it. The first failure counts. -/
inductive Stops : Registry → List Nat → List Call → Except Failure Unit → Prop
  | nil {r : Registry} : Stops r [] [] (.ok ())
  | failed {r : Registry} {index : Nat} {rest : List Nat} {slot : Slot} {calls : List Call}
      {e : Failure} {later : Except Failure Unit} (found : r.slots[index]? = some slot)
      (others : Stops (r.setState index .stopped) rest calls later) :
      Stops r (index :: rest) (slot.called .stop false ++ calls) (.error e)
  | cons {r : Registry} {index : Nat} {rest : List Nat} {slot : Slot} {calls : List Call}
      {later : Except Failure Unit} (found : r.slots[index]? = some slot)
      (others : Stops (r.setState index .stopped) rest calls later) :
      Stops r (index :: rest) (slot.called .stop true ++ calls) later

/-- Plugins that are asked to reload, until somebody asks to quit. -/
inductive Reloads (l : Lifecycle) : List Nat → List Call → Prop
  | nil {indices : List Nat} : Reloads l indices []
  | skip {index : Nat} {rest : List Nat} {calls : List Call}
      (idle : ∀ slot, l.registry.slots[index]? = some slot → slot.state = .registered)
      (others : Reloads l rest calls) : Reloads l (index :: rest) calls
  | cons {index : Nat} {rest : List Nat} {slot : Slot} {calls : List Call} {succeeded : Bool}
      (found : l.registry.slots[index]? = some slot) (later : slot.state ≠ .registered)
      (others : Reloads l rest calls) :
      Reloads l (index :: rest) (slot.called .reload succeeded ++ calls)

end Lifecycle

namespace Ensemble

variable {dispatch : Dispatch}

/-- What stopping a started plugin does to the lifecycle. -/
theorem stopAt_cases (dispatch : Dispatch) {index : Nat} {slot : Slot} {e : Ensemble}
    (found : e.lifecycle.registry.slots[index]? = some slot) (started : slot.state = .started) :
    (stopAt dispatch index e).1 = .stalled ∨ ∃ succeeded result h,
      stopAt dispatch index e = (.returned result,
        { lifecycle := e.lifecycle.setState index .stopped, host := h
          calls := e.calls ++ slot.called .stop succeeded }) ∧ result.toBool = succeeded := by
  unfold stopAt
  simp only [Act.bind_apply, Act.look_apply, found, started, if_true, changeLifecycle, tell, onHost,
    Act.within, Act.modify_apply]
  generalize e.host.tell _ _ _ _ = h
  rcases invoke_cases dispatch slot .stop slot.plugin.stop
    { e with lifecycle := e.lifecycle.setState index .stopped, host := h } with
    ⟨result, k, returned⟩ | ⟨stalled, _⟩
  · rw [returned]
    right
    cases result with
    | error failure => exact ⟨false, .error failure, _, rfl, rfl⟩
    | ok value => exact ⟨true, .ok (), k, rfl, rfl⟩
  · exact .inl (Act.bind_stalled stalled _).1

theorem stopAll_stops (dispatch : Dispatch) (order : List Nat) (e : Ensemble) (nodup : order.Nodup)
    (started : ∀ i ∈ order, e.lifecycle.stateAt i = some .started) :
    (stopAll dispatch order e).1 = .stalled ∨ ∃ result calls,
      (stopAll dispatch order e).1 = .returned result ∧
      (stopAll dispatch order e).2.calls = e.calls ++ calls ∧
      Lifecycle.Stops e.lifecycle.registry order calls result ∧
      (stopAll dispatch order e).2.lifecycle.registry.issued = e.lifecycle.registry.issued ∧
      (stopAll dispatch order e).2.lifecycle.running = e.lifecycle.running := by
  induction order generalizing e with
  | nil => exact .inr ⟨.ok (), [], rfl, (List.append_nil _).symm, .nil, rfl, rfl⟩
  | cons index rest ih =>
    obtain ⟨slot, found, state⟩ := Option.map_eq_some_iff.1 (started index List.mem_cons_self)
    obtain ⟨away, nodupRest⟩ := List.nodup_cons.1 nodup
    rcases stopAt_cases dispatch found state with
      stalled | ⟨succeeded, result, h, stopped, outcome⟩
    · exact .inl (Act.bind_stalled stalled _).1
    · have others : ∀ i ∈ rest,
          (e.lifecycle.setState index .stopped).stateAt i = some .started := by
        intro i member
        rw [Lifecycle.stateAt_setState, if_neg (ne_of_mem_of_not_mem member away).symm]
        exact started i (List.mem_cons_of_mem _ member)
      have first : (stopAt dispatch index e).1 = .returned result := by rw [stopped]
      simp only [stopAll, Act.bind_of_returned first, stopped]
      rcases ih { lifecycle := e.lifecycle.setState index .stopped, host := h
                  calls := e.calls ++ slot.called .stop succeeded } nodupRest others with
        stalled | ⟨later, calls, returned, recorded, stops, issued, running⟩
      · exact .inl (Act.bind_stalled stalled _).1
      · rw [Act.bind_of_returned returned]
        cases result with
        | error failure =>
          cases outcome
          refine .inr ⟨.error failure, _, rfl, ?_, .failed found stops, issued, running⟩
          rw [← List.append_assoc]
          exact recorded
        | ok _ =>
          cases outcome
          refine .inr ⟨later, _, rfl, ?_, .cons found stops, issued, running⟩
          rw [← List.append_assoc]
          exact recorded

/-- Stopping plugins that are started leaves nothing but the count of plugins. -/
theorem stop_stops_of_started (dispatch : Dispatch) (e : Ensemble)
    (once : e.lifecycle.running.Nodup)
    (started : ∀ i ∈ e.lifecycle.running, e.lifecycle.stateAt i = some .started) :
    (stop dispatch e).1 = .stalled ∨ ∃ result calls, (stop dispatch e).1 = .returned result ∧
      (stop dispatch e).2.calls = e.calls ++ calls ∧
      Lifecycle.Stops e.lifecycle.registry e.lifecycle.running.reverse calls result ∧
      (stop dispatch e).2.lifecycle =
        { registry := { slots := [], issued := e.lifecycle.registry.issued } } := by
  have stops := stopAll_stops dispatch e.lifecycle.running.reverse
    { lifecycle := { registry := e.lifecycle.registry, initialized := e.lifecycle.initialized }
      host := e.host
      calls := e.calls } (List.nodup_reverse.2 once)
    fun i member => started i (List.mem_reverse.1 member)
  simp only [stop, Act.bind_apply, Act.look_apply, changeLifecycle, Act.modify_apply]
  generalize stopAll dispatch e.lifecycle.running.reverse _ = x at stops ⊢
  obtain ⟨flow, after⟩ := x
  rcases stops with stalled | ⟨result, calls, returned, recorded, stops, issued, running⟩
  · cases stalled
    exact .inl rfl
  · cases returned
    refine .inr ⟨result, calls, rfl, recorded, stops, ?_⟩
    dsimp only at issued running
    simp only [clearRegistry, Act.modify_apply, Act.pure_apply, Registry.clear, issued, running]

theorem stop_stops (dispatch : Dispatch) (e : Ensemble) (sound : e.lifecycle.Sound) :
    (stop dispatch e).1 = .stalled ∨ ∃ result calls, (stop dispatch e).1 = .returned result ∧
      (stop dispatch e).2.calls = e.calls ++ calls ∧
      Lifecycle.Stops e.lifecycle.registry e.lifecycle.running.reverse calls result ∧
      (stop dispatch e).2.lifecycle =
        { registry := { slots := [], issued := e.lifecycle.registry.issued } } :=
  stop_stops_of_started dispatch e (sound.running.sublist.nodup sound.ordered.nodup)
    fun i member => (sound.started i).2 member

theorem reloadAll_reloads (dispatch : Dispatch) (indices : List Nat) (e : Ensemble) :
    (reloadAll dispatch indices e).1 = .stalled ∨ ∃ calls h,
      reloadAll dispatch indices e =
        (.returned (), { e with host := h, calls := e.calls ++ calls }) ∧
      e.lifecycle.Reloads indices calls := by
  induction indices generalizing e with
  | nil => exact .inr ⟨[], e.host, by rw [List.append_nil]; rfl, .nil⟩
  | cons index rest ih =>
    simp only [reloadAll, Act.bind_apply, Act.get_apply]
    by_cases quitting : e.host.control.quitting
    · rw [if_pos quitting]
      exact .inr ⟨[], e.host, by rw [List.append_nil]; rfl, .nil⟩
    · rw [if_neg quitting]
      cases found : e.lifecycle.registry.slots[index]? with
      | none =>
        rcases ih e with stalled | ⟨calls, h, ran, reloads⟩
        · exact .inl stalled
        · exact .inr ⟨calls, h, ran, .skip (fun slot is => by rw [found] at is; cases is) reloads⟩
      | some slot =>
        by_cases fresh : slot.state = .registered
        · simp only [if_pos fresh]
          rcases ih e with stalled | ⟨calls, h, ran, reloads⟩
          · exact .inl stalled
          · refine .inr ⟨calls, h, ran, .skip (fun other is => ?_) reloads⟩
            rw [found] at is
            cases is
            exact fresh
        · simp only [if_neg fresh]
          rcases invoke_cases dispatch slot .reload slot.plugin.reload e with
            ⟨result, h, answered⟩ | ⟨stalled, _⟩
          · let called (k : Host) : Ensemble :=
              { e with host := k, calls := e.calls ++ slot.called .reload result.toBool }
            have goesOn : ∀ k, (reloadAll dispatch rest (called k)).1 = .stalled ∨
                ∃ calls h, reloadAll dispatch rest (called k) =
                  (.returned (), { e with host := h, calls := e.calls ++ calls }) ∧
                e.lifecycle.Reloads (index :: rest) calls := by
              intro k
              rcases ih (called k) with stalled | ⟨calls, h, ran, reloads⟩
              · exact .inl stalled
              · refine .inr ⟨slot.called .reload result.toBool ++ calls, h, ?_,
                  .cons found fresh reloads⟩
                rw [ran, List.append_assoc]
            simp only [Act.bind_apply, answered]
            cases result with
            | error failure => exact goesOn _
            | ok value => exact goesOn _
          · exact .inl (Act.bind_stalled stalled _).1

/-- Reloading leaves the lifecycle alone. -/
theorem reload_reloads (dispatch : Dispatch) (e : Ensemble) :
    (reload dispatch e).1 = .stalled ∨ ∃ calls h,
      reload dispatch e = (.returned (), { e with host := h, calls := e.calls ++ calls }) ∧
      e.lifecycle.Reloads e.lifecycle.initialized calls :=
  reloadAll_reloads dispatch e.lifecycle.initialized e

end Ensemble

end PluginHost
