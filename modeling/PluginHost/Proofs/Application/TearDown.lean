import PluginHost.Proofs.Application.Unwinding
import PluginHost.Proofs.Plugin.Answers

set_option autoImplicit false

namespace PluginHost

variable {dispatch : Dispatch}

namespace Host

theorem shared_quit (h : Host) : h.quit.shared = h.shared := by
  unfold quit rouse
  split <;> rfl

theorem quitting_quit (h : Host) : h.quit.control.quitting = true := by
  unfold quit rouse
  split <;> rfl

end Host

namespace Application

/-- There are no plugins, nothing is shared, and the application is to quit. -/
structure Emptied (a : Application) : Prop where
  plugins : a.lifecycle.registry.slots = []
  initialized : a.lifecycle.initialized = []
  running : a.lifecycle.running = []
  shared : a.host.shared = []
  quitting : a.host.control.quitting = true

theorem Emptied.tell {a : Application} (emptied : a.Emptied) (level : Level) (message : String)
    (fields : List (String × FieldValue)) : (tell level message fields a).2.Emptied :=
  ⟨emptied.plugins, emptied.initialized, emptied.running, emptied.shared, emptied.quitting⟩

/-- Plugins are stopped on a host, and answer; what ran first is the last to be stopped. -/
structure TornDown (dispatch : Dispatch) (a : Application) (stops : List Reply)
    (b : Application) : Prop where
  answers : ∃ h, Answers dispatch .stopping a.host stops h
  plugins : List.Forall₂ (Reply.At a.lifecycle.registry) a.lifecycle.running.reverse stops
  calls : b.ensemble.calls = a.ensemble.calls ++ stops.flatMap (Reply.calls .stop)
  emptied : b.Emptied

theorem TornDown.tell {a b : Application} {stops : List Reply} (tornDown : TornDown dispatch a stops b)
    (level : Level) (message : String) (fields : List (String × FieldValue)) :
    TornDown dispatch a stops (tell level message fields b).2 :=
  { tornDown with emptied := tornDown.emptied.tell level message fields }

/-- Nothing follows a step that goes on for ever. -/
theorem stuck_bind {α β : Type} {hook : Hook} {a : Application} {act : Act Application α}
    (stuck : (act a).1 = .stalled ∧ Ensemble.Stuck hook a.ensemble (act a).2.ensemble)
    (next : α → Act Application β) :
    ((act >>= next) a).1 = .stalled ∧
      Ensemble.Stuck hook a.ensemble ((act >>= next) a).2.ensemble := by
  obtain ⟨stalled, kept⟩ := Act.bind_stalled stuck.1 next
  exact ⟨stalled, kept ▸ stuck.2⟩

/-- A tear-down goes on for ever in a call to stop, or it answers with the first failure. -/
theorem shutDown_answers (dispatch : Dispatch) {a : Application}
    (standing : a.ensemble.Standing []) :
    ((shutDown dispatch a).1 = .stalled ∧
      Ensemble.Stuck .stop a.ensemble (shutDown dispatch a).2.ensemble) ∨
    ∃ stops, (shutDown dispatch a).1 = .returned (firstFailure stops) ∧
      TornDown dispatch a stops (shutDown dispatch a).2 := by
  rcases Ensemble.stop_answers dispatch a.ensemble standing.once standing.started with
    stuck | ⟨stops, h, returned, answers, recorded, plugins, empty⟩
  · have never : (onEnsemble (Ensemble.stop dispatch) a).1 = .stalled ∧
        Ensemble.Stuck .stop a.ensemble (onEnsemble (Ensemble.stop dispatch) a).2.ensemble := stuck
    exact .inl (stuck_bind never _)
  · have first : (onEnsemble (Ensemble.stop dispatch) a).1 = .returned (firstFailure stops) :=
      returned
    have left : TornDown dispatch a stops
        (onHost (Act.modify Host.quit) (onHost (Act.modify Host.clearShared)
          (onEnsemble (Ensemble.stop dispatch) a).2).2).2 := by
      have lifecycle : (onEnsemble (Ensemble.stop dispatch) a).2.lifecycle =
          { registry := { slots := [], issued := a.lifecycle.registry.issued } } := empty
      refine ⟨⟨h, answers⟩, plugins, recorded, ?_⟩
      constructor
      · exact congrArg (fun l => l.registry.slots) lifecycle
      · exact congrArg Lifecycle.initialized lifecycle
      · exact congrArg Lifecycle.running lifecycle
      · exact Host.shared_quit _
      · exact Host.quitting_quit _
    right
    refine ⟨stops, ?_⟩
    rw [shutDown, Act.bind_of_returned first, Act.bind_of_returned (a := ()) rfl,
      Act.bind_of_returned (a := ()) rfl]
    cases result : firstFailure stops with
    | error e => exact ⟨rfl, left⟩
    | ok _ => exact ⟨rfl, left.tell _ _ _⟩

end Application

end PluginHost
