import PluginHost.Proofs.Plugin.Stopping

set_option autoImplicit false

namespace PluginHost

namespace Ensemble

/-- What may be asked of plugins, and what may happen to the host in the meantime. -/
inductive Operation where
  | register (plugin : Plugin)
  | registerType (type : String)
  | setUp (name : String) (options : Options)
  | start
  | reload
  | stop
  | elsewhere (change : Host → Host)

namespace Operation

def perform (dispatch : Dispatch) (catalogue : Catalogue) :
    Operation → Act Ensemble (Except Failure Unit)
  | .register plugin => do
    let _ ← Ensemble.register catalogue plugin
    pure (.ok ())
  | .registerType type => do
    let _ ← Ensemble.registerType catalogue type
    pure (.ok ())
  | .setUp name options => Ensemble.setUp dispatch name options
  | .start => Ensemble.start dispatch
  | .reload => do
    Ensemble.reload dispatch
    pure (.ok ())
  | .stop => Ensemble.stop dispatch
  | .elsewhere change => do
    onHost (Act.modify change)
    pure (.ok ())

/-- A plugin that is registered is steady. -/
def Steady : Operation → Prop
  | .register plugin => plugin.Steady
  | _ => True

/-- What an operation does to a sound lifecycle, with the calls that plugins get and its result. -/
inductive Does (dispatch : Dispatch) :
    Operation → Lifecycle → List Call → Except Failure Unit → Lifecycle → Prop
  | register {l : Lifecycle} {r : Registry} (plugin : Plugin) (grows : l.registry.Grows r) :
      Does dispatch (.register plugin) l [] (.ok ()) { l with registry := r }
  | registerType {l : Lifecycle} {r : Registry} (type : String) (grows : l.registry.Grows r) :
      Does dispatch (.registerType type) l [] (.ok ()) { l with registry := r }
  | unknown {l : Lifecycle} {name : String} {options : Options} {e : Failure}
      (unknown : l.registry.resolve name = .error e) :
      Does dispatch (.setUp name options) l [] (.error e) l
  | setUp {l after : Lifecycle} {name : String} {options : Options} {index : Nat}
      {calls : List Call} {result : Except Failure Unit}
      (known : l.registry.resolve name = .ok index)
      (setsUp : Lifecycle.SetsUp (.plugin index) l calls result after) :
      Does dispatch (.setUp name options) l calls result after
  | start {l after : Lifecycle} {waiting : List Nat} {calls : List Call}
      {result : Except Failure Unit} (waits : l.initialized = l.running ++ waiting)
      (starts : l.Starts waiting calls result after) : Does dispatch .start l calls result after
  | reload {l : Lifecycle} {calls : List Call} (reloads : l.Reloads l.initialized calls) :
      Does dispatch .reload l calls (.ok ()) l
  | stop {l : Lifecycle} {calls : List Call} {result : Except Failure Unit}
      (stops : Lifecycle.Stops l.registry l.running.reverse calls result) :
      Does dispatch .stop l calls result { registry := { issued := l.registry.issued } }
  | elsewhere {l : Lifecycle} (change : Host → Host) :
      Does dispatch (.elsewhere change) l [] (.ok ()) l

variable {dispatch : Dispatch} {catalogue : Catalogue}

/-- An operation goes on for ever or does what it should. -/
theorem perform_does (dispatch : Dispatch) (made : catalogue.Steady) (operation : Operation)
    (steady : operation.Steady) (e : Ensemble) (sound : e.lifecycle.Sound) :
    (operation.perform dispatch catalogue e).1 = .stalled ∨ ∃ result calls,
      (operation.perform dispatch catalogue e).1 = .returned result ∧
      (operation.perform dispatch catalogue e).2.calls = e.calls ++ calls ∧
      operation.Does dispatch e.lifecycle calls result
        (operation.perform dispatch catalogue e).2.lifecycle := by
  cases operation with
  | register plugin =>
    refine .inr ⟨.ok (), [], rfl, (List.append_nil _).symm, .register plugin ?_⟩
    exact Registry.register_grows made steady e.lifecycle.registry e.host
  | registerType type =>
    refine .inr ⟨.ok (), [], rfl, (List.append_nil _).symm, .registerType type ?_⟩
    exact Registry.registerType_grows made type e.lifecycle.registry e.host
  | setUp name options =>
    cases known : e.lifecycle.registry.resolve name with
    | error failure =>
      rw [perform, setUp_of_unknown known]
      exact .inr ⟨.error failure, [], rfl, (List.append_nil _).symm, .unknown known⟩
    | ok index =>
      rcases setUp_of_known dispatch options known with
        ⟨stalled, _⟩ | ⟨result, calls, returned, recorded, setsUp⟩
      · exact .inl stalled
      · exact .inr ⟨result, calls, returned, recorded, .setUp known setsUp⟩
  | start =>
    rcases start_starts dispatch e sound with
      stalled | ⟨waiting, result, calls, waits, returned, recorded, starts⟩
    · exact .inl stalled
    · exact .inr ⟨result, calls, returned, recorded, .start waits starts⟩
  | reload =>
    rcases reload_reloads dispatch e with stalled | ⟨calls, h, ran, reloads⟩
    · exact .inl (Act.bind_stalled stalled _).1
    · rw [perform, Act.bind_of_returned (a := ()) (by rw [ran]), ran]
      exact .inr ⟨.ok (), calls, rfl, rfl, .reload reloads⟩
  | stop =>
    rcases stop_stops dispatch e sound with
      stalled | ⟨result, calls, returned, recorded, stops, empty⟩
    · exact .inl stalled
    · refine .inr ⟨result, calls, returned, recorded, ?_⟩
      rw [perform, empty]
      exact .stop stops
  | elsewhere change => exact .inr ⟨.ok (), [], rfl, (List.append_nil _).symm, .elsewhere change⟩

theorem Does.sound {operation : Operation} {l after : Lifecycle} {calls : List Call}
    {result : Except Failure Unit} (does : operation.Does dispatch l calls result after)
    (sound : l.Sound) : after.Sound := by
  cases does with
  | register plugin grows => exact sound.grow grows
  | registerType type grows => exact sound.grow grows
  | unknown _ => exact sound
  | setUp _ setsUp => exact (setsUp.sound sound).1
  | start waits starts => exact starts.sound sound waits
  | reload _ => exact sound
  | stop _ => exact .empty _
  | elsewhere _ => exact sound

end Operation

/-- What comes of operations that do not go on for ever, if each ends in an accepted way. -/
inductive Reached (dispatch : Dispatch) (catalogue : Catalogue)
    (accepts : Operation → Flow (Except Failure Unit) → Prop) : Ensemble → Prop
  | fresh (h : Host) : Reached dispatch catalogue accepts { host := h }
  | step {e : Ensemble} (operation : Operation) (reached : Reached dispatch catalogue accepts e)
      (steady : operation.Steady)
      (ended : (operation.perform dispatch catalogue e).1 ≠ .stalled)
      (accepted : accepts operation (operation.perform dispatch catalogue e).1) :
      Reached dispatch catalogue accepts (operation.perform dispatch catalogue e).2

theorem Reached.sound {dispatch : Dispatch} {catalogue : Catalogue} {e : Ensemble}
    {accepts : Operation → Flow (Except Failure Unit) → Prop} (made : catalogue.Steady)
    (reached : Reached dispatch catalogue accepts e) : e.lifecycle.Sound := by
  induction reached with
  | fresh h => exact .empty 0
  | @step e operation _ steady ended _ ih =>
    rcases operation.perform_does dispatch made steady e ih with
      stalled | ⟨_, _, _, _, does⟩
    · exact absurd stalled ended
    · exact does.sound ih

end Ensemble

/-- What may be relied on between any two operations: plugins are set up once and after what they
depend on, start in that order, and are in the states that the two orders say. -/
structure Lifecycle.Consistent (l : Lifecycle) : Prop where
  once : l.initialized.Nodup
  dependenciesFirst : ∀ before index rest, l.initialized = before ++ index :: rest →
    ∀ plugin h, l.registry.pluginAt index = some plugin →
      ∀ d ∈ plugin.requires h, ∃ i ∈ before, l.registry.locate d = some i
  running : l.running <+: l.initialized
  started : ∀ i, l.stateAt i = some .started ↔ i ∈ l.running
  begun : ∀ i ∈ l.initialized, ∃ s, l.stateAt i = some s ∧ PluginState.initialized.rank ≤ s.rank
  unstopped : ∀ i, l.stateAt i ≠ some .stopped

theorem Lifecycle.Sound.consistent {l : Lifecycle} (sound : l.Sound) : l.Consistent where
  once := sound.ordered.nodup
  dependenciesFirst := by
    intro before index rest split plugin h present d asked
    have member : index ∈ l.initialized := by
      rw [split]
      exact List.mem_append_cons_self
    obtain ⟨i, located⟩ :=
      Option.isSome_iff_exists.1 (sound.ordered.resolved member plugin h present d asked)
    exact ⟨i, sound.ordered.earlier split ⟨plugin, h, present, d, asked, located⟩, located⟩
  running := sound.running
  started := sound.started
  begun := by
    intro i member
    rcases sound.begun i member with is | is
    · exact ⟨_, is, by decide⟩
    · exact ⟨_, is, by decide⟩
  unstopped := sound.unstopped

/-- Between any two operations the orders and states of plugins fit together. -/
theorem Ensemble.reached_consistent {dispatch : Dispatch} {catalogue : Catalogue} {e : Ensemble}
    (made : catalogue.Steady) (reached : Reached dispatch catalogue (fun _ _ => True) e) :
    e.lifecycle.Consistent :=
  (reached.sound made).consistent

/-- A plugin that needs another one, which is registered later and fails to start. -/
theorem Ensemble.reached_consistent_of_two :
    let top : Plugin := { type := "Top", name := "top", requires := fun _ => [.named "base"] }
    let base : Plugin := { type := "Base", name := "base", start := .panic .opaqueValue }
    let perform := fun (operation : Operation) (e : Ensemble) =>
      (operation.perform (Code.runWithin 1) [] e).2
    let e := perform .start (perform (.setUp "top" .empty)
      (perform (.register base) (perform (.register top) {})))
    e.lifecycle.initialized = [1, 0] ∧ e.lifecycle.running = [1] ∧ e.lifecycle.Consistent := by
  intro top base perform e
  have reached : Reached (Code.runWithin 1) [] (fun _ _ => True) e := by
    refine .step .start (.step (.setUp "top" .empty) (.step (.register base) (.step (.register top)
      (.fresh {}) (fun _ _ => rfl) ?_ trivial) (fun _ _ => rfl) ?_ trivial) trivial ?_ trivial)
      trivial ?_ trivial
    all_goals decide +kernel
  have consistent := reached_consistent (fun t member => absurd member List.not_mem_nil) reached
  exact ⟨by decide +kernel, by decide +kernel, consistent⟩

end PluginHost
