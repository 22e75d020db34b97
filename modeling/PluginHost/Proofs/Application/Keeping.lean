import PluginHost.Application.RunLoop
import PluginHost.Proofs.Leads

set_option autoImplicit false

namespace PluginHost

open Act (Leads Keeps)

namespace Application

/-- A property that the run loop keeps: it goes with any host, and with calls to reload. -/
structure Turning (dispatch : Dispatch) (R : Application → Prop) : Prop where
  onHost : ∀ {α : Type} (act : Act Host α), Keeps R (onHost act)
  reload : Keeps R (onEnsemble (Ensemble.reload dispatch))

/-- A property that the parts of an application's operations keep. -/
structure Keeping (dispatch : Dispatch) (R : Application → Prop) : Prop extends
    Turning dispatch R where
  registerType : ∀ type, Keeps R (registerType type)
  setUpOne : ∀ name options, Keeps R (onEnsemble (Ensemble.setUp dispatch name options))
  applied : ∀ a, R a → R { a with registeredApplied := true }
  merged : ∀ a options, R a → R { a with options := options }

variable {dispatch : Dispatch} {R : Application → Prop}

/-- A step of the loop works on the host alone, unless it answers a request to reload. -/
theorem loopStep_of_hosts (hosts : ∀ {α : Type} (act : Act Host α), Keeps R (onHost act))
    (patience : Nat) {loop : RunLoop} (elsewhere : loop.phase ≠ .attend) :
    Keeps R (loopStep dispatch patience loop) := by
  unfold loopStep
  cases phase : loop.phase with
  | check => exact Leads.get.andThen fun a => .pure _
  | attend => exact absurd phase elsewhere
  | poll => exact Leads.get.andThen fun a => (hosts _).andThen fun _ => .pure _
  | execute =>
    refine (hosts _).andThen fun result => ?_
    cases result with
    | ok more => exact .pure _
    | error e => exact (hosts _).andThen fun _ => (hosts _).andThen fun _ => .pure _
  | rest =>
    refine Leads.get.andThen fun a => ?_
    split
    · exact .pure _
    · exact (hosts _).andThen fun _ => .pure _
  | finished => exact .pure _

namespace Turning

theorem tell (turning : Turning dispatch R) (level : Level) (message : String)
    (fields : List (String × FieldValue)) : Keeps R (tell level message fields) :=
  turning.onHost _

theorem dispatchReload (turning : Turning dispatch R) : Keeps R (dispatchReload dispatch) := by
  refine (turning.tell _ _ _).andThen fun _ => ?_
  refine (Leads.look _).andThen fun callback => ?_
  cases callback with
  | none => exact turning.reload
  | some code => exact (turning.onHost _).andThen fun _ => turning.reload

theorem loopStep (turning : Turning dispatch R) (patience : Nat) (loop : RunLoop) :
    Keeps R (loopStep dispatch patience loop) := by
  by_cases attends : loop.phase = .attend
  · simp only [Application.loopStep, attends]
    refine (turning.onHost _).andThen fun pending => ?_
    cases pending with
    | false => exact .pure _
    | true => exact turning.dispatchReload.andThen fun _ => .pure _
  · exact loopStep_of_hosts turning.onHost patience attends

theorem loopSteps (turning : Turning dispatch R) (patience steps : Nat) (loop : RunLoop) :
    Keeps R (loopSteps dispatch patience steps loop) := by
  induction steps generalizing loop with
  | zero => exact .stall
  | succ steps ih =>
    unfold Application.loopSteps
    split
    · exact .pure _
    · exact (turning.loopStep patience loop).andThen fun next => ih next

theorem openLoop (turning : Turning dispatch R) : Keeps R openLoop :=
  (turning.tell _ _ _).andThen fun _ => .pure _

theorem conclude (turning : Turning dispatch R) (stops : Keeps R (shutDown dispatch))
    (loop : RunLoop) : Keeps R (conclude dispatch loop) := by
  refine (Leads.look _).andThen fun pending => ?_
  refine (turning.tell _ _ _).andThen fun _ => ?_
  refine (turning.onHost _).andThen fun _ => ?_
  refine stops.andThen fun result => ?_
  cases loop.failure with
  | none => exact .pure _
  | some e =>
    cases result with
    | ok _ => exact .pure _
    | error later => exact (turning.tell _ _ _).andThen fun _ => .pure _

theorem run (turning : Turning dispatch R) (stops : Keeps R (shutDown dispatch))
    (patience : Nat) : Keeps R (run dispatch patience) :=
  turning.openLoop.andThen fun loop =>
    (turning.loopSteps patience patience loop).andThen fun loop => turning.conclude stops loop

end Turning

namespace Keeping

theorem registerTypes (keeping : Keeping dispatch R) (types : List String) :
    Keeps R (registerTypes types) := by
  induction types with
  | nil => exact .pure _
  | cons type rest ih => exact (keeping.registerType type).andThen fun _ => ih

theorem applyRegistered (keeping : Keeping dispatch R) : Keeps R applyRegistered := by
  refine Leads.get.andThen fun a => ?_
  split
  · exact .pure _
  · exact (keeping.registerTypes _).andThen fun _ => .modify keeping.applied

theorem optionsSchema (keeping : Keeping dispatch R) : Keeps R optionsSchema := by
  refine keeping.applyRegistered.andThen fun _ => ?_
  refine (Leads.look _).andThen fun declared => ?_
  exact (keeping.onHost _).andThen fun _ => .pure _

theorem warnOptions (keeping : Keeping dispatch R) (message : String) (names : List String) :
    Keeps R (warnOptions message names) := by
  induction names with
  | nil => exact .pure _
  | cons name rest ih => exact (keeping.tell _ _ _).andThen fun _ => ih

theorem setUpAll (keeping : Keeping dispatch R) (options : Options) (names : List String) :
    Keeps R (setUpAll dispatch options names) := by
  induction names with
  | nil => exact .pure _
  | cons name rest ih =>
    refine (keeping.setUpOne name options).andThen fun result => ?_
    cases result with
    | ok _ => exact ih
    | error e => exact (keeping.tell _ _ _).andThen fun _ => .pure _

theorem setUp (keeping : Keeping dispatch R) (names : List String) (options : Options) :
    Keeps R (setUp dispatch names options) := by
  refine keeping.optionsSchema.andThen fun schema => ?_
  refine (keeping.warnOptions _ _).andThen fun _ => ?_
  refine (keeping.warnOptions _ _).andThen fun _ => ?_
  dsimp only
  refine Leads.andThen (.modify fun a holds => keeping.merged a _ holds) fun _ => ?_
  refine (keeping.setUpAll _ names).andThen fun result => ?_
  cases result with
  | error e => exact .pure _
  | ok _ => exact (Leads.look _).andThen fun l => (keeping.tell _ _ _).andThen fun _ => .pure _

theorem setUpFromConfig (keeping : Keeping dispatch R) : Keeps R (setUpFromConfig dispatch) :=
  (Leads.look _).andThen fun config => keeping.setUp config.plugins.enabled config.options

end Keeping

end Application

end PluginHost
