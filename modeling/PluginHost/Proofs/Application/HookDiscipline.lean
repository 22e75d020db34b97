import PluginHost.Proofs.Application.Keeping
import PluginHost.Proofs.Plugin.Discipline

set_option autoImplicit false

namespace PluginHost

open Act (Leads Keeps)

namespace Ensemble

variable {dispatch : Dispatch} {catalogue : Catalogue} {needs : Nat → Nat → Prop}

theorem register_orderly (made : catalogue.Steady) {plugin : Plugin} (steady : plugin.Steady) :
    Keeps (Orderly needs) (register catalogue plugin) := fun e orderly _ =>
  orderly.grow (Registry.register_grows made steady e.lifecycle.registry e.host) _

theorem registerType_orderly (made : catalogue.Steady) (type : String) :
    Keeps (Orderly needs) (registerType catalogue type) := fun e orderly _ =>
  orderly.grow (Registry.registerType_grows made type e.lifecycle.registry e.host) _

theorem setUp_orderly (name : String) (options : Options) :
    Keeps (Orderly needs) (setUp dispatch name options) := by
  intro e orderly ended
  cases known : e.lifecycle.registry.resolve name with
  | error failure =>
    rw [setUp_of_unknown known]
    exact orderly
  | ok index =>
    rcases setUp_of_known dispatch options known with
      ⟨stalled, _⟩ | ⟨_, _, _, recorded, setsUp⟩
    · exact absurd stalled ended
    · exact orderly.setsUp setsUp recorded

theorem reload_orderly : Keeps (Orderly needs) (reload dispatch) := by
  intro e orderly ended
  rcases reload_reloads dispatch e with stalled | ⟨_, _, ran, reloads⟩
  · exact absurd stalled ended
  · exact orderly.reloads reloads (by rw [ran]) (by rw [ran])

/-- Nothing runs. -/
def Down (needs : Nat → Nat → Prop) (e : Ensemble) : Prop :=
  e.Orderly needs ∧ e.lifecycle.running = []

theorem stop_down : Leads (Risen needs) (Down needs) (stop dispatch) := by
  intro e risen ended
  obtain ⟨_, _, recorded⟩ := risen
  rcases stop_stops dispatch e recorded.sound with
    stalled | ⟨_, _, _, calls, stops, empty⟩
  · exact absurd stalled ended
  · exact ⟨Risen.stops ⟨_, _, recorded⟩ stops empty calls, by rw [empty]⟩

end Ensemble

namespace Application

variable {dispatch : Dispatch} {needs : Nat → Nat → Prop} {α : Type}

/-- A property of the plugins that goes with steady plugin types. -/
def With (P : Ensemble → Prop) (a : Application) : Prop := P a.ensemble ∧ a.catalogue.Steady

/-- Plugins that fit the record of their calls. -/
abbrev Tidy (needs : Nat → Nat → Prop) : Application → Prop := With (Ensemble.Orderly needs)

theorem onEnsemble_leads {P Q : Ensemble → Prop} {act : Act Ensemble α} (leads : Leads P Q act) :
    Leads (With P) (With Q) (onEnsemble act) :=
  fun a holds ended => ⟨leads a.ensemble holds.1 ended, holds.2⟩

/-- A property that does not depend on the host. -/
def Hostless (P : Ensemble → Prop) : Prop := ∀ e host, P e → P { e with host := host }

theorem hostless_orderly : Hostless (Ensemble.Orderly needs) :=
  fun _ _ orderly => orderly.congr rfl rfl

theorem hostless_risen : Hostless (Ensemble.Risen needs) :=
  fun _ _ risen => risen.congr rfl rfl

theorem hostless_down : Hostless (Ensemble.Down needs) :=
  fun _ _ down => ⟨down.1.congr rfl rfl, down.2⟩

variable {P : Ensemble → Prop}

theorem onHost_leads (hostless : Hostless P) (act : Act Host α) :
    Keeps (With P) (onHost act) :=
  fun a holds _ => ⟨hostless a.ensemble _ holds.1, holds.2⟩

theorem tell_leads (hostless : Hostless P) (level : Level) (message : String)
    (fields : List (String × FieldValue)) :
    Keeps (With P) (tell level message fields) := onHost_leads hostless _

theorem register_orderly {plugin : Plugin} (steady : plugin.Steady) :
    Keeps (Tidy needs) (register plugin) :=
  fun a holds ended =>
    onEnsemble_leads (Ensemble.register_orderly holds.2 steady) a holds ended

theorem registerType_orderly (type : String) : Keeps (Tidy needs) (registerType type) :=
  fun a holds ended => onEnsemble_leads (Ensemble.registerType_orderly holds.2 type) a holds ended

theorem setUpOne_orderly (name : String) (options : Options) :
    Keeps (Tidy needs) (onEnsemble (Ensemble.setUp dispatch name options)) :=
  onEnsemble_leads (Ensemble.setUp_orderly name options)

theorem tidy_keeping : Keeping dispatch (Tidy needs) where
  onHost := onHost_leads hostless_orderly
  registerType := registerType_orderly
  setUpOne := setUpOne_orderly
  reload := onEnsemble_leads Ensemble.reload_orderly
  applied _ holds := holds
  merged _ _ holds := holds

/-- Shutting down ends the life in progress, whether every plugin in it got through starting or
not. -/
theorem shutDown_down :
    Leads (With (Ensemble.Risen needs)) (With (Ensemble.Down needs)) (shutDown dispatch) := by
  refine (onEnsemble_leads Ensemble.stop_down).bind (fun result => ?_) fun _ holds => holds
  refine (onHost_leads hostless_down _).andThen fun _ => ?_
  refine (onHost_leads hostless_down _).andThen fun _ => ?_
  cases result with
  | ok _ => exact (tell_leads hostless_down _ _ _).andThen fun _ => .pure _
  | error e => exact .pure _

theorem Tidy.of_down {a : Application} (down : With (Ensemble.Down needs) a) : Tidy needs a :=
  ⟨down.1.1, down.2⟩

theorem shutDown_of_tidy : Leads (Tidy needs) (With (Ensemble.Down needs)) (shutDown dispatch) :=
  fun a tidy ended => shutDown_down a ⟨tidy.1.risen, tidy.2⟩ ended

theorem shutDown_tidy : Keeps (Tidy needs) (shutDown dispatch) :=
  shutDown_of_tidy.imp fun _ => Tidy.of_down

/-- If a plugin fails to start, all is shut down. -/
theorem start_tidy : Keeps (Tidy needs) (start dispatch) := by
  intro a tidy ended
  rcases Ensemble.start_starts dispatch a.ensemble tidy.1.sound with
    stalled | ⟨waiting, result, calls, waits, returned, recorded, starts⟩
  · have first : (onEnsemble (Ensemble.start dispatch) a).1 = .stalled := stalled
    exact absurd (Act.bind_stalled first _).1 ended
  · obtain ⟨risen, completes⟩ := tidy.1.starts waits starts recorded
    have first : (onEnsemble (Ensemble.start dispatch) a).1 = .returned result := returned
    unfold start at ended ⊢
    rw [Act.bind_of_returned first] at ended ⊢
    cases result with
    | ok _ =>
      have tidyAfter : Tidy needs (onEnsemble (Ensemble.start dispatch) a).2 :=
        ⟨completes rfl, tidy.2⟩
      refine Leads.andThen (.look _) (fun l => ?_) _ tidyAfter ended
      exact (tell_leads hostless_orderly _ _ _).andThen fun _ => .pure _
    | error e =>
      have risenAfter : With (Ensemble.Risen needs) (onEnsemble (Ensemble.start dispatch) a).2 :=
        ⟨risen, tidy.2⟩
      refine Leads.bindReturned (tell_leads hostless_risen _ _ _) (fun _ => ⟨(), rfl⟩)
        (fun _ => ?_) _ risenAfter ended
      refine (shutDown_down.imp fun _ => Tidy.of_down).bind (fun later => ?_) fun _ tidy => tidy
      cases later with
      | ok _ => exact .pure _
      | error later => exact (tell_leads hostless_orderly _ _ _).andThen fun _ => .pure _

/-- When the application is dropped, nothing runs any more. -/
theorem drop_down : Leads (Tidy needs) (With (Ensemble.Down needs)) (drop dispatch) := by
  have clears : Keeps (With (Ensemble.Down needs)) (do
      onHost (Act.modify Host.clear)
      onHost (Act.modify Host.clearShared)) :=
    (onHost_leads hostless_down _).andThen fun _ => onHost_leads hostless_down _
  intro a tidy ended
  unfold drop at ended ⊢
  rw [Act.bind_of_returned (a := a.lifecycle.hasRunning) rfl] at ended ⊢
  by_cases running : a.lifecycle.hasRunning
  · rw [if_pos running] at ended ⊢
    refine Leads.bindReturned (P := Tidy needs) (tell_leads hostless_orderly _ _ _)
      (fun _ => ⟨(), rfl⟩) (fun _ => ?_) a tidy ended
    refine shutDown_of_tidy.bind (fun result => ?_) fun _ down => down
    cases result with
    | ok _ => exact clears
    | error e => exact (tell_leads hostless_down _ _ _).andThen fun _ => clears
  · rw [if_neg running] at ended ⊢
    have idle : a.ensemble.lifecycle.running = [] := by
      simpa [Application.lifecycle, Lifecycle.hasRunning] using running
    exact clears a ⟨⟨tidy.1, idle⟩, tidy.2⟩ ended

/-- What may be asked of an application, and what may happen to the host in the meantime. -/
inductive Operation where
  | register (plugin : Plugin)
  | registerType (type : String)
  | listOptions
  | setUp (names : List String) (options : Options)
  | setUpFromConfig
  | start
  | run (patience : Nat)
  | shutDown
  | onReload (callback : Option Code)
  | elsewhere (change : Host → Host)

namespace Operation

def perform (dispatch : Dispatch) : Operation → Act Application Unit
  | .register plugin => do
    let _ ← Application.register plugin
  | .registerType type => do
    let _ ← Application.registerType type
  | .listOptions => do
    let _ ← defaultListing
  | .setUp names options => do
    let _ ← Application.setUp dispatch names options
  | .setUpFromConfig => do
    let _ ← Application.setUpFromConfig dispatch
  | .start => do
    let _ ← Application.start dispatch
  | .run patience => do
    let _ ← Application.run dispatch patience
  | .shutDown => do
    let _ ← Application.shutDown dispatch
  | .onReload callback => Act.modify fun a => { a with reloadCallback := callback }
  | .elsewhere change => onHost (Act.modify change)

/-- A plugin that is registered is steady. -/
def Steady : Operation → Prop
  | .register plugin => plugin.Steady
  | _ => True

theorem perform_tidy (operation : Operation) (steady : operation.Steady) :
    Keeps (Tidy needs) (operation.perform dispatch) := by
  cases operation with
  | register plugin => exact (register_orderly steady).andThen fun _ => .pure _
  | registerType type => exact (registerType_orderly type).andThen fun _ => .pure _
  | listOptions =>
    have keeping : Keeping dispatch (Tidy needs) := tidy_keeping
    exact (keeping.optionsSchema.andThen fun _ => .pure _).andThen fun _ => .pure _
  | setUp names options => exact (tidy_keeping.setUp names options).andThen fun _ => .pure _
  | setUpFromConfig => exact tidy_keeping.setUpFromConfig.andThen fun _ => .pure _
  | start => exact start_tidy.andThen fun _ => .pure _
  | run patience => exact (tidy_keeping.run shutDown_tidy patience).andThen fun _ => .pure _
  | shutDown => exact shutDown_tidy.andThen fun _ => .pure _
  | onReload callback => exact .modify fun _ tidy => tidy
  | elsewhere change => exact onHost_leads hostless_orderly _

end Operation

/-- What comes of an application by operations that do not go on for ever, whether they return or
are unwound by a panic. -/
inductive Becomes (dispatch : Dispatch) (first : Application) : Application → Prop
  | refl : Becomes dispatch first first
  | step {a : Application} (operation : Operation) (becomes : Becomes dispatch first a)
      (steady : operation.Steady) (ended : (operation.perform dispatch a).1 ≠ .stalled) :
      Becomes dispatch first (operation.perform dispatch a).2

theorem Becomes.tidy {first last : Application} (becomes : Becomes dispatch first last)
    (tidy : Tidy needs first) : Tidy needs last := by
  induction becomes with
  | refl => exact tidy
  | step operation _ steady ended ih => exact operation.perform_tidy steady _ ih ended

/-- Whatever is asked of an application until it is dropped: its plugins are called as they should,
where any two of them that depend on each other at some time do so in that order. No plugin gets
through setting up without all that it depends on. -/
theorem dropped_discipline {config : Config} {catalogue : Catalogue} {registered : List String}
    {h : Host} {a b : Application} (made : catalogue.Steady)
    (before : Becomes dispatch (new config catalogue registered h) a) (after : Becomes dispatch a b)
    (ended : (drop dispatch b).1 ≠ .stalled) :
    Discipline a.lifecycle.registry.Serves (drop dispatch b).2.ensemble.calls ∧
      ∀ i p, a.lifecycle.registry.serialAt i = some p →
        .left p .setUp true ∈ a.ensemble.calls → a.lifecycle.registry.Resolved i := by
  have opened : Tidy (fun _ _ => False) (new config catalogue registered h) :=
    ⟨.fresh _ (fun _ _ => id) _, made⟩
  have middle := before.tidy opened
  have last : Tidy a.lifecycle.registry.Serves b := after.tidy ⟨middle.1.serves, middle.2⟩
  obtain ⟨⟨orderly, idle⟩, _⟩ := drop_down b last ended
  exact ⟨orderly.risen.discipline idle, fun i p is ended => middle.1.resolved is ended⟩

/-- A plugin that fails to start after the one that it needs: both are stopped, and nothing is left
to do when the application is dropped. -/
theorem dropped_discipline_of_two :
    let top : Plugin :=
      { type := "Top", name := "top", requires := fun _ => [.named "base"],
        start := .panic .opaqueValue }
    let base : Plugin := { type := "Base", name := "base" }
    let perform := fun (operation : Operation) (a : Application) =>
      (operation.perform (Code.runWithin 1) a).2
    let a := perform (.setUp ["top"] .empty)
      (perform (.register base) (perform (.register top) (new {} [] [] {})))
    (drop (Code.runWithin 1) (perform .start a)).2.ensemble.calls =
        [.entered 1 .setUp, .left 1 .setUp true, .entered 0 .setUp, .left 0 .setUp true,
          .entered 1 .start, .left 1 .start true, .entered 0 .start, .left 0 .start false,
          .entered 0 .stop, .left 0 .stop true, .entered 1 .stop, .left 1 .stop true] ∧
      Discipline a.lifecycle.registry.Serves
        (drop (Code.runWithin 1) (perform .start a)).2.ensemble.calls ∧
      a.lifecycle.registry.Resolved 0 := by
  intro top base perform a
  have before : Becomes (Code.runWithin 1) (new {} [] [] {}) a := by
    refine .step (.setUp ["top"] .empty) (.step (.register base) (.step (.register top) .refl
      (fun _ _ => rfl) ?_) (fun _ _ => rfl) ?_) trivial ?_
    all_goals decide +kernel
  have after : Becomes (Code.runWithin 1) a (perform .start a) :=
    .step .start .refl trivial (by decide +kernel)
  have dropped := dropped_discipline (fun t member => absurd member List.not_mem_nil) before
    after (by decide +kernel)
  exact ⟨by decide +kernel, dropped.1, dropped.2 0 0 (by decide +kernel) (by decide +kernel)⟩

end Application

end PluginHost
