import PluginHost.Application.Basic
import PluginHost.Proofs.BringUp.Lifecycle

set_option autoImplicit false

namespace PluginHost

open Act (Matches)

/-- The second application has come as far as the first, with plugins that may also ask to quit. -/
structure Application.AddsQuits (a b : Application) : Prop where
  config : b.config = a.config
  catalogue : a.catalogue.AddsQuits b.catalogue
  registered : b.registered = a.registered
  ensemble : a.ensemble.AddsQuits b.ensemble
  options : b.options = a.options
  registeredApplied : b.registeredApplied = a.registeredApplied
  reloadCallback : b.reloadCallback = a.reloadCallback

/-- What others can tell of a registered plugin. -/
def Slot.face (s : Slot) : Nat × String × String × PluginState :=
  (s.serial, s.plugin.type, s.plugin.name, s.state)

/-- Plugins, orders and calls are the same, and so is the host but for requests to quit. -/
structure Ensemble.Agree (e f : Ensemble) : Prop where
  plugins : f.lifecycle.registry.slots.map Slot.face = e.lifecycle.registry.slots.map Slot.face
  issued : f.lifecycle.registry.issued = e.lifecycle.registry.issued
  initialized : f.lifecycle.initialized = e.lifecycle.initialized
  running : f.lifecycle.running = e.lifecycle.running
  calls : f.calls = e.calls
  host : e.host.Agree f.host

structure Application.Agree (a b : Application) : Prop where
  ensemble : a.ensemble.Agree b.ensemble
  options : b.options = a.options
  registeredApplied : b.registeredApplied = a.registeredApplied

theorem Registry.AddsQuits.faces {r q : Registry} (adds : r.AddsQuits q) :
    q.slots.map Slot.face = r.slots.map Slot.face :=
  map_of_forall₂ adds.slots fun s t own => by
    simp only [Slot.face, own.serial, own.plugin.type, own.plugin.name, own.state]

/-- Two ensembles that add requests to quit to a third one agree. -/
theorem Ensemble.Agree.of_adds {u e f : Ensemble} (first : u.AddsQuits e) (second : u.AddsQuits f) :
    e.Agree f where
  plugins := second.lifecycle.registry.faces.trans first.lifecycle.registry.faces.symm
  issued := second.lifecycle.registry.issued.trans first.lifecycle.registry.issued.symm
  initialized := second.lifecycle.initialized.trans first.lifecycle.initialized.symm
  running := second.lifecycle.running.trans first.lifecycle.running.symm
  calls := second.calls.trans first.calls.symm
  host := second.host.unasked.trans first.host.unasked.symm

theorem Application.Agree.of_adds {u a b : Application} (first : u.AddsQuits a)
    (second : u.AddsQuits b) : a.Agree b where
  ensemble := .of_adds first.ensemble second.ensemble
  options := second.options.trans first.options.symm
  registeredApplied := second.registeredApplied.trans first.registeredApplied.symm

namespace Application

theorem AddsQuits.left {a b : Application} (adds : a.AddsQuits b) : a.AddsQuits a where
  config := rfl
  catalogue := forall₂_left adds.catalogue fun _ _ own => own.left
  registered := rfl
  ensemble := adds.ensemble.left
  options := rfl
  registeredApplied := rfl
  reloadCallback := rfl

variable {depth : Nat}

theorem onEnsemble_matches {α : Type} {first second : Act Ensemble α}
    (same : Matches Ensemble.AddsQuits first second) :
    Matches AddsQuits (onEnsemble first) (onEnsemble second) :=
  same.within (fun _ _ adds => adds.ensemble) fun _ _ _ _ adds ensemble => { adds with ensemble }

theorem onHost_matches {α : Type} {first second : Act Host α}
    (same : Matches Host.Agree first second) :
    Matches AddsQuits (onHost first) (onHost second) :=
  onEnsemble_matches (Ensemble.onHost_matches same)

theorem tell_matches (level : Level) (message : String) (fields : List (String × FieldValue)) :
    Matches AddsQuits (tell level message fields) (tell level message fields) :=
  onHost_matches (.modify fun _ _ agree => agree.tell .application level message fields)

theorem register_matches {p q : Plugin} (adds : p.AddsQuits q) :
    Matches AddsQuits (register p) (register q) := by
  refine .look fun a b own => onEnsemble_matches (Ensemble.onRegistry_matches ?_)
  exact Registry.registerWith_alike (Registry.registerType_alike own.catalogue) adds

theorem registerType_matches (type : String) :
    Matches AddsQuits (registerType type) (registerType type) := by
  refine .look fun a b own => onEnsemble_matches (Ensemble.onRegistry_matches ?_)
  exact Registry.registerType_alike own.catalogue type

theorem registerTypes_matches (types : List String) :
    Matches AddsQuits (registerTypes types) (registerTypes types) := by
  induction types with
  | nil => exact .pure _
  | cons type rest ih => exact (registerType_matches type).bind fun _ => ih

theorem applyRegistered_matches : Matches AddsQuits applyRegistered applyRegistered := by
  refine .get fun a b adds => ?_
  rw [adds.registeredApplied, adds.registered]
  split
  · exact .pure _
  · refine (registerTypes_matches _).bind fun _ => ?_
    exact .modify fun _ _ adds => { adds with registeredApplied := rfl }

theorem agree_reportRepeated (repeated : List RepeatedDeclaration) {h k : Host} (agree : h.Agree k) :
    (reportRepeated repeated h).Agree (reportRepeated repeated k) := by
  induction repeated generalizing h k with
  | nil => exact agree
  | cons r rest ih => exact ih (agree.tell _ _ _ _)

theorem optionsSchema_matches : Matches AddsQuits optionsSchema optionsSchema := by
  refine applyRegistered_matches.bind fun _ => ?_
  refine .look fun a b adds => ?_
  have declared := adds.ensemble.lifecycle.registry.declareOptions .empty
  unfold lifecycle
  rw [declared]
  refine (onHost_matches (.modify fun h k agree => ?_)).bind fun _ => .pure _
  exact agree_reportRepeated _ agree

theorem warnOptions_matches (message : String) (names : List String) :
    Matches AddsQuits (warnOptions message names) (warnOptions message names) := by
  induction names with
  | nil => exact .pure _
  | cons name rest ih => exact (tell_matches _ _ _).bind fun _ => ih

theorem setUpAll_matches (options : Options) (names : List String) :
    Matches AddsQuits (setUpAll (Code.unseeing depth) options names)
      (setUpAll (Code.runWithin depth) options names) := by
  induction names with
  | nil => exact .pure _
  | cons name rest ih =>
    refine (onEnsemble_matches (Ensemble.setUp_matches name options)).bind fun result => ?_
    cases result with
    | ok _ => exact ih
    | error e => exact (tell_matches _ _ _).bind fun _ => .pure _

theorem setUp_matches (names : List String) (options : Options) :
    Matches AddsQuits (setUp (Code.unseeing depth) names options)
      (setUp (Code.runWithin depth) names options) := by
  refine optionsSchema_matches.bind fun schema => ?_
  refine (warnOptions_matches _ _).bind fun _ => ?_
  refine (warnOptions_matches _ _).bind fun _ => ?_
  refine (Matches.modify fun _ _ adds => { adds with options := rfl }).bind fun _ => ?_
  refine (setUpAll_matches _ names).bind fun result => ?_
  cases result with
  | error e => exact .pure _
  | ok _ =>
    refine .look fun a b adds => ?_
    have names := adds.ensemble.lifecycle.initializedNames
    unfold lifecycle
    rw [names]
    exact (tell_matches _ _ _).bind fun _ => .pure _

/-- Sets plugins up time and again, by names and with options, whatever came of it before. -/
def setUps (dispatch : Dispatch) :
    List (List String × Options) → Act Application (List (Except Failure Unit))
  | [] => pure []
  | (names, options) :: rest => do
    let result ← setUp dispatch names options
    let later ← setUps dispatch rest
    pure (result :: later)

theorem setUps_matches (requests : List (List String × Options)) :
    Matches AddsQuits (setUps (Code.unseeing depth) requests)
      (setUps (Code.runWithin depth) requests) := by
  induction requests with
  | nil => exact .pure _
  | cons request rest ih =>
    exact (setUp_matches request.1 request.2).bind fun result => ih.bind fun later => .pure _

end Application

end PluginHost
