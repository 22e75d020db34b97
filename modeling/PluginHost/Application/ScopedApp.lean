import PluginHost.Application.Basic

set_option autoImplicit false

namespace PluginHost

/-- Whether a scoped application is alive. -/
structure Scope where
  live : Bool := false
deriving DecidableEq, Repr

namespace Scope

/-- Claims the place, if it is free. -/
def claim (s : Scope) : Except Failure Unit × Scope :=
  if s.live then (.error .scopeTaken, s) else (.ok (), { s with live := true })

/-- Gives the place back. -/
def release (s : Scope) : Scope := { s with live := false }

end Scope

/-- What comes of building the runtime of a reactor: one that is going to see some cues, with a
journal of what came before, an error of the system, or a panic. -/
inductive Runtime where
  | built (journal : Journal) (cues : List Cue)
  | failed (cause : String)
  | unwound (payload : PanicPayload)

namespace Application

/-- A fresh application on a reactor of its own. -/
def withConfig (catalogue : Catalogue) (registered : List String) (config : Config) :
    Runtime → Flow (Except Failure Application)
  | .built journal cues =>
    .returned (.ok (new config catalogue registered (eventHost journal cues)))
  | .failed cause => .returned (.error (.reactorNotBuilt cause))
  | .unwound payload => .unwound payload

/-- Makes a scoped application. The claim is given back on every way out without an application. -/
def createScoped (catalogue : Catalogue) (registered : List String) (config : Config)
    (runtime : Runtime) : Act Scope (Except Failure Application) := fun s =>
  match s.claim with
  | (.error e, s) => (.returned (.error e), s)
  | (.ok _, s) =>
    match withConfig catalogue registered config runtime with
    | .returned (.ok a) => (.returned (.ok a), s)
    | flow => (flow, s.release)

/-- Drops a scoped application. The claim is given back after the tear-down, unless that goes on for
ever. -/
def dropScoped (dispatch : Dispatch) : Act (Application × Scope) Unit := fun (a, s) =>
  match drop dispatch a with
  | (.stalled, a) => (.stalled, (a, s))
  | (flow, a) => (flow, (a, s.release))

end Application

end PluginHost
