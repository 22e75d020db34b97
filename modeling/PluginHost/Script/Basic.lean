import PluginHost.Code.Steps
import PluginHost.Json.Printer
import PluginHost.Options.Basic

set_option autoImplicit false

namespace PluginHost.Script

/-- What surrounds a script: the message or argument it handles, and the options it was given. -/
structure Scene where
  data : Json := .null
  options : Options := .empty

abbrev Action := Scene → Steps (Except Failure Json)

structure Line where
  name : String
  tolerant : Bool
  action : Action

/-- Takes the actions in turn. -/
def perform (scene : Scene) : List Line → Steps (Except Failure Unit)
  | [] => pure (.ok ())
  | line :: rest => do
    match ← line.action scene with
    | .ok .null => perform scene rest
    | .ok value =>
      Steps.note (line.name ++ "=" ++ value.render)
      perform scene rest
    | .error e =>
      if line.tolerant then
        Steps.note (line.name ++ "!" ++ e.display)
        perform scene rest
      else pure (.error e)

def code (lines : List Line) (scene : Scene) : Code :=
  perform scene lines fun result => .done (result.map fun _ => .null)

/-- A script as code that answers with a value. -/
def answering (lines : List Line) (scene : Scene) (value : Json) : Code :=
  perform scene lines fun result => .done (result.map fun _ => value)

/-- A script as code whose failure is noted and goes no further. -/
def reporting (lines : List Line) (what : String) : Code :=
  perform {} lines fun result =>
    match result with
    | .ok _ => .nothing
    | .error e => Steps.code (Steps.note (what ++ " failed: " ++ e.display))

end PluginHost.Script
