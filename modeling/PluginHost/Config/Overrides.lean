import PluginHost.CommandLine
import PluginHost.Config.Layers

set_option autoImplicit false

namespace PluginHost

/-- The value that the text of an option stands for: JSON if it is JSON, else the text itself. -/
def optionValue (text : String) : Json :=
  match Json.parse text with
  | .ok value => value
  | .error _ => .string text

namespace Config

/-- Chooses the plugins, if any were named. -/
def choosePlugins (config : Config) (plugins : List String) : Config :=
  if plugins.isEmpty then config else { config with plugins := { enabled := plugins } }

/-- Sets an option as `name=value`. Blanks around the name do not belong to it. -/
def setOption (config : Config) (text : String) : Except Failure Config :=
  match Text.splitAtFirst '=' text with
  | none => .error (.malformedOverride text)
  | some (name, value) =>
    .ok { config with options := config.options.insert (Text.trim name) (optionValue value) }

/-- Sets options in their order, up to the first that is no `name=value`. -/
def setOptions : Config → List String → Except Failure Config
  | config, [] => .ok config
  | config, text :: rest =>
    match config.setOption text with
    | .error e => .error e
    | .ok config => config.setOptions rest

/-- A configuration with what the command line overrides. -/
def override (config : Config) (arguments : Arguments) : Except Failure Config :=
  (config.choosePlugins arguments.plugins).setOptions arguments.options

end Config

/-- The configuration that a command line asks for. -/
def ConfigDirectory.loadFor (d : ConfigDirectory) (arguments : Arguments) (env : Environment) :
    Except Failure Config :=
  match d.load arguments.deployment env with
  | .error e => .error e
  | .ok config => config.override arguments

end PluginHost
