import PluginHost.Setting.Environment

set_option autoImplicit false

namespace PluginHost

/-- What the command line asks for. -/
structure Arguments where
  /-- The directory with the configuration files. -/
  directory : String := "config"
  /-- The deployment whose file is laid over the defaults. -/
  deployment : String := "development"
  plugins : List String := []
  /-- Plugin options as `name=value`. -/
  options : List String := []
  /-- Whether to list the options of plugins and do nothing else. -/
  listing : Bool := false
deriving DecidableEq, Repr

/-- Why a command line gives no arguments. -/
inductive Refusal where
  | unknownArgument (argument : String)
  | missingValue (option : String)
  /-- A switch takes no value. -/
  | unexpectedValue (option : String)
  /-- An option that counts once was given twice. -/
  | repeated (option : String)
  | help
  | version
deriving DecidableEq, Repr

namespace CommandLine

/-- Options that take a value. -/
inductive ValueOption where
  | directory
  | deployment
  | plugin
  | setting
deriving DecidableEq, Repr

inductive Switch where
  | listing
  | help
  | version
deriving DecidableEq, Repr

def ValueOption.name : ValueOption → String
  | directory => "config-dir"
  | deployment => "env"
  | plugin => "plugin"
  | setting => "option"

def ValueOption.all : List ValueOption := [directory, deployment, plugin, setting]

def Switch.name : Switch → String
  | listing => "print-default-config"
  | help => "help"
  | version => "version"

def Switch.all : List Switch := [listing, help, version]

/-- What was given so far. An option whose value is still to come, or to be looked at, is pending. -/
structure Given where
  directory : Option String := none
  deployment : Option String := none
  plugins : List String := []
  options : List String := []
  listing : Bool := false
  pending : Option (ValueOption × Option String) := none
deriving DecidableEq, Repr

namespace Given

def once (option : ValueOption) (value : String) : Option String → Except Refusal (Option String)
  | none => .ok (some value)
  | some _ => .error (.repeated option.name)

def take (g : Given) (option : ValueOption) (value : String) : Except Refusal Given :=
  match option with
  | .directory => (once option value g.directory).map fun d => { g with directory := d }
  | .deployment => (once option value g.deployment).map fun d => { g with deployment := d }
  | .plugin => .ok { g with plugins := g.plugins ++ [value] }
  | .setting => .ok { g with options := g.options ++ [value] }

/-- Looks at the value of the pending option. -/
def settle (g : Given) : Except Refusal Given :=
  match g.pending with
  | none => .ok g
  | some (option, none) => .error (.missingValue option.name)
  | some (option, some value) => { g with pending := none }.take option value

/-- A switch of some name. -/
def flip (g : Given) : Switch → Except Refusal Given
  | .listing => if g.listing then .error (.repeated Switch.listing.name) else .ok { g with listing := true }
  | .help => .error .help
  | .version => .error .version

/-- An argument behind two dashes, with the value attached to it. -/
def long (g : Given) (name : String) (attached : Option String) : Except Refusal Given :=
  match ValueOption.all.find? (·.name = name), Switch.all.find? (·.name = name) with
  | some option, _ =>
    match g.settle with
    | .error refusal => .error refusal
    | .ok g =>
      match attached with
      | some value => g.take option value
      | none => .ok { g with pending := some (option, none) }
  | none, some switch =>
    if attached.isSome then .error (.unexpectedValue name)
    else
      match g.settle with
      | .error refusal => .error refusal
      | .ok g => g.flip switch
  | none, none => .error (.unknownArgument ("--" ++ name))

/-- An argument behind one dash: both letters there are end the command line. -/
def short (g : Given) (letter : Char) : Except Refusal Given :=
  let switch? : Option Switch :=
    if letter = 'h' then some .help else if letter = 'V' then some .version else none
  match switch? with
  | some switch =>
    match g.settle with
    | .error refusal => .error refusal
    | .ok g => g.flip switch
  | none => .error (.unknownArgument ("-" ++ letter.toString))

/-- An argument without a dash is the value of the pending option. -/
def plain (g : Given) (argument : String) : Except Refusal Given :=
  match g.pending with
  | some (option, none) => .ok { g with pending := some (option, some argument) }
  | _ => .error (.unknownArgument argument)

def add (g : Given) (argument : String) : Except Refusal Given :=
  match argument.toList with
  | '-' :: '-' :: name =>
    match Text.splitAtFirst '=' (String.ofList name) with
    | some (name, value) => g.long name (some value)
    | none => g.long (String.ofList name) none
  | '-' :: letter :: _ => g.short letter
  | _ => g.plain argument

/-- Adds arguments in their order. Nothing may follow two dashes alone. -/
def addAll (g : Given) : List String → Except Refusal Given
  | [] => g.settle
  | "--" :: rest =>
    match rest with
    | [] => g.settle
    | argument :: _ => .error (.unknownArgument argument)
  | argument :: rest =>
    match g.add argument with
    | .error refusal => .error refusal
    | .ok g => g.addAll rest

/-- What is asked for, with defaults for what was not given. The environment may name the
deployment. -/
def arguments (g : Given) (env : Environment) : Arguments where
  directory := g.directory.getD "config"
  deployment := (g.deployment <|> env.value? "HOSTKIT_ENV").getD "development"
  plugins := g.plugins
  options := g.options
  listing := g.listing

end Given

/-- The arguments that a command line gives. -/
def parse (env : Environment) (line : List String) : Except Refusal Arguments :=
  (Given.addAll {} line).map fun g => g.arguments env

def program : String := "hostkit-server"

def release : String := "0.1.0"

def versionText : String := program ++ " " ++ release

def helpText (env : Environment) : String :=
  let deployment := (env.value? "HOSTKIT_ENV").getD ""
  "\n".intercalate
    ["Plugin host with a prioritized run loop", "",
      "Usage: " ++ program ++ " [OPTIONS]", "",
      "Options:",
      "      --config-dir <CONFIG_DIR>  Directory holding `default.toml` and per-environment overlays "
        ++ "[default: config]",
      "      --env <ENV>                Environment overlay to load on top of the defaults "
        ++ "[env: HOSTKIT_ENV=" ++ deployment ++ "] [default: development]",
      "      --plugin <NAME>            Plugin to initialize; repeatable. Overrides `plugins.enabled`",
      "      --option <NAME=VALUE>      Plugin option as `name=value`; repeatable. Values are parsed as "
        ++ "JSON when possible and taken as strings otherwise",
      "      --print-default-config     Print every declared plugin option with its default and exit",
      "  -h, --help                     Print help",
      "  -V, --version                  Print version"]

/-- What is wrong with a command line. -/
def complaint : Refusal → String
  | .unknownArgument argument => "error: unexpected argument '" ++ argument ++ "' found"
  | .missingValue option => "error: a value is required for '--" ++ option ++ "' but none was supplied"
  | .unexpectedValue option => "error: unexpected value for '--" ++ option ++ "' found"
  | .repeated option => "error: the argument '--" ++ option ++ "' cannot be used multiple times"
  | .help => ""
  | .version => ""

end CommandLine

end PluginHost
