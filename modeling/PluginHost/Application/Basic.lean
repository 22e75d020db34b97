import PluginHost.Config.Basic
import PluginHost.Plugin.Lifecycle
import PluginHost.Reactor.Run

set_option autoImplicit false

namespace PluginHost

/-- An application. The catalogue holds the plugin types that there are, and `registered` names
those that every application gets, in order; they are applied when options are first asked for. -/
structure Application where
  config : Config := {}
  catalogue : Catalogue := []
  registered : List String := []
  ensemble : Ensemble := {}
  options : Options := .empty
  registeredApplied : Bool := false
  reloadCallback : Option Code := none

namespace Application

/-- A step on the plugins and the host. -/
def onEnsemble {α : Type} (act : Act Ensemble α) : Act Application α :=
  Act.within Application.ensemble (fun ensemble a => { a with ensemble := ensemble }) act

/-- A step on the host alone. -/
def onHost {α : Type} (act : Act Host α) : Act Application α := onEnsemble (Ensemble.onHost act)

def tell (level : Level) (message : String) (fields : List (String × FieldValue)) :
    Act Application Unit :=
  onHost (Act.modify fun h => h.tell .application level message fields)

def lifecycle (a : Application) : Lifecycle := a.ensemble.lifecycle

def host (a : Application) : Host := a.ensemble.host

def addQueues : Nat → Host → Host
  | 0, h => h
  | n + 1, h => addQueues n h.addQueue

/-- The host of a fresh application, over a host that has nothing but a journal and a reactor. -/
def openHost (config : Config) (h : Host) : Host :=
  let h := addQueues config.executor.extraQueues h
  let h := h.setPolicy config.executor.policy.policy
  h.tell .application .debug "Application created"
    [("queues", .number h.executor.queues.size),
      ("policy", .text config.executor.policy.policy.describe)]

def new (config : Config) (catalogue : Catalogue) (registered : List String) (h : Host) :
    Application :=
  { config := config
    catalogue := catalogue
    registered := registered
    ensemble := { host := openHost config h } }

/-- A host with a journal so far and a fresh reactor of events. -/
def eventHost (journal : Journal) (cues : List Cue) : Host :=
  { journal := journal, reactor := .events { cues := cues } : Host }.tell .reactor .debug
    "Reactor runtime created" []

def register (plugin : Plugin) : Act Application Bool := do
  let catalogue ← Act.look Application.catalogue
  onEnsemble (Ensemble.register catalogue plugin)

def registerType (type : String) : Act Application Bool := do
  let catalogue ← Act.look Application.catalogue
  onEnsemble (Ensemble.registerType catalogue type)

def registerTypes : List String → Act Application Unit
  | [] => pure ()
  | type :: rest => do
    let _ ← registerType type
    registerTypes rest

/-- Registers what every application gets, once. -/
def applyRegistered : Act Application Unit := do
  let a ← Act.get
  if a.registeredApplied then pure ()
  else
    registerTypes a.registered
    Act.modify fun a => { a with registeredApplied := true }

/-- Reports declarations that came too late. -/
def reportRepeated : List RepeatedDeclaration → Host → Host
  | [], h => h
  | r :: rest, h =>
    reportRepeated rest (h.tell .options .warn "Option declared twice, keeping first declaration"
      [("option", .text r.option), ("owner", .text (Text.quotedOption r.owner))])

/-- Every option that a registered plugin declares. -/
def optionsSchema : Act Application Schema := do
  applyRegistered
  let (schema, repeated) ← Act.look fun a => a.lifecycle.registry.declareOptions .empty
  onHost (Act.modify (reportRepeated repeated))
  pure schema

def defaultListing : Act Application String := do
  let schema ← optionsSchema
  pure schema.render

/-- Reports option names. -/
def warnOptions (message : String) : List String → Act Application Unit
  | [] => pure ()
  | name :: rest => do
    tell .warn message [("option", .text name)]
    warnOptions message rest

/-- Sets up plugins by name, until one fails. -/
def setUpAll (dispatch : Dispatch) (options : Options) :
    List String → Act Application (Except Failure Unit)
  | [] => pure (.ok ())
  | name :: rest => do
    match ← onEnsemble (Ensemble.setUp dispatch name options) with
    | .ok _ => setUpAll dispatch options rest
    | .error e =>
      tell .error "Failed to initialize" [("plugin", .text name), ("error", .text e.display)]
      pure (.error e)

/-- Sets up plugins by name and what they depend on, with the defaults of options filled in. -/
def setUp (dispatch : Dispatch) (names : List String) (options : Options) :
    Act Application (Except Failure Unit) := do
  let schema ← optionsSchema
  warnOptions "Option is explicitly set to its default value" (schema.redundantDefaults options)
  warnOptions "Option is not declared by any plugin" (schema.undeclared options)
  let merged := schema.applyDefaults options
  Act.modify fun a => { a with options := merged }
  match ← setUpAll dispatch merged names with
  | .error e => pure (.error e)
  | .ok _ =>
    let l ← Act.look Application.lifecycle
    tell .info "Plugins initialized" [("plugins", .text (Text.quotedList l.initializedNames))]
    pure (.ok ())

/-- Sets up the plugins that the configuration names, with its options. -/
def setUpFromConfig (dispatch : Dispatch) : Act Application (Except Failure Unit) := do
  let config ← Act.look Application.config
  setUp dispatch config.plugins.enabled config.options

/-- Stops running plugins and forgets all of them; the application is left quitting. -/
def shutDown (dispatch : Dispatch) : Act Application (Except Failure Unit) := do
  let result ← onEnsemble (Ensemble.stop dispatch)
  onHost (Act.modify Host.clearShared)
  onHost (Act.modify Host.quit)
  match result with
  | .ok _ => tell .info "Shutdown complete" []
  | .error _ => pure ()
  pure result

/-- Starts every plugin that is set up. If one fails, whatever was started is shut down. -/
def start (dispatch : Dispatch) : Act Application (Except Failure Unit) := do
  match ← onEnsemble (Ensemble.start dispatch) with
  | .ok _ =>
    let l ← Act.look Application.lifecycle
    tell .info "Plugins started" [("plugins", .text (Text.quotedList l.runningNames))]
    pure (.ok ())
  | .error e =>
    tell .error "Startup failed, shutting down" [("error", .text e.display)]
    match ← shutDown dispatch with
    | .ok _ => pure ()
    | .error later =>
      tell .error "Shutdown after failed startup also failed" [("error", .text later.display)]
    pure (.error e)

/-- Asks the plugins to reload, after the callback of the application. -/
def dispatchReload (dispatch : Dispatch) : Act Application Unit := do
  tell .info "SIGHUP received" []
  match ← Act.look Application.reloadCallback with
  | none => pure ()
  | some callback =>
    let _ ← onHost (dispatch callback)
    pure ()
  onEnsemble (Ensemble.reload dispatch)

/-- What is done when the application is dropped: running plugins are shut down. -/
def drop (dispatch : Dispatch) : Act Application Unit := do
  if ← Act.look fun a => a.lifecycle.hasRunning then
    tell .warn "Application dropped with running plugins, shutting down" []
    match ← shutDown dispatch with
    | .ok _ => pure ()
    | .error e => tell .error "Shutdown on drop failed" [("error", .text e.display)]
  onHost (Act.modify Host.clear)
  onHost (Act.modify Host.clearShared)

/-- Listens for signals of the process, if there is a reactor to do so on. -/
def installSignals (h : Host) : Except Failure Unit × Host :=
  match h.listen with
  | (true, h) => (.ok (), h)
  | (false, h) => (.error .noSignalReactor, h)

/-- How an application describes itself. -/
def describe (a : Application) : String :=
  "Application \x7b plugins: " ++ toString a.lifecycle.registry.slots.length ++ ", running: "
    ++ Text.quotedList a.lifecycle.runningNames ++ ", quitting: "
    ++ toString a.host.control.quitting ++ " \x7d"

end Application

/-- How the context of plugins describes itself. -/
def describeContext (quitting : Bool) : String :=
  "PluginContext \x7b quitting: " ++ toString quitting ++ " \x7d"

end PluginHost
