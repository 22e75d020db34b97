import PluginHost.Code.Run
import PluginHost.Plugin.Registry

/-!
Bringing plugins up, each after what it depends on, and tearing them down in the reverse order. A
plugin moves to its next state before its dependencies are visited, so that each step of its life
happens once; the orders list the plugins that got through setting up, and those that began to
start.
-/

set_option autoImplicit false

namespace PluginHost

/-- The registry and the orders in which plugins came up, by their indices. -/
structure Lifecycle where
  registry : Registry := {}
  initialized : List Nat := []
  running : List Nat := []

/-- The calls that a plugin gets. -/
inductive Hook where
  | setUp
  | start
  | stop
  | reload
deriving DecidableEq, Repr

/-- Where a call of a plugin begins, and where it ends with or without success. A plugin is known
by the number it got when it was registered. -/
inductive Call where
  | entered (plugin : Nat) (hook : Hook)
  | left (plugin : Nat) (hook : Hook) (succeeded : Bool)
deriving DecidableEq, Repr

/-- Plugins together with the host they live in, and a record of all calls that plugins got, the
oldest first. Code reaches the host alone, so nothing else writes in the record. -/
structure Ensemble where
  lifecycle : Lifecycle := {}
  host : Host := {}
  calls : List Call := []

namespace Lifecycle

def initializedNames (l : Lifecycle) : List String := l.initialized.map l.registry.nameAt

def runningNames (l : Lifecycle) : List String := l.running.map l.registry.nameAt

/-- Whether any plugin began to start and was not torn down. -/
def hasRunning (l : Lifecycle) : Bool := !l.running.isEmpty

def setState (l : Lifecycle) (index : Nat) (state : PluginState) : Lifecycle :=
  { l with registry := l.registry.setState index state }

def stateAt (l : Lifecycle) (index : Nat) : Option PluginState :=
  l.registry.slots[index]?.map Slot.state

/-- A plugin that was entered but did not get through: it stands on the path to itself. -/
def isPending (l : Lifecycle) (index : Nat) : Bool :=
  l.stateAt index = some .initialized && !l.initialized.contains index

end Lifecycle

namespace Hook

/-- How a call is named when it panics. -/
def word : Hook → String
  | setUp => "initialize"
  | start => "startup"
  | stop => "shutdown"
  | reload => "handle_sighup"

end Hook

namespace Ensemble

/-- A step on the host alone. -/
def onHost {α : Type} (act : Act Host α) : Act Ensemble α :=
  Act.within Ensemble.host (fun host e => { e with host := host }) act

def changeLifecycle (f : Lifecycle → Lifecycle) : Act Ensemble Unit :=
  Act.modify fun e => { e with lifecycle := f e.lifecycle }

def tell (origin : Origin) (level : Level) (message : String)
    (fields : List (String × FieldValue)) : Act Ensemble Unit :=
  onHost (Act.modify fun h => h.tell origin level message fields)

def record (call : Call) : Act Ensemble Unit :=
  Act.modify fun e => { e with calls := e.calls ++ [call] }

/-- Calls a plugin, turning a panic into a failure. -/
def invoke (dispatch : Dispatch) (slot : Slot) (hook : Hook) (code : Code) :
    Act Ensemble (Except Failure Json) := do
  record (.entered slot.serial hook)
  let result ← onHost
    (Act.guarded ("plugin '" ++ slot.plugin.name ++ "' " ++ hook.word) (dispatch code))
  record (.left slot.serial hook result.toBool)
  pure result

/-- A step on the registry and the host. -/
def onRegistry {α : Type} (f : Registry × Host → α × Registry × Host) : Act Ensemble α :=
  Act.step fun e =>
    let (answer, registry, host) := f (e.lifecycle.registry, e.host)
    (answer, { e with lifecycle := { e.lifecycle with registry := registry }, host := host })

def register (catalogue : Catalogue) (plugin : Plugin) : Act Ensemble Bool :=
  onRegistry (Registry.register catalogue plugin)

def registerType (catalogue : Catalogue) (type : String) : Act Ensemble Bool :=
  onRegistry (Registry.registerType catalogue type)

/-- Drops every plugin. -/
def clearRegistry : Act Ensemble Unit :=
  Act.modify fun e =>
    { e with
      lifecycle := { e.lifecycle with registry := e.lifecycle.registry.clear }
      host := e.lifecycle.registry.release e.host }

/-- Sets up what the plugin at an index depends on. -/
def setUpDependencies (setUp : Nat → Act Ensemble (Except Failure Unit)) (index : Nat) :
    List Nat → Act Ensemble (Except Failure Unit)
  | [] => pure (.ok ())
  | dependency :: rest => do
    let l ← Act.look Ensemble.lifecycle
    if l.isPending dependency then
      pure (.error (.dependencyCycle (l.registry.nameAt index) (l.registry.nameAt dependency)))
    else
      match ← setUp dependency with
      | .ok _ => setUpDependencies setUp index rest
      | .error e => pure (.error e)

/-- Calls a plugin to set itself up; one that succeeds joins the order. -/
def callSetUp (dispatch : Dispatch) (options : Options) (slot : Slot) (index : Nat) :
    Act Ensemble (Except Failure Unit) := do
  tell .lifecycle .info "Initializing plugin" [("plugin", .text slot.plugin.name)]
  match ← invoke dispatch slot .setUp (slot.plugin.setUp options) with
  | .error e =>
    tell .lifecycle .error "Plugin initialization failed"
      [("plugin", .text slot.plugin.name), ("error", .text e.display)]
    pure (.error e)
  | .ok _ =>
    changeLifecycle fun l => { l with initialized := l.initialized ++ [index] }
    pure (.ok ())

/-- Sets up the plugin at an index after what it depends on. -/
def setUpAt (dispatch : Dispatch) (options : Options) :
    Nat → Nat → Act Ensemble (Except Failure Unit)
  | 0, _ => Act.stall
  | depth + 1, index => do
    match ← Act.look fun e => e.lifecycle.registry.slots[index]? with
    | none => pure (.ok ())
    | some slot =>
      if slot.state = .registered then
        changeLifecycle fun l => l.setState index .initialized
        match ← Act.look fun e => e.lifecycle.registry.dependencies e.host index with
        | .error e => pure (.error e)
        | .ok needed =>
          match ← setUpDependencies (setUpAt dispatch options depth) index needed with
          | .error e => pure (.error e)
          | .ok _ => callSetUp dispatch options slot index
      else pure (.ok ())

/-- How deep plugins can depend on each other. -/
def depth (e : Ensemble) : Nat := e.lifecycle.registry.slots.length + 1

/-- Sets up the plugin of a name after what it depends on. -/
def setUp (dispatch : Dispatch) (name : String) (options : Options) :
    Act Ensemble (Except Failure Unit) := do
  let e ← Act.get
  match e.lifecycle.registry.resolve name with
  | .error failure => pure (.error failure)
  | .ok index => setUpAt dispatch options e.depth index

/-- Does something at each index until it fails. -/
def forEach (act : Nat → Act Ensemble (Except Failure Unit)) :
    List Nat → Act Ensemble (Except Failure Unit)
  | [] => pure (.ok ())
  | index :: rest => do
    match ← act index with
    | .ok _ => forEach act rest
    | .error e => pure (.error e)

/-- Calls a plugin to start. It counts as running from now on, whatever comes of the call. -/
def callStart (dispatch : Dispatch) (slot : Slot) (index : Nat) :
    Act Ensemble (Except Failure Unit) := do
  changeLifecycle fun l => { l with running := l.running ++ [index] }
  tell .lifecycle .info "Starting plugin" [("plugin", .text slot.plugin.name)]
  match ← invoke dispatch slot .start slot.plugin.start with
  | .error e =>
    tell .lifecycle .error "Plugin startup failed"
      [("plugin", .text slot.plugin.name), ("error", .text e.display)]
    pure (.error e)
  | .ok _ => pure (.ok ())

/-- Starts the plugin at an index after what it depends on. -/
def startAt (dispatch : Dispatch) : Nat → Nat → Act Ensemble (Except Failure Unit)
  | 0, _ => Act.stall
  | depth + 1, index => do
    match ← Act.look fun e => e.lifecycle.registry.slots[index]? with
    | none => pure (.ok ())
    | some slot =>
      if slot.state = .initialized then
        changeLifecycle fun l => l.setState index .started
        match ← Act.look fun e => e.lifecycle.registry.dependencies e.host index with
        | .error e => pure (.error e)
        | .ok needed =>
          match ← forEach (startAt dispatch depth) needed with
          | .error e => pure (.error e)
          | .ok _ => callStart dispatch slot index
      else pure (.ok ())

/-- Starts every plugin that is set up, until one fails. -/
def start (dispatch : Dispatch) : Act Ensemble (Except Failure Unit) := do
  let e ← Act.get
  forEach (startAt dispatch e.depth) e.lifecycle.initialized

/-- Stops the plugin at an index, if it is started. -/
def stopAt (dispatch : Dispatch) (index : Nat) : Act Ensemble (Except Failure Unit) := do
  match ← Act.look fun e => e.lifecycle.registry.slots[index]? with
  | none => pure (.ok ())
  | some slot =>
    if slot.state = .started then
      changeLifecycle fun l => l.setState index .stopped
      tell .lifecycle .info "Shutting down plugin" [("plugin", .text slot.plugin.name)]
      match ← invoke dispatch slot .stop slot.plugin.stop with
      | .error e =>
        tell .lifecycle .error "Plugin shutdown failed"
          [("plugin", .text slot.plugin.name), ("error", .text e.display)]
        pure (.error e)
      | .ok _ => pure (.ok ())
    else pure (.ok ())

/-- Stops the plugins at some indices, all of them; the first failure is the answer. -/
def stopAll (dispatch : Dispatch) : List Nat → Act Ensemble (Except Failure Unit)
  | [] => pure (.ok ())
  | index :: rest => do
    let first ← stopAt dispatch index
    let later ← stopAll dispatch rest
    pure (match first with
      | .error e => .error e
      | .ok _ => later)

/-- Stops what runs in the reverse order of starting and forgets every plugin. -/
def stop (dispatch : Dispatch) : Act Ensemble (Except Failure Unit) := do
  let order ← Act.look fun e => e.lifecycle.running
  changeLifecycle fun l => { l with running := [] }
  let result ← stopAll dispatch order.reverse
  changeLifecycle fun l => { l with initialized := [] }
  clearRegistry
  pure result

/-- Asks the plugins at some indices to reload, until somebody asks to quit. -/
def reloadAll (dispatch : Dispatch) : List Nat → Act Ensemble Unit
  | [] => pure ()
  | index :: rest => do
    let e ← Act.get
    if e.host.control.quitting then pure ()
    else
      match e.lifecycle.registry.slots[index]? with
      | none => reloadAll dispatch rest
      | some slot =>
        if slot.state = .registered then reloadAll dispatch rest
        else
          match ← invoke dispatch slot .reload slot.plugin.reload with
          | .error failure =>
            tell .lifecycle .warn "Plugin SIGHUP handler failed"
              [("plugin", .text slot.plugin.name), ("error", .text failure.display)]
            reloadAll dispatch rest
          | .ok _ => reloadAll dispatch rest

/-- Asks every plugin that is set up to reload. -/
def reload (dispatch : Dispatch) : Act Ensemble Unit := do
  let order ← Act.look fun e => e.lifecycle.initialized
  reloadAll dispatch order

end Ensemble

end PluginHost
