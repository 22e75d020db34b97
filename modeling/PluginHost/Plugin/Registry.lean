import PluginHost.Plugin.Basic

set_option autoImplicit false

namespace PluginHost

/-- How far a plugin has come. It never goes back. -/
inductive PluginState where
  | registered
  | initialized
  | started
  | stopped
deriving DecidableEq, Repr

namespace PluginState

def name : PluginState → String
  | registered => "registered"
  | initialized => "initialized"
  | started => "started"
  | stopped => "stopped"

def title : PluginState → String
  | registered => "Registered"
  | initialized => "Initialized"
  | started => "Started"
  | stopped => "Stopped"

def rank : PluginState → Nat
  | registered => 0
  | initialized => 1
  | started => 2
  | stopped => 3

def all : List PluginState := [registered, initialized, started, stopped]

end PluginState

/-- A registered plugin, the number it got, and how far it has come. -/
structure Slot where
  serial : Nat
  plugin : Plugin
  state : PluginState

/-- Slots in the order of registration, the index of every name, and how many plugins were ever
registered. -/
structure Registry where
  slots : List Slot := []
  byName : Members Nat := []
  issued : Nat := 0

namespace Registry

def indexOf (r : Registry) (name : String) : Option Nat := r.byName.find? name

/-- The first plugin of a type. -/
def indexOfType (r : Registry) (type : String) : Option Nat :=
  r.slots.findIdx? fun slot => slot.plugin.type = type

def resolve (r : Registry) (name : String) : Except Failure Nat :=
  match r.indexOf name with
  | some index => .ok index
  | none => .error (.pluginNotFound name)

def stateOf (r : Registry) (name : String) : Option PluginState :=
  (r.indexOf name).bind fun index => r.slots[index]?.map Slot.state

def find? (r : Registry) (type : String) : Option Plugin :=
  (r.slots.find? fun slot => slot.plugin.type = type).map Slot.plugin

/-- The name of the plugin at an index. -/
def nameAt (r : Registry) (index : Nat) : String :=
  (r.slots[index]?.map fun slot => slot.plugin.name).getD ""

def typeAt (r : Registry) (index : Nat) : Option String :=
  r.slots[index]?.map fun slot => slot.plugin.type

/-- Where a dependency is met. -/
def locate (r : Registry) : Dependency → Option Nat
  | .typed type => r.indexOfType type
  | .named name => r.indexOf name

/-- The indices that meet dependencies, or the first one that nobody meets. -/
def locateAll (r : Registry) (plugin : String) : List Dependency → Except Failure (List Nat)
  | [] => .ok []
  | d :: rest =>
    match r.locate d with
    | none => .error (.dependencyMissing plugin d.name)
    | some index =>
      match r.locateAll plugin rest with
      | .ok indices => .ok (index :: indices)
      | .error e => .error e

/-- The indices of what the plugin at an index needs at the moment. -/
def dependencies (r : Registry) (h : Host) (index : Nat) : Except Failure (List Nat) :=
  match r.slots[index]? with
  | none => .ok []
  | some slot => r.locateAll slot.plugin.name (slot.plugin.requires h)

/-- Adds a plugin at the end. -/
def push (r : Registry) (plugin : Plugin) : Registry where
  slots := r.slots ++ [⟨r.issued, plugin, .registered⟩]
  byName := r.byName.insert plugin.name r.slots.length
  issued := r.issued + 1

def setState (r : Registry) (index : Nat) (state : PluginState) : Registry :=
  { r with slots := r.slots.modify index fun slot => { slot with state := state } }

/-- Drops every plugin. -/
def clear (r : Registry) : Registry := { r with slots := [], byName := [] }

/-- What is let go of when every plugin is dropped. -/
def release (r : Registry) (h : Host) : Host :=
  r.slots.foldl (fun h slot => slot.plugin.release h) h

/-- Registers what a plugin depends on by type. -/
def registerDependencies (registerType : String → Registry × Host → Bool × Registry × Host) :
    List Dependency → Registry × Host → Registry × Host
  | [], s => s
  | .named _ :: rest, s => registerDependencies registerType rest s
  | .typed type :: rest, s =>
    match registerType type s with
    | (true, r, h) =>
      registerDependencies registerType rest
        (r, h.tell .registry .debug "Registered plugin dependency"
          [("dependency", .text (shortTypeName type))])
    | (false, s) => registerDependencies registerType rest s

/-- Registers a plugin and the types it depends on. The answer says whether its name was free. -/
def registerWith (registerType : String → Registry × Host → Bool × Registry × Host)
    (plugin : Plugin) (s : Registry × Host) : Bool × Registry × Host :=
  let (r, h) := s
  match r.indexOf plugin.name with
  | some index =>
    if r.typeAt index = some plugin.type then (false, r, h)
    else
      (false, r, h.tell .registry .warn
        "Another plugin type is already registered under this name" [("plugin", .text plugin.name)])
  | none =>
    let needed := plugin.requires h
    let told := h.tell .registry .info "Registering plugin" [("plugin", .text plugin.name)]
    (true, registerDependencies registerType needed (r.push plugin, told))

/-- Registers a fresh plugin of a type, unless there is one of that type. Types whose plugins need
each other go no deeper than there are types. -/
def registerTypeWithin (catalogue : Catalogue) :
    Nat → String → Registry × Host → Bool × Registry × Host
  | 0, _, s => (false, s)
  | depth + 1, type, (r, h) =>
    if (r.indexOfType type).isSome then (false, r, h)
    else
      match catalogue.find? type with
      | none => (false, r, h)
      | some t =>
        let (plugin, h) := t.create h
        registerWith (registerTypeWithin catalogue depth) plugin (r, h)

/-- Registers a fresh plugin of a type, unless there is one of that type. -/
def registerType (catalogue : Catalogue) (type : String) (s : Registry × Host) :
    Bool × Registry × Host :=
  registerTypeWithin catalogue (catalogue.length + 1) type s

/-- Registers a plugin. -/
def register (catalogue : Catalogue) (plugin : Plugin) (s : Registry × Host) :
    Bool × Registry × Host :=
  registerWith (registerType catalogue) plugin s

/-- The options that every plugin declares, and the declarations that came too late. -/
def declareOptions (r : Registry) (schema : Schema) : Schema × List RepeatedDeclaration :=
  let declared := r.slots.foldl (fun (schema, repeated) slot =>
    let (schema, later) := (schema.setOwner (some slot.plugin.name)).declareAll slot.plugin.options
    (schema, repeated ++ later)) (schema, [])
  (declared.1.setOwner none, declared.2)

end Registry

end PluginHost
