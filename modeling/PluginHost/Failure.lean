import PluginHost.Json.ReadError

set_option autoImplicit false

namespace PluginHost

/-- What went wrong, independent of where. -/
inductive FailureKind where
  | notFound
  | validation
  | configuration
  | conflict
  | plugin
  | task
  | panic
  | serialization
  | internal
deriving DecidableEq, Repr

namespace FailureKind

def code : FailureKind → String
  | notFound => "NOT_FOUND"
  | validation => "VALIDATION"
  | configuration => "CONFIGURATION"
  | conflict => "CONFLICT"
  | plugin => "PLUGIN"
  | task => "TASK"
  | panic => "PANIC"
  | serialization => "SERIALIZATION"
  | internal => "INTERNAL"

def name : FailureKind → String
  | notFound => "NotFound"
  | validation => "Validation"
  | configuration => "Configuration"
  | conflict => "Conflict"
  | plugin => "Plugin"
  | task => "Task"
  | panic => "Panic"
  | serialization => "Serialization"
  | internal => "Internal"

def all : List FailureKind :=
  [notFound, validation, configuration, conflict, plugin, task, panic, serialization, internal]

end FailureKind

/-- A failure: its kind, a message for operators, and the text of its cause if it has one. -/
structure Failure where
  kind : FailureKind
  message : String
  cause : Option String
deriving DecidableEq, Repr

/-- What unwinding code leaves behind. -/
inductive PanicPayload where
  | text (message : String)
  | opaqueValue
deriving DecidableEq, Repr

namespace PanicPayload

def describe : PanicPayload → String
  | text message => message
  | opaqueValue => "non-string panic payload"

end PanicPayload

namespace Failure

def new (kind : FailureKind) (message : String) : Failure := ⟨kind, message, none⟩

/-- One line: the code and the message. -/
def display (f : Failure) : String := f.kind.code ++ ": " ++ f.message

/-- A copy does not carry the cause. -/
def copy (f : Failure) : Failure := { f with cause := none }

def isPanic (f : Failure) : Bool := f.kind = .panic

/-- A failure whose cause is another one. -/
def wrapping (kind : FailureKind) (message : String) (inner : Failure) : Failure :=
  ⟨kind, message, some inner.display⟩

/-- Code that unwound while `origin` was running. -/
def panicked (origin : String) (payload : PanicPayload) : Failure :=
  new .panic (origin ++ " panicked: " ++ payload.describe)

def unreadableJson (e : ReadError) : Failure :=
  ⟨.serialization, "Invalid JSON value: " ++ e.message, some e.message⟩

def optionNotSet (key : String) : Failure := new .notFound ("Option '" ++ key ++ "' is not set")

def optionMistyped (key : String) (e : ReadError) : Failure :=
  ⟨.validation, "Option '" ++ key ++ "' has an unexpected type: " ++ e.message, some e.message⟩

def malformedOverride (text : String) : Failure :=
  new .validation ("Option '" ++ text ++ "' must look like name=value")

def unreadableConfiguration (directory cause : String) : Failure :=
  ⟨.configuration, "Cannot read configuration from " ++ directory ++ ": " ++ cause, some cause⟩

def invalidConfiguration (cause : String) : Failure :=
  ⟨.configuration, "Invalid configuration: " ++ cause, some cause⟩

def unregisteredQueue (queue : Nat) : Failure :=
  new .notFound ("Cannot post to unregistered queue#" ++ toString queue)

def reactorNotBuilt (cause : String) : Failure :=
  ⟨.internal, "Failed to build reactor runtime: " ++ cause, some cause⟩

def noSpawner : Failure := new .configuration "No reactor runtime available to spawn on"

def noSignalReactor : Failure := new .configuration "No reactor runtime to listen for signals on"

def pluginNotFound (name : String) : Failure :=
  new .notFound ("Unable to find plugin '" ++ name ++ "'")

def dependencyMissing (plugin dependency : String) : Failure :=
  new .notFound ("Plugin '" ++ plugin ++ "' requires '" ++ dependency ++ "', which is not registered")

def dependencyCycle (plugin dependency : String) : Failure :=
  new .validation ("Dependency cycle between '" ++ plugin ++ "' and '" ++ dependency ++ "'")

def unexpectedType (type : String) : Failure :=
  new .internal ("Shared entry for '" ++ type ++ "' holds an unexpected type")

def noProvider (method : String) : Failure :=
  new .notFound ("No provider for method '" ++ method ++ "'")

def scopeTaken : Failure :=
  new .conflict "Another scoped application is still alive in this process"

/-- Output that was cut short. -/
def listingNotWritten : Failure :=
  let cause := "failed to write whole buffer"
  ⟨.internal, "Failed to write default config: " ++ cause, some cause⟩

end Failure

end PluginHost
