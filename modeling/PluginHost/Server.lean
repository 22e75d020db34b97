import PluginHost.Application.RunLoop
import PluginHost.Config.Overrides
import PluginHost.Heartbeat.Monitor
import PluginHost.Logging

set_option autoImplicit false

namespace PluginHost.Server

/-- The plugin types that come with the server, in the order in which they are registered. -/
def pluginTypes : Catalogue := [Heartbeat.type, Monitor.type]

/-- Registers a type for all applications of the process, unless it is registered. -/
def registerType (type : String) (registered : List String) (h : Host) : List String × Host :=
  if registered.contains type then (registered, h)
  else
    (registered ++ [type], h.tell .registrations .debug "Plugin registered process-wide"
      [("plugin", .text (shortTypeName type))])

def registerTypes : List String → List String → Host → List String × Host
  | [], registered, h => (registered, h)
  | type :: rest, registered, h =>
    let (registered, h) := registerType type registered h
    registerTypes rest registered h

/-- A fresh application for a process that has registered some types so far. -/
def open_ (config : Config) (registered : List String) (cues : List Cue) : Application :=
  let h : Host := Host.tell {} .server .info ("Starting hostkit v" ++ CommandLine.release) []
  let (registered, h) := registerTypes (pluginTypes.map PluginType.name) registered h
  .new config pluginTypes registered (Application.eventHost h.journal cues)

/-- Brings the application up as far as its run loop. -/
def bringUp (dispatch : Dispatch) : Act Application (Except Failure Unit) := do
  match ← Application.setUpFromConfig dispatch with
  | .error e => pure (.error e)
  | .ok _ =>
    match ← Application.onHost (Act.step Application.installSignals) with
    | .error e => pure (.error e)
    | .ok _ =>
      match ← Application.start dispatch with
      | .error e => pure (.error e)
      | .ok _ =>
        let running ← Act.look fun a => a.lifecycle.runningNames
        Application.onHost (Act.modify fun h => h.tell .server .info "Hostkit running"
          [("plugins", .text (Text.quotedList running))])
        pure (.ok ())

/-- What is done after the run loop has ended in some way. -/
def finish (result : Except Failure Unit) : Act Application (Except Failure Unit) := do
  match result with
  | .error e => pure (.error e)
  | .ok _ =>
    Application.onHost (Act.modify fun h => h.tell .server .info "Hostkit stopped" [])
    pure (.ok ())

def runThrough (dispatch : Dispatch) (patience : Nat) : Act Application (Except Failure Unit) := do
  match ← bringUp dispatch with
  | .error e => pure (.error e)
  | .ok _ =>
    let result ← Application.run dispatch patience
    finish result

/-- Lists the options of plugins, or runs the application; either way it is dropped in the end. -/
def serve (dispatch : Dispatch) (patience : Nat) (listing : Bool) :
    Act Application (Except Failure (Option String)) := do
  let result ←
    if listing then do
      let text ← Application.defaultListing
      pure (.ok (some text))
    else do
      let result ← runThrough dispatch patience
      pure (result.map fun _ => none)
  Application.drop dispatch
  pure result

/-- The event that reports how a server ended. -/
def failureEvent (e : Failure) : Event :=
  Origin.server.event .error ("Server error: " ++ e.display) []

end PluginHost.Server
