import PluginHost.Application.Basic
import PluginHost.Heartbeat.Heartbeat
import PluginHost.Script.Basic

set_option autoImplicit false

namespace PluginHost.Script

/-- A step that cannot fail and has nothing to tell. -/
def quietly (steps : Steps Unit) : Action := fun _ => do
  steps
  pure (.ok .null)

/-- A step that cannot fail. -/
def telling (steps : Steps Json) : Action := fun _ => do
  let value ← steps
  pure (.ok value)

/-- A step that may fail and has nothing to tell. -/
def trying (steps : Steps (Except Failure Unit)) : Action := fun _ => do
  let result ← steps
  pure (result.map fun _ => .null)

def optionalInt : Option Int → Json
  | some n => .int n
  | none => .null

def optionalNat : Option Nat → Json
  | some n => .int n
  | none => .null

def note (text : String) : Action := quietly (Steps.note text)

def showData : Action := fun scene => quietly (Steps.note ("data " ++ scene.data.render)) scene

def fail (failure : Failure) : Action := fun _ => pure (.error failure)

/-- Fails if the data is a given value. -/
def failIf (value : Json) (failure : Failure) : Action := fun scene =>
  pure (if Json.same scene.data value then .error failure else .ok .null)

def panic (payload : PanicPayload) : Action := fun _ => Steps.panic payload

def attempt (origin : String) (body : List Line) : Action := fun scene => do
  let result ← Steps.attempt origin (code body scene)
  pure (result.map fun _ => .null)

/-- The value of an option, as a type reads it. -/
def readOption (key : String) (normal : Json → Except ReadFault Json) : Action := fun scene =>
  pure (scene.options.readWith normal key)

def post (priority : Int) (queue : Nat) (body : List Line) : Action :=
  trying (Steps.post priority queue (code body {}))

def keep (slot : String) (priority : Int) (queue : Nat) (body : List Line) : Action :=
  quietly (Steps.keep slot priority queue (code body {}))

def invoke (slot : String) : Action := trying do
  match ← Steps.invoke slot with
  | some result => pure result
  | none => pure (.ok ())

def execute : Action := fun _ => do
  let result ← Steps.execute
  pure (result.map Json.bool)

/-- Runs tasks until there is nothing more to do. -/
def drain (patience : Nat) : Action := fun _ => do
  let result ← Steps.drain patience 0
  pure (result.map fun count => .int count)

def clear : Action := quietly (Steps.ask .clear)

def addQueue : Action := telling do
  let number ← Steps.addQueue
  pure (.int number)

def setPolicy (policy : Policy) : Action := telling do
  Steps.ask (.setPolicy policy)
  pure (.string policy.describe)

/-- How many tasks a queue holds, whether it is empty, the priority of its next task, how many
tasks there are in all queues, and how many queues. -/
def inspect (queue : Nat) : Action := telling do
  let views ← Steps.queues
  pure (.array [.int (QueueViews.size views queue), .bool (QueueViews.size views queue = 0),
    optionalInt ((QueueViews.top views queue).map Task.Key.priority),
    .int (QueueViews.total views), .int views.length])

def lessThan (a b : Nat) : Action := telling do
  let views ← Steps.queues
  pure (.bool (QueueViews.lessThan views a b))

def quit : Action := quietly Steps.quit

def isQuitting : Action := telling do
  let quitting ← Steps.quitting
  pure (.array [.bool quitting, .bool quitting])

def requestReload : Action := quietly (Steps.ask .requestReload)

def takeReload : Action := telling do
  let pending ← Steps.takeReload
  pure (.bool pending)

def wake : Action := quietly (Steps.ask .wake)

def showContext : Action := telling do
  let quitting ← Steps.quitting
  pure (.string (describeContext quitting))

def canSpawn : Action := telling do
  let can ← Steps.canSpawn
  pure (.bool can)

/-- The slot of a subscription or a method among all that is remembered. -/
def slotKey (what slot : String) : String := what ++ " " ++ slot

/-- Subscribes a script that sees a part of each message. -/
def subscribe (kind : ChannelKind) (view : Json → Json) (slot : String) (body : List Line) :
    Action := telling do
  let channel ← Steps.channel kind
  let number ← Steps.subscribe channel fun message => code body { data := view message }
  Steps.remember (slotKey "subscription" slot) (.array [.int channel, .int number])
  pure (.string ("SubscriptionId(" ++ toString number ++ ")"))

def unsubscribe (slot : String) : Action := telling do
  match ← Steps.remembered (slotKey "subscription" slot) with
  | some (.array [.int channel, .int number]) =>
    let found ← Steps.unsubscribe channel.toNat number.toNat
    pure (.bool found)
  | _ => pure (.bool false)

def publish (kind : ChannelKind) (message : Json) : Action := trying do
  let channel ← Steps.channel kind
  Steps.publish kind channel message

def describeChannel (kind : ChannelKind) : Action := telling do
  let channel ← Steps.channel kind
  let count ← Steps.subscribers channel
  pure (.object [("debug", .string (Channel.description kind.name count)),
    ("listening", .bool (count ≠ 0)), ("shared", .bool true)])

def provide (name : String) (priority : Int) (body : List Line) (value : Json) : Action :=
  telling do
    let method ← Steps.method name
    let count ← Steps.provide method priority fun argument =>
      answering body { data := argument } value
    pure (.int count)

def call (name : String) (argument : Json) : Action := fun _ => do
  let method ← Steps.method name
  Steps.call method argument

/-- Keeps a method in a slot. -/
def hold (name slot : String) : Action := telling do
  let method ← Steps.method name
  Steps.remember (slotKey "method" slot) (.int method)
  let count ← Steps.providers method
  pure (.string (Method.description name count))

def callHeld (slot : String) (argument : Json) : Action := fun _ => do
  match ← Steps.remembered (slotKey "method" slot) with
  | some (.int method) => Steps.call method.toNat argument
  | _ => pure (.ok .null)

def sharedCount : Action := telling do
  let count ← Steps.sharedCount
  pure (.array [.int count, .bool (count = 0)])

def clearShared : Action := quietly (Steps.ask .clearShared)

/-- Adds one to a shared counter. -/
def tally (kind : String) (start : Int) : Action := telling do
  let (existed, cell) ← Steps.shared kind (.int start)
  let value ← Steps.read cell
  let next := match value with
    | .int n => n + 1
    | _ => 1
  Steps.write cell (.int next)
  pure (.array [.bool existed, .int next])

def spawn (yields : Nat) (body : List Line) : Action :=
  trying (Steps.spawn yields (reporting body "future"))

/-- The ticker that can be cancelled. -/
def tickerKey : String := "ticker"

/-- Lets go of the watch of a ticker. -/
def letGo : Option Json → Steps Unit
  | some (.int watch) => Steps.ask (.closeWatch watch.toNat)
  | _ => pure ()

/-- Starts a ticker with an interval of an hour. -/
def startTicker (body : List Line) : Action := fun _ => do
  let watch ← Steps.openWatch
  match ← Steps.tick 3600000 watch (code body {}) with
  | .error e => pure (.error e)
  | .ok _ =>
    letGo (← Steps.remembered tickerKey)
    Steps.remember tickerKey (.int watch)
    pure (.ok .null)

/-- Tells the ticker something and, unless the watch is kept, lets go of it. -/
def cancel (value : Bool) (kept : Bool) : Action := quietly do
  match ← Steps.remembered tickerKey with
  | some (.int watch) =>
    Steps.ask (.send watch.toNat value)
    if kept then pure ()
    else
      Steps.ask (.closeWatch watch.toNat)
      Steps.remember tickerKey .null
  | _ => pure ()

end PluginHost.Script
