import PluginHost.Executor.Policy
import PluginHost.Json.Basic
import PluginHost.Journal
import PluginHost.Messaging.Channel

/-!
Code of plugins and tasks, as the host sees it: a tree of requests, each with what the code does on
every answer. Whatever ends is such a tree, and what need not end is said by `hang`.
-/

set_option autoImplicit false

namespace PluginHost

/-- Requests that the host answers at once, without running other code. -/
inductive Request where
  | say (entry : Entry)
  | addQueue
  | setPolicy (policy : Policy)
  | clear
  | queues
  | quit
  | quitting
  | requestReload
  | takeReload
  | wake
  | canSpawn
  | clock
  /-- The channel of a kind, created if there is none yet. -/
  | channel (kind : ChannelKind)
  | unsubscribe (channel subscription : Nat)
  | subscribers (channel : Nat)
  /-- The method of a name, created if there is none yet. -/
  | method (name : String)
  | providers (method : Nat)
  /-- The shared cell of a kind, created if there is none yet. -/
  | shared (kind : String) (start : Json)
  | sharedCount
  | clearShared
  | allocate (start : Json)
  | read (cell : Nat)
  | write (cell : Nat) (value : Json)
  | openWatch
  | send (watch : Nat) (value : Bool)
  | closeWatch (watch : Nat)
  | remembered (key : String)
  | remember (key : String) (value : Json)

/-- What a request is answered with. -/
def Request.Answer : Request → Type
  | .addQueue | .clock | .channel _ | .subscribers _ | .method _ | .providers _ | .sharedCount
  | .allocate _ | .openWatch => Nat
  | .queues => List QueueView
  | .quitting | .takeReload | .canSpawn | .unsubscribe _ _ => Bool
  | .shared _ _ => Bool × Nat
  | .read _ => Json
  | .remembered _ => Option Json
  | _ => Unit

/-- Code that ends with a value or a failure. -/
inductive Code where
  | done (result : Except Failure Json)
  | panic (payload : PanicPayload)
  /-- Never ends. -/
  | hang
  | ask (request : Request) (next : request.Answer → Code)
  | post (priority : Int) (queue : Nat) (body : Code) (next : Except Failure Unit → Code)
  /-- Keeps a post under a name, to be made later. -/
  | keep (key : String) (priority : Int) (queue : Nat) (body : Code) (next : Code)
  /-- Makes a kept post, if there is one under the name. -/
  | invoke (key : String) (next : Option (Except Failure Unit) → Code)
  | subscribe (channel : Nat) (subscriber : Json → Code) (next : Nat → Code)
  | provide (method : Nat) (priority : Int) (provider : Json → Code) (next : Nat → Code)
  /-- Runs code on the reactor after it let others go first for some turns. -/
  | spawn (yields : Nat) (body : Code) (next : Except Failure Unit → Code)
  /-- Posts a task at every tick until the watch says to stop. -/
  | tick (interval watch : Nat) (body : Code) (next : Except Failure Unit → Code)
  /-- Waits on the reactor for signals. -/
  | listen (next : Bool → Code)
  /-- Runs code, turning a panic into a failure. -/
  | attempt (origin : String) (body : Code) (next : Except Failure Json → Code)
  /-- Runs at most one task. -/
  | execute (next : Except Failure Bool → Code)
  /-- Hands a message to the subscribers of a channel. -/
  | deliver (channel : Nat) (message : Json) (next : Except Failure Unit → Code)
  | call (method : Nat) (argument : Json) (next : Except Failure Json → Code)

namespace Code

instance : Inhabited Code := ⟨.done (.ok .null)⟩

/-- Code that does nothing. -/
def nothing : Code := .done (.ok .null)

def fail (failure : Failure) : Code := .done (.error failure)

end Code

end PluginHost
