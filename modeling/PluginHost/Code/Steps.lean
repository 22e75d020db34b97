import PluginHost.Code.Basic

set_option autoImplicit false

namespace PluginHost

/-- A step of code that yields a value. -/
def Steps (α : Type) : Type := (α → Code) → Code

namespace Steps

variable {α β : Type}

instance : Monad Steps where
  pure a := fun next => next a
  bind first rest := fun next => first fun a => rest a next

/-- The code that takes the steps and does nothing more. -/
def code (steps : Steps Unit) : Code := steps fun _ => .nothing

/-- The code that takes the steps and ends with their value. -/
def result (steps : Steps Json) : Code := steps fun value => .done (.ok value)

/-- Ends the code with a failure. -/
def fail (failure : Failure) : Steps α := fun _ => .fail failure

/-- Ends the code if there is a failure. -/
def orFail : Except Failure α → Steps α
  | .ok a => pure a
  | .error failure => fail failure

def ask (request : Request) : Steps request.Answer := Code.ask request

def say (entry : Entry) : Steps Unit := ask (.say entry)

def note (text : String) : Steps Unit := say (.note text)

def read (cell : Nat) : Steps Json := ask (.read cell)

def write (cell : Nat) (value : Json) : Steps Unit := ask (.write cell value)

def channel (kind : ChannelKind) : Steps Nat := ask (.channel kind)

def unsubscribe (channel number : Nat) : Steps Bool := ask (.unsubscribe channel number)

def method (name : String) : Steps Nat := ask (.method name)

def openWatch : Steps Nat := ask .openWatch

def clock : Steps Nat := ask .clock

def addQueue : Steps Nat := ask .addQueue

def queues : Steps (List QueueView) := ask .queues

def quit : Steps Unit := ask .quit

def quitting : Steps Bool := ask .quitting

def takeReload : Steps Bool := ask .takeReload

def canSpawn : Steps Bool := ask .canSpawn

def subscribers (channel : Nat) : Steps Nat := ask (.subscribers channel)

def providers (method : Nat) : Steps Nat := ask (.providers method)

/-- The shared cell of a kind, and whether it was there already. -/
def shared (kind : String) (start : Json) : Steps (Bool × Nat) := ask (.shared kind start)

def sharedCount : Steps Nat := ask .sharedCount

def remembered (key : String) : Steps (Option Json) := ask (.remembered key)

def remember (key : String) (value : Json) : Steps Unit := ask (.remember key value)

def post (priority : Int) (queue : Nat) (body : Code) : Steps (Except Failure Unit) :=
  Code.post priority queue body

def keep (key : String) (priority : Int) (queue : Nat) (body : Code) : Steps Unit := fun next =>
  .keep key priority queue body (next ())

def invoke (key : String) : Steps (Option (Except Failure Unit)) := Code.invoke key

def subscribe (channel : Nat) (subscriber : Json → Code) : Steps Nat :=
  Code.subscribe channel subscriber

def provide (method : Nat) (priority : Int) (provider : Json → Code) : Steps Nat :=
  Code.provide method priority provider

def spawn (yields : Nat) (body : Code) : Steps (Except Failure Unit) := Code.spawn yields body

def tick (interval watch : Nat) (body : Code) : Steps (Except Failure Unit) :=
  Code.tick interval watch body

def listen : Steps Bool := Code.listen

def attempt (origin : String) (body : Code) : Steps (Except Failure Json) := Code.attempt origin body

def execute : Steps (Except Failure Bool) := Code.execute

def call (method : Nat) (argument : Json) : Steps (Except Failure Json) := Code.call method argument

def panic (payload : PanicPayload) : Steps α := fun _ => .panic payload

/-- Posts the delivery of a message to the subscribers of a channel. -/
def publish (kind : ChannelKind) (channel : Nat) (message : Json) : Steps (Except Failure Unit) :=
  post kind.priority 0 (.deliver channel message fun result => .done (result.map fun _ => .null))

/-- Runs tasks until there is nothing more to do, and counts how often there was more. -/
def drain : Nat → Nat → Steps (Except Failure Nat)
  | 0, _ => fun _ => .hang
  | patience + 1, count => do
    match ← execute with
    | .ok true => drain patience (count + 1)
    | .ok false => pure (.ok count)
    | .error failure => pure (.error failure)

end Steps

end PluginHost
