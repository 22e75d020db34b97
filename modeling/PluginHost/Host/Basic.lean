import PluginHost.Act
import PluginHost.Code.Basic
import PluginHost.Executor.Basic
import PluginHost.Executor.Control
import PluginHost.Messaging.Method
import PluginHost.Reactor.Basic

set_option autoImplicit false

namespace PluginHost

/-- Something that is there once for the whole host. -/
inductive Shared where
  | channel (number : Nat)
  | method (number : Nat)
  | cell (number : Nat)
deriving DecidableEq, Repr

/-- A post to be made later. -/
structure KeptPost where
  priority : Int
  queue : Nat
  body : Code

/-- Everything plugin code can reach. `shared` says what there is once, by kind; the channels,
methods and cells themselves stay for those who hold them. -/
structure Host where
  executor : Executor Code := .empty
  control : Control := {}
  wake : Wake := {}
  shared : Members Shared := []
  channels : Array (Channel Code Json) := #[]
  methods : Array (Method Code Json) := #[]
  cells : Array Json := #[]
  watches : Array Watch := #[]
  keptPosts : Members KeptPost := []
  registers : Members Json := []
  reactor : Reactor Code := .absent
  journal : Journal := #[]

/-- Where in the host an event comes from. -/
inductive Origin where
  | executor
  | control
  | reactor
  | shared
  | channels
  | methods
  | registrations
  | registry
  | lifecycle
  | options
  | application
  | signals
  | heartbeat
  | monitor
  | ticker
  | server
deriving DecidableEq, Repr

/-- The name that log filters know an origin by. -/
def Origin.target : Origin → String
  | executor => "hostkit_executor::executor"
  | control => "hostkit_executor::control"
  | reactor => "hostkit_executor::reactor"
  | shared => "hostkit_plugin::shared"
  | channels => "hostkit_plugin::api::events"
  | methods => "hostkit_plugin::api::services"
  | registrations => "hostkit_plugin::factory"
  | registry => "hostkit_plugin::registry"
  | lifecycle => "hostkit_plugin::lifecycle"
  | options => "hostkit_core::options"
  | application => "hostkit_app::application"
  | signals => "hostkit_app::signals"
  | heartbeat => "plugin_heartbeat::heartbeat"
  | monitor => "plugin_heartbeat::monitor"
  | ticker => "plugin_heartbeat::ticker"
  | server => "hostkit_server"

/-- An event of some origin. -/
def Origin.event (origin : Origin) (level : Level) (message : String)
    (fields : List (String × FieldValue)) : Event :=
  ⟨level, origin.target, message, fields⟩

def queueName (queue : Nat) : String := "queue#" ++ toString queue

namespace Shared

/-- The name that the shared channel of a kind goes by. -/
def channelKey (kind : String) : String := "hostkit_plugin::api::events::Channel<" ++ kind ++ ">"

/-- The name that the shared method of a name goes by. -/
def methodKey (name : String) : String := "hostkit_plugin::api::services::Method<" ++ name ++ ">"

end Shared

namespace Host

def say (h : Host) (entry : Entry) : Host := { h with journal := h.journal.push entry }

def tell (h : Host) (origin : Origin) (level : Level) (message : String)
    (fields : List (String × FieldValue)) : Host :=
  h.say (.event (origin.event level message fields))

def note (h : Host) (text : String) : Host := h.say (.note text)

def rouse (h : Host) : Host := { h with wake := h.wake.wake }

def addQueue (h : Host) : Host :=
  { h with executor := h.executor.addQueue }.tell .executor .debug "Queue registered"
    [("queue", .text (queueName h.executor.queues.size))]

def setPolicy (h : Host) (policy : Policy) : Host :=
  { h.tell .executor .debug "Arbitration policy set" [("policy", .text policy.describe)] with
    executor := h.executor.setPolicy policy }

/-- Posts a task and wakes the run loop. -/
def post (h : Host) (priority : Int) (queue : Nat) (body : Code) : Except Failure Unit × Host :=
  match h.executor.post? priority queue body with
  | none => (.error (.unregisteredQueue queue), h)
  | some executor =>
    let posted := { h with executor := executor }.tell .executor .trace "Task posted"
      [("priority", .number priority), ("sequence", .number h.executor.posted),
        ("queue", .text (queueName queue))]
    (.ok (), posted.rouse)

def clear (h : Host) : Host :=
  let dropped := h.executor.pending
  let cleared := { h with executor := h.executor.clear }
  if dropped = 0 then cleared
  else cleared.tell .executor .debug "Executor cleared" [("dropped", .number dropped)]

/-- Asks the run loop to stop. -/
def quit (h : Host) : Host :=
  let told := if h.control.quitting then h else h.tell .control .debug "Quit requested" []
  { told with control := h.control.quit }.rouse

def requestReload (h : Host) : Host := { h with control := h.control.requestReload }.rouse

def takeReload (h : Host) : Bool × Host :=
  (h.control.takeReload.1, { h with control := h.control.takeReload.2 })

def shareNew (h : Host) (key : String) (entry : Shared) : Host :=
  { h.tell .shared .trace "Creating shared singleton" [("kind", .text key)] with
    shared := h.shared.insert key entry }

def channel (h : Host) (kind : ChannelKind) : Nat × Host :=
  match h.shared.find? (Shared.channelKey kind.name) with
  | some (.channel number) => (number, h)
  | _ =>
    let number := h.channels.size
    (number, { h.shareNew (Shared.channelKey kind.name) (.channel number) with
      channels := h.channels.push (.new kind) })

def method (h : Host) (name : String) : Nat × Host :=
  match h.shared.find? (Shared.methodKey name) with
  | some (.method number) => (number, h)
  | _ =>
    let number := h.methods.size
    (number, { h.shareNew (Shared.methodKey name) (.method number) with
      methods := h.methods.push (.new name) })

/-- The shared cell of a kind, and whether it was there already. -/
def sharedCell (h : Host) (kind : String) (start : Json) : (Bool × Nat) × Host :=
  match h.shared.find? kind with
  | some (.cell number) => ((true, number), h)
  | _ =>
    let number := h.cells.size
    ((false, number), { h.shareNew kind (.cell number) with cells := h.cells.push start })

def clearShared (h : Host) : Host := { h with shared := [] }

def subscribe (h : Host) (channel : Nat) (subscriber : Json → Code) : Nat × Host :=
  match h.channels[channel]? with
  | none => (0, h)
  | some c => (c.issued, { h with channels := h.channels.setIfInBounds channel (c.subscribe subscriber) })

def unsubscribe (h : Host) (channel subscription : Nat) : Bool × Host :=
  match h.channels[channel]? with
  | none => (false, h)
  | some c =>
    (c.has subscription,
      { h with channels := h.channels.setIfInBounds channel (c.unsubscribe subscription) })

def provide (h : Host) (method : Nat) (priority : Int) (provider : Json → Code) : Nat × Host :=
  match h.methods[method]? with
  | none => (0, h)
  | some m =>
    let registered := m.register priority provider
    (registered.count, { h with methods := h.methods.setIfInBounds method registered }.tell .methods
      .info "Method provider registered" [("method", .text m.name), ("priority", .number priority)])

def allocate (h : Host) (start : Json) : Nat × Host :=
  (h.cells.size, { h with cells := h.cells.push start })

def read (h : Host) (cell : Nat) : Json := h.cells[cell]?.getD .null

def write (h : Host) (cell : Nat) (value : Json) : Host :=
  { h with cells := h.cells.setIfInBounds cell value }

def openWatch (h : Host) : Nat × Host :=
  (h.watches.size, { h with watches := h.watches.push {} })

/-- Changes a watch, which makes the jobs ready that look at it. -/
def changeWatch (h : Host) (watch : Nat) (change : Watch → Watch) : Host :=
  { h with
    watches := h.watches.modify watch change
    reactor := h.reactor.stir (Job.watches watch) }

def keep (h : Host) (key : String) (post : KeptPost) : Host :=
  { h with keptPosts := h.keptPosts.insert key post }

/-- Makes a kept post, which is kept no longer. -/
def invoke (h : Host) (key : String) : Option (Except Failure Unit) × Host :=
  match h.keptPosts.find? key with
  | none => (none, h)
  | some p =>
    let (result, h) := { h with keptPosts := h.keptPosts.filter fun k => k.1 ≠ key }.post
      p.priority p.queue p.body
    (some result, h)

def spawn (h : Host) (job : Job Code) : Except Failure Unit × Host :=
  if h.reactor.canSpawn then (.ok (), { h with reactor := h.reactor.spawn job })
  else (.error .noSpawner, h)

def listen (h : Host) : Bool × Host :=
  (h.reactor.canSpawn, { h with reactor := h.reactor.spawn (.listener []) })

/-- The answer to a request, and the host after it. -/
def answer : (request : Request) → Host → request.Answer × Host
  | .say entry, h => ((), h.say entry)
  | .addQueue, h => (h.executor.queues.size, h.addQueue)
  | .setPolicy policy, h => ((), h.setPolicy policy)
  | .clear, h => ((), h.clear)
  | .queues, h => (h.executor.views, h)
  | .quit, h => ((), h.quit)
  | .quitting, h => (h.control.quitting, h)
  | .requestReload, h => ((), h.requestReload)
  | .takeReload, h => h.takeReload
  | .wake, h => ((), h.rouse)
  | .canSpawn, h => (h.reactor.canSpawn, h)
  | .clock, h => (h.reactor.clock, h)
  | .channel kind, h => h.channel kind
  | .unsubscribe channel subscription, h => h.unsubscribe channel subscription
  | .subscribers channel, h => ((h.channels[channel]?.map Channel.count).getD 0, h)
  | .method name, h => h.method name
  | .providers method, h => ((h.methods[method]?.map Method.count).getD 0, h)
  | .shared kind start, h => h.sharedCell kind start
  | .sharedCount, h => (h.shared.length, h)
  | .clearShared, h => ((), h.clearShared)
  | .allocate start, h => h.allocate start
  | .read cell, h => (h.read cell, h)
  | .write cell value, h => ((), h.write cell value)
  | .openWatch, h => h.openWatch
  | .send watch value, h => ((), h.changeWatch watch fun w => w.send value)
  | .closeWatch watch, h => ((), h.changeWatch watch Watch.close)
  | .remembered key, h => (h.registers.find? key, h)
  | .remember key value, h => ((), { h with registers := h.registers.insert key value })

end Host

end PluginHost
