import PluginHost.Journal

set_option autoImplicit false

namespace PluginHost

/-- Signals of the process. All but a hangup ask it to quit. -/
inductive Signal where
  | interrupt
  | terminate
  | quit
  | hangup
deriving DecidableEq, Repr

namespace Signal

def name : Signal → String
  | interrupt => "SIGINT"
  | terminate => "SIGTERM"
  | quit => "SIGQUIT"
  | hangup => "SIGHUP"

end Signal

/-- A word that one party may send to another: what it is, whether the other has not seen it yet,
and whether there is anybody left to send. -/
structure Watch where
  value : Bool := false
  unseen : Bool := false
  isOpen : Bool := true
deriving DecidableEq, Repr

namespace Watch

def send (w : Watch) (value : Bool) : Watch := { w with value := value, unseen := true }

def close (w : Watch) : Watch := { w with isOpen := false }

/-- Whether the receiver has something to look at. -/
def stirred (w : Watch) : Bool := w.unseen || !w.isOpen

/-- Whether the receiver is asked to stop. -/
def stops (w : Watch) : Bool := if w.unseen then w.value else !w.isOpen

/-- The receiver has looked. -/
def see (w : Watch) : Watch := { w with unseen := false }

end Watch

/-- A job that posts a task at every tick. The first tick is due as soon as time passes. -/
structure Ticker where
  interval : Nat
  watch : Nat
  /-- When the next tick is due, once the ticker has started. -/
  due : Option Nat
deriving DecidableEq, Repr

/-- A job of the reactor. -/
inductive Job (β : Type) where
  /-- Code that lets others go first for some turns. -/
  | code (yields : Nat) (body : β)
  | ticker (ticker : Ticker) (body : β)
  /-- Waits for signals until one asks to quit. -/
  | listener (received : List Signal)

/-- A signal that somebody sends when the journal shows something. -/
structure Cue where
  after : Entry → Bool
  signal : Signal

/-- Jobs that are ready, in turn, and jobs that wait; the clock in milliseconds; the signals to
come, and how much of the journal was looked at for them. -/
structure EventLoop (β : Type) where
  ready : List (Job β) := []
  waiting : List (Job β) := []
  clock : Nat := 0
  cues : List Cue := []
  scanned : Nat := 0

/-- What is laid down for each poll and each wait, by their numbers. -/
structure Plan (β : Type) where
  productive : Nat → Bool
  onPoll : Nat → β
  onBlock : Nat → β

inductive Reactor (β : Type) where
  | absent
  | events (loop : EventLoop β)
  | planned (plan : Plan β) (polls blocks : Nat)

namespace Reactor

variable {β : Type}

/-- Only a reactor of events can run jobs. -/
def canSpawn : Reactor β → Bool
  | events _ => true
  | _ => false

/-- Adds a job that is ready. -/
def spawn (job : Job β) : Reactor β → Reactor β
  | events loop => events { loop with ready := loop.ready ++ [job] }
  | reactor => reactor

def clock : Reactor β → Nat
  | events loop => loop.clock
  | _ => 0

/-- Makes the waiting jobs ready that something has happened for. -/
def stir (happened : Job β → Bool) : Reactor β → Reactor β
  | events loop => events { loop with
      ready := loop.ready ++ loop.waiting.filter happened
      waiting := loop.waiting.filter fun job => !happened job }
  | reactor => reactor

end Reactor

/-- Whether a job looks at a watch. -/
def Job.watches {β : Type} (watch : Nat) : Job β → Bool
  | .ticker t _ => t.watch = watch
  | _ => false

end PluginHost
