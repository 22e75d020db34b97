import PluginHost.Heartbeat.Monitor

set_option autoImplicit false

namespace PluginHost

namespace Heartbeat

/-- Where a heartbeat and its monitor keep what they have, and how they are set up. -/
structure Wiring where
  heartbeat : Cells
  monitor : Monitor.Cells
  /-- The channel that carries the beats, and the monitor's subscription to it. -/
  channel : Nat
  subscription : Nat
  /-- The method that tells how many beats the monitor has seen. -/
  method : Nat
  /-- After how many beats the heartbeat asks the host to quit; never, if it is zero. -/
  limit : Nat

namespace Wiring

variable (w : Wiring)

def cells : List Nat :=
  [w.heartbeat.interval, w.heartbeat.limit, w.heartbeat.sequence, w.heartbeat.cancel,
    w.monitor.seen, w.monitor.last, w.monitor.subscription]

def tick : Code := beatCode w.heartbeat w.channel w.limit

def delivery (beat : Beat) : Code :=
  .deliver w.channel (Beat.codec.write beat) fun result => .done (result.map fun _ => .null)

/-- How many beats are published in a number of ticks. -/
def published (ticks : Nat) : Nat := if w.limit = 0 then ticks else min ticks w.limit

end Wiring

end Heartbeat

def Entry.OutOfSequence (entry : Entry) : Prop :=
  ∃ fields, entry = .event (Origin.monitor.event .warn "Heartbeat out of sequence" fields)

open Heartbeat (Wiring)

/-- A request that leaves alone what the heartbeat and the monitor keep to themselves. -/
def Request.Foreign (w : Wiring) : Request → Prop
  | .say entry => ¬ entry.OutOfSequence
  | .clear | .clearShared => False
  | .unsubscribe number subscription => ¬ (number = w.channel ∧ subscription = w.subscription)
  | .shared kind _ => kind ≠ Shared.channelKey beats.name
  | .write cell _ => cell ∉ w.cells
  | _ => True

namespace Code

/-- Code of others. It runs no task itself and publishes no beats. -/
def Foreign (w : Wiring) : Code → Prop
  | .done _ | .panic _ | .hang => True
  | .ask request next => request.Foreign w ∧ ∀ answer, Foreign w (next answer)
  | .post _ _ body next => (Foreign w body ∨ body = w.tick) ∧ ∀ result, Foreign w (next result)
  | .keep _ _ _ body next => (Foreign w body ∨ body = w.tick) ∧ Foreign w next
  | .invoke _ next => ∀ result, Foreign w (next result)
  | .subscribe _ subscriber next =>
    (∀ message, Foreign w (subscriber message)) ∧ ∀ number, Foreign w (next number)
  | .provide _ _ provider next =>
    (∀ argument, Foreign w (provider argument)) ∧ ∀ count, Foreign w (next count)
  | .spawn _ body next => Foreign w body ∧ ∀ result, Foreign w (next result)
  | .tick _ _ body next => (Foreign w body ∨ body = w.tick) ∧ ∀ result, Foreign w (next result)
  | .listen next => ∀ listening, Foreign w (next listening)
  | .attempt _ body next => Foreign w body ∧ ∀ result, Foreign w (next result)
  | .execute _ => False
  | .deliver channel _ next => channel ≠ w.channel ∧ ∀ result, Foreign w (next result)
  | .call _ _ next => ∀ result, Foreign w (next result)

def Postable (w : Wiring) (code : Code) : Prop := code.Foreign w ∨ code = w.tick

end Code

end PluginHost
