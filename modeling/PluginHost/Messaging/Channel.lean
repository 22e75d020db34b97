import PluginHost.Executor.Task

set_option autoImplicit false

namespace PluginHost

/-- A kind of channel and the priority of its deliveries. -/
structure ChannelKind where
  name : String
  priority : Int := PluginHost.priority.medium
deriving DecidableEq, Repr

/-- A channel with its subscribers, each a function of the message. -/
structure Channel (β μ : Type) where
  kind : ChannelKind
  subscribers : List (Nat × (μ → β))
  issued : Nat

namespace Channel

variable {β μ : Type}

def new (kind : ChannelKind) : Channel β μ := ⟨kind, [], 0⟩

/-- Adds a subscriber, whose number is how many there have been. -/
def subscribe (c : Channel β μ) (subscriber : μ → β) : Channel β μ :=
  { c with subscribers := c.subscribers ++ [(c.issued, subscriber)], issued := c.issued + 1 }

def has (c : Channel β μ) (number : Nat) : Bool := c.subscribers.any fun s => s.1 = number

def unsubscribe (c : Channel β μ) (number : Nat) : Channel β μ :=
  { c with subscribers := c.subscribers.filter fun s => s.1 ≠ number }

/-- What each subscriber does with a message. -/
def deliveries (c : Channel β μ) (message : μ) : List β := c.subscribers.map fun s => s.2 message

def count (c : Channel β μ) : Nat := c.subscribers.length

/-- How a channel with a number of subscribers describes itself. -/
def description (name : String) (subscribers : Nat) : String :=
  "Channel \x7b decl: \"" ++ name ++ "\", subscribers: " ++ toString subscribers ++ " \x7d"

end Channel

end PluginHost
