import PluginHost.Executor.Policy
import PluginHost.Json.Printer

set_option autoImplicit false

namespace PluginHost.Script

open QueueViews

/-- Serves a queue, or nothing if there is none to serve. There is more if more than one task
waits. -/
def pick (views : List QueueView) : Option Nat → Selection
  | some queue => .run queue (1 < total views)
  | none => .none

/-- A rule that leaves no notes. -/
def plainly (rule : List QueueView → Selection) : Policy := .custom fun views => ⟨[], .ok (rule views)⟩

def fixed (queue : Option Nat) (more : Bool) : Policy := plainly fun _ => ⟨queue, more⟩

/-- The first of some queues that is not empty. -/
def prefer (queues : List Nat) : Policy :=
  plainly fun views => pick views (queues.find? fun queue => size views queue ≠ 0)

def longest : Policy :=
  plainly fun views => pick views <| (occupied views).foldl (fun best queue =>
    match best with
    | none => some queue
    | some b => some (if size views b < size views queue then queue else b)) none

def lowest : Policy :=
  plainly fun views => pick views <| (occupied views).foldl (fun best queue =>
    match best with
    | none => some queue
    | some b => some (if lessThan views queue b then queue else b)) none

/-- The queue whose next task ranks highest; there is more if it holds more than one task. -/
def highestRanked : Policy :=
  plainly fun views =>
    match highest views with
    | some queue => .run queue (1 < size views queue)
    | none => .none

/-- Notes what a rule can see, and serves nothing. -/
def probe (queue : Nat) : Policy := .custom fun views =>
  let optional : Option Int → Json := fun n => (n.map Json.int).getD .null
  let seen : Json := .array [.int views.length, .int (size views queue),
    .bool (size views queue = 0), .int (total views),
    optional ((top views queue).map Task.Key.priority), .bool (lessThan views queue 0),
    optional ((highest views).map Int.ofNat)]
  ⟨["probe " ++ seen.render], .ok ⟨none, 0 < total views⟩⟩

end PluginHost.Script
