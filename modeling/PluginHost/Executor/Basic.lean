import PluginHost.Executor.TaskQueue
import PluginHost.Executor.Policy

set_option autoImplicit false

namespace PluginHost

/-- Queues by number; queue 0 is there from the start. `posted` counts the tasks posted so far. -/
structure Executor (β : Type) where
  queues : Array (TaskQueue β)
  policy : Policy
  posted : Nat

/-- What one attempt to run a task comes to. -/
inductive Choice (β : Type) where
  /-- The policy wants nothing to run. -/
  | idle (more : Bool)
  /-- The policy wants a task of a queue that has none. -/
  | nothing (queue : Nat) (more : Bool)
  | task (task : Task β) (rest : Executor β) (hint : Bool)

namespace Executor

variable {β : Type}

def empty : Executor β := ⟨#[.empty], .defaultQueue, 0⟩

def view (q : TaskQueue β) : QueueView := ⟨q.size, q.peek?.map Task.key⟩

def views (e : Executor β) : List QueueView := e.queues.toList.map view

def addQueue (e : Executor β) : Executor β := { e with queues := e.queues.push .empty }

def setPolicy (e : Executor β) (policy : Policy) : Executor β := { e with policy := policy }

/-- Puts a task into a queue, if there is one of that number. -/
def post? (e : Executor β) (priority : Int) (queue : Nat) (body : β) : Option (Executor β) :=
  if h : queue < e.queues.size then
    some { e with
      queues := e.queues.set queue (e.queues[queue].push ⟨priority, e.posted, body⟩)
      posted := e.posted + 1 }
  else none

def take? (e : Executor β) (queue : Nat) : Option (Task β × Executor β) :=
  if h : queue < e.queues.size then
    e.queues[queue].pop?.map fun (task, rest) =>
      (task, { e with queues := e.queues.set queue rest })
  else none

/-- Follows a selection of the policy. -/
def follow (e : Executor β) (selection : Selection) : Choice β :=
  match selection.queue with
  | none => .idle selection.more
  | some queue =>
    match e.take? queue with
    | some (task, rest) => .task task rest selection.more
    | none => .nothing queue selection.more

/-- Whether there is more to do under the policy in force. -/
def more (e : Executor β) (hint : Bool) : Bool := e.policy.more e.views hint

def pending (e : Executor β) : Nat := QueueViews.total e.views

/-- Drops every waiting task. -/
def clear (e : Executor β) : Executor β := { e with queues := e.queues.map fun _ => .empty }

@[simp] theorem size_queues_post? {e after : Executor β} {priority : Int} {queue : Nat} {body : β}
    (h : e.post? priority queue body = some after) : after.queues.size = e.queues.size := by
  simp only [post?, Option.dite_none_right_eq_some, Option.some.injEq] at h
  obtain ⟨inside, rfl⟩ := h
  simp

theorem post?_eq_none_iff {e : Executor β} {priority : Int} {queue : Nat} {body : β} :
    e.post? priority queue body = none ↔ e.queues.size ≤ queue := by
  simp [post?]

end Executor

end PluginHost
