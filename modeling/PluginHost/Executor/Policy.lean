import PluginHost.Executor.Task
import PluginHost.Failure

set_option autoImplicit false

namespace PluginHost

/-- What a policy sees of one queue. -/
structure QueueView where
  size : Nat
  top : Option Task.Key
deriving DecidableEq, Repr

namespace QueueViews

/-- How many tasks wait in a queue; none in one that does not exist. -/
def size (views : List QueueView) (queue : Nat) : Nat := (views[queue]?.map QueueView.size).getD 0

def total : List QueueView → Nat
  | [] => 0
  | view :: views => view.size + total views

def top (views : List QueueView) (queue : Nat) : Option Task.Key :=
  views[queue]?.bind QueueView.top

/-- Whether the next task of one queue ranks below that of another. An empty queue ranks below any
other, and none ranks below an empty one. -/
def lessThan (views : List QueueView) (a b : Nat) : Bool :=
  match top views a, top views b with
  | _, none => false
  | none, some _ => true
  | some x, some y => y.runsBefore x

/-- The queues that hold a task. -/
def occupied (views : List QueueView) : List Nat :=
  (List.range views.length).filter fun queue => size views queue ≠ 0

/-- The better of the best queue so far and another one. -/
def better (views : List QueueView) : Option Nat → Nat → Option Nat
  | none, queue => some queue
  | some best, queue => some (if lessThan views best queue then queue else best)

/-- The occupied queue whose next task ranks highest. -/
def highest (views : List QueueView) : Option Nat := (occupied views).foldl (better views) none

end QueueViews

/-- What a policy decides: the queue to take a task from, if any, and whether there is more to
do, which need not go together. -/
structure Selection where
  queue : Option Nat
  more : Bool
deriving DecidableEq, Repr

namespace Selection

def none : Selection := ⟨.none, false⟩

def run (queue : Nat) (more : Bool) : Selection := ⟨some queue, more⟩

end Selection

/-- What a rule of the user's own does: it may leave notes, and it may panic. -/
structure Ruling where
  notes : List String
  selection : Except PanicPayload Selection

/-- Which queue is served next. -/
inductive Policy where
  /-- Queue 0; the other queues are never served. -/
  | defaultQueue
  /-- The queue whose next task ranks highest. -/
  | highestPriority
  | custom (rule : List QueueView → Ruling)
deriving Inhabited

namespace Policy

def describe : Policy → String
  | defaultQueue => "DefaultQueue"
  | highestPriority => "HighestPriority"
  | custom _ => "Custom(<fn>)"

def select (policy : Policy) (views : List QueueView) : Ruling :=
  match policy with
  | defaultQueue =>
    ⟨[], .ok (if QueueViews.size views 0 = 0 then .none else .run 0 true)⟩
  | highestPriority =>
    ⟨[], .ok (match QueueViews.highest views with
      | some queue => .run queue true
      | none => .none)⟩
  | custom rule => rule views

/-- Whether there is more to do after a task ran. A rule of the user's own said so before. -/
def more (policy : Policy) (views : List QueueView) (hint : Bool) : Bool :=
  match policy with
  | defaultQueue => QueueViews.size views 0 ≠ 0
  | highestPriority => QueueViews.total views ≠ 0
  | custom _ => hint

end Policy

end PluginHost
