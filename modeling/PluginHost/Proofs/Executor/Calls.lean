import PluginHost.Proofs.Executor.Pending

/-!
What is done to an executor, call by call. Each call is made at once, so whatever any number of
threads do, and the tasks that they run, comes to one list of calls in the order in which they take
effect. To run a task is two of them: the task is taken out of its queue and its body begins, and
when the body has ended, with whatever result, the executor is asked whether there is more to do.
Anything else may be done in between.
-/

set_option autoImplicit false

namespace PluginHost

/-- A task and the queue that it was posted to, or that it was found in. -/
structure Placed (β : Type) where
  queue : Nat
  task : Task β

namespace Executor

variable {β Party : Type}

/-- What is done to an executor at once. -/
inductive Call (β : Type) where
  | post (priority : Int) (queue : Nat) (body : β)
  | addQueue
  | setPolicy (policy : Policy)
  | clear
  /-- Takes the task that the policy selects, if it selects one, and begins its body. -/
  | begin
  /-- The body of a task has ended with a result, after the policy gave a hint. -/
  | finish (hint : Bool) (result : Except Failure Unit)

inductive Reply (β : Type) where
  | posted (post : Placed β)
  | refused
  | added (queue : Nat)
  | set
  /-- The tasks that were dropped, by queue. -/
  | cleared (dropped : Nat → List (Task β))
  | began (begun : Placed β) (hint : Bool)
  /-- No task was taken. -/
  | passed (more : Bool)
  | panicked (payload : PanicPayload)
  | finished (result : Except Failure Bool)

/-- The tasks that wait in a queue; none in one that does not exist. -/
def waiting (e : Executor β) (queue : Nat) : List (Task β) :=
  (e.queues[queue]?.map TaskQueue.toList).getD []

/-- The reply to a call, and the executor after it. -/
def Call.make : Call β → Executor β → Reply β × Executor β
  | .post priority queue body, e =>
    match e.post? priority queue body with
    | some after => (.posted ⟨queue, ⟨priority, e.posted, body⟩⟩, after)
    | none => (.refused, e)
  | .addQueue, e => (.added e.queues.size, e.addQueue)
  | .setPolicy policy, e => (.set, e.setPolicy policy)
  | .clear, e => (.cleared e.waiting, e.clear)
  | .begin, e =>
    match (e.policy.select e.views).selection with
    | .error payload => (.panicked payload, e)
    | .ok selection =>
      match e.follow selection, selection.queue with
      | .task task rest hint, some queue => (.began ⟨queue, task⟩ hint, rest)
      | _, _ => (.passed selection.more, e)
  | .finish hint result, e => (.finished (result.map fun _ => e.more hint), e)

/-- Makes calls, each by some party, one after the other. -/
def serve : List (Party × Call β) → Executor β → List (Party × Reply β) × Executor β
  | [], e => ([], e)
  | (party, call) :: rest, e =>
    let (reply, after) := call.make e
    let (replies, last) := serve rest after
    ((party, reply) :: replies, last)

def Reply.post? : Reply β → Option (Placed β)
  | .posted post => some post
  | _ => none

def Reply.begun? : Reply β → Option (Placed β)
  | .began begun _ => some begun
  | _ => none

def Reply.dropped (queue : Nat) : Reply β → List (Task β)
  | .cleared dropped => dropped queue
  | _ => []

def Reply.added? : Reply β → Option Nat
  | .added queue => some queue
  | _ => none

def Reply.isRefused : Reply β → Bool
  | .refused => true
  | _ => false

variable (replies : List (Party × Reply β))

/-- The posts that were made, in the order in which they took effect. -/
def posts : List (Placed β) := replies.filterMap fun r => r.2.post?

/-- The tasks that began, each with the queue that it was taken from, in order. -/
def begun : List (Placed β) := replies.filterMap fun r => r.2.begun?

def dropped (queue : Nat) : List (Task β) := replies.flatMap fun r => r.2.dropped queue

def added : List Nat := replies.filterMap fun r => r.2.added?

def ofQueue (queue : Nat) (placed : List (Placed β)) : List (Task β) :=
  (placed.filter fun p => p.queue = queue).map Placed.task

variable {replies}

theorem waiting_of_getElem? {e : Executor β} {queue : Nat} {q : TaskQueue β}
    (found : e.queues[queue]? = some q) : e.waiting queue = q.toList := by
  simp only [waiting, found, Option.map_some, Option.getD_some]

theorem waiting_congr {e f : Executor β} {queue : Nat}
    (same : e.queues[queue]? = f.queues[queue]?) : e.waiting queue = f.waiting queue := by
  simp only [waiting, same]

@[simp] theorem waiting_empty (queue : Nat) : (empty : Executor β).waiting queue = [] := by
  unfold waiting
  cases found : (empty : Executor β).queues[queue]? with
  | none => rfl
  | some q =>
    have member := Array.mem_of_getElem? found
    simp only [empty, List.mem_toArray, List.mem_singleton] at member
    rw [member]
    rfl

@[simp] theorem waiting_clear (e : Executor β) (queue : Nat) : e.clear.waiting queue = [] := by
  simp only [waiting, clear, Array.getElem?_map, Option.map_map]
  cases e.queues[queue]? <;> rfl

@[simp] theorem waiting_setPolicy (e : Executor β) (policy : Policy) (queue : Nat) :
    (e.setPolicy policy).waiting queue = e.waiting queue := rfl

@[simp] theorem waiting_addQueue (e : Executor β) (queue : Nat) :
    e.addQueue.waiting queue = e.waiting queue := by
  simp only [waiting, addQueue, Array.getElem?_push]
  split
  · rename_i last
    rw [last, Array.getElem?_eq_none (Nat.le_refl _)]
    rfl
  · rfl

/-- A post puts the task into its queue and leaves the others alone. -/
theorem waiting_post? {e after : Executor β} {priority : Int} {queue : Nat} {body : β}
    (posted : e.post? priority queue body = some after) :
    (after.waiting queue).Perm (⟨priority, e.posted, body⟩ :: e.waiting queue) ∧
      ∀ other, other ≠ queue → after.waiting other = e.waiting other := by
  simp only [post?, Option.dite_none_right_eq_some, Option.some.injEq] at posted
  obtain ⟨inside, rfl⟩ := posted
  constructor
  · rw [waiting_of_getElem? (Array.getElem?_set_self inside),
      waiting_of_getElem? (Array.getElem?_eq_getElem inside)]
    exact TaskQueue.push_perm _ _
  · intro other apart
    exact waiting_congr (Array.getElem?_set_ne inside apart.symm)

/-- What waits after a post waited before, or is the task that was posted. -/
theorem mem_waiting_post? {e after : Executor β} {priority : Int} {queue : Nat} {body : β}
    (posted : e.post? priority queue body = some after) {other : Nat} {task : Task β}
    (member : task ∈ after.waiting other) :
    (other = queue ∧ task = ⟨priority, e.posted, body⟩) ∨ task ∈ e.waiting other := by
  obtain ⟨perm, apart⟩ := waiting_post? posted
  by_cases same : other = queue
  · subst same
    rcases List.mem_cons.1 (perm.subset member) with new | old
    · exact .inl ⟨rfl, new⟩
    · exact .inr old
  · rw [apart other same] at member
    exact .inr member

/-- A task that is posted gets a number that no waiting task has. -/
theorem below_post? {e after : Executor β} {priority : Int} {queue : Nat} {body : β}
    (below : ∀ other, ∀ task ∈ e.waiting other, task.sequence < e.posted)
    (posted : e.post? priority queue body = some after) :
    ∀ other, ∀ task ∈ after.waiting other, task.sequence < after.posted := by
  intro other task member
  rw [(posted_post? posted).1]
  rcases mem_waiting_post? posted member with ⟨_, rfl⟩ | old
  · exact Nat.lt_succ_self _
  · exact Nat.lt_succ_of_lt (below other task old)

/-- What it is to take a task out of a queue. -/
structure Takes (e : Executor β) (queue : Nat) (task : Task β) (rest : Executor β) : Prop where
  perm : (task :: rest.waiting queue).Perm (e.waiting queue)
  first : ∀ other ∈ e.waiting queue, ¬ other.runsBefore task
  others : ∀ other, other ≠ queue → rest.queues[other]? = e.queues[other]?
  policy : rest.policy = e.policy
  posted : rest.posted = e.posted
  count : rest.queues.size = e.queues.size

theorem takes_of_take? {e rest : Executor β} {queue : Nat} {task : Task β}
    (taken : e.take? queue = some (task, rest)) : e.Takes queue task rest := by
  obtain ⟨_, policy, posted, count⟩ := take?_perm taken
  unfold take? at taken
  split at taken
  · rename_i inside
    obtain ⟨⟨first, left⟩, popped, same⟩ := Option.map_eq_some_iff.1 taken
    cases same
    have here : e.waiting queue = e.queues[queue].toList :=
      waiting_of_getElem? (Array.getElem?_eq_getElem inside)
    refine ⟨?_, ?_, ?_, policy, posted, count⟩
    · rw [here, waiting_of_getElem? (Array.getElem?_set_self inside)]
      exact TaskQueue.pop?_perm popped
    · rw [here]
      exact TaskQueue.pop?_first popped
    · intro other apart
      exact Array.getElem?_set_ne inside apart.symm
  · cases taken

/-- What waits after a task is taken waited before. -/
theorem Takes.mem_waiting {e rest : Executor β} {queue : Nat} {task : Task β}
    (takes : e.Takes queue task rest) {other : Nat} {left : Task β}
    (member : left ∈ rest.waiting other) : left ∈ e.waiting other := by
  by_cases same : other = queue
  · subst same
    exact takes.perm.subset (List.mem_cons_of_mem _ member)
  · rwa [waiting_congr (takes.others other same)] at member

/-- An attempt to run a task takes one out of a queue, or leaves everything as it is. -/
theorem begin_cases (e : Executor β) :
    (∃ queue task hint rest, Call.begin.make e = (.began ⟨queue, task⟩ hint, rest) ∧
        e.Takes queue task rest) ∨
      (∃ more, Call.begin.make e = (.passed more, e)) ∨
      ∃ payload, Call.begin.make e = (.panicked payload, e) := by
  cases selected : (e.policy.select e.views).selection with
  | error payload => exact .inr (.inr ⟨payload, by simp only [Call.make, selected]⟩)
  | ok selection =>
    obtain ⟨_ | queue, more⟩ := selection
    · exact .inr (.inl ⟨more, by simp only [Call.make, selected, follow]⟩)
    · cases taken : e.take? queue with
      | none => exact .inr (.inl ⟨more, by simp only [Call.make, selected, follow, taken]⟩)
      | some pair =>
        obtain ⟨task, rest⟩ := pair
        refine .inl ⟨queue, task, more, rest, ?_, takes_of_take? taken⟩
        simp only [Call.make, selected, follow, taken]

/-- The task that begins was taken out of its queue. -/
theorem take?_of_begin {e rest : Executor β} {begun : Placed β} {hint : Bool}
    (began : Call.begin.make e = (.began begun hint, rest)) :
    e.take? begun.queue = some (begun.task, rest) := by
  simp only [Call.make] at began
  cases selected : (e.policy.select e.views).selection with
  | error payload =>
    rw [selected] at began
    cases began
  | ok selection =>
    obtain ⟨_ | queue, more⟩ := selection
    · simp only [selected, follow] at began
      cases began
    · cases taken : e.take? queue with
      | none =>
        simp only [selected, follow, taken] at began
        cases began
      | some pair =>
        simp only [selected, follow, taken] at began
        cases began
        exact taken

end Executor

end PluginHost
