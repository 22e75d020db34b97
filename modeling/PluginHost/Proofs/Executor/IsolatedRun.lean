import PluginHost.Proofs.Executor.Isolation
import PluginHost.Proofs.Executor.ReroutedRun

set_option autoImplicit false

namespace PluginHost

namespace Code

/-- What follows a request does not depend on queues other than queue 0, nor on the numbers of
tasks, and the policy of the default queue stays in force. -/
def LooksAtFront : (request : Request) → (request.Answer → Code) → Prop
  | .queues, next => ∀ v w : List QueueView, QueueViews.SameFront v w → next v = next w
  | .setPolicy policy, _ => policy = .defaultQueue
  | _, _ => True

/-- Code that may post to any queue and looks at queue 0 only, and so for all code that it hands
on. -/
def Inward (code : Code) : Prop := code.Suits (fun _ => True) LooksAtFront

end Code

/-- An event of the executor without the numbers of tasks. Posts to queues other than queue 0 are
left out, and clears, which tell how many tasks of all queues they dropped. -/
def Event.front? (e : Event) : Option Event :=
  if e.message = "Executor cleared" then none
  else if e.message = "Task posted" ∧ ("queue", .text (queueName 0)) ∉ e.fields then none
  else some { e with fields := e.fields.filter fun field => field.1 ≠ "sequence" }

def Entry.front? : Entry → Option Entry
  | .note text => some (.note text)
  | .event e => if e.target = Origin.executor.target then e.front?.map .event else some (.event e)

def leaveOut (drop : Nat → Bool) (queue : Nat) : Option Nat :=
  if drop queue then none else some queue

theorem leaveOut_getD (drop : Nat → Bool) (queue : Nat) :
    (leaveOut drop queue).getD queue = queue := by
  unfold leaveOut
  split <;> rfl

namespace Entry

def posted (priority : Int) (sequence queue : Nat) : Entry :=
  .event (Origin.executor.event .trace "Task posted"
    [("priority", .number priority), ("sequence", .number sequence),
      ("queue", .text (queueName queue))])

theorem queueName_ne {queue : Nat} (other : queue ≠ 0) : queueName queue ≠ queueName 0 := by
  intro same
  have digits : Nat.toDigits 10 queue = Nat.toDigits 10 0 := by
    have chars := congrArg String.toList same
    simpa [queueName, Nat.toString_eq_repr, Nat.toList_repr] using chars
  have read := congrArg (fun digits => Nat.ofDigitChars 10 digits 0) digits
  simp only [Nat.ofDigitChars_ten_toDigits] at read
  exact other read

/-- Posts to queue 0 show alike, whatever number the task gets. -/
theorem front?_posted (priority : Int) (sequence other : Nat) :
    front? (posted priority other 0) = front? (posted priority sequence 0) := by
  simp [front?, posted, Origin.event, Event.front?]

theorem front?_posted_other (priority : Int) (sequence : Nat) {queue : Nat} (other : queue ≠ 0) :
    front? (posted priority sequence queue) = none := by
  have name := (queueName_ne other).symm
  simp [front?, posted, Origin.event, Event.front?, name]

theorem front?_cleared (dropped : Nat) :
    front? (.event (Origin.executor.event .debug "Executor cleared"
      [("dropped", .number dropped)])) = none := by
  simp [front?, Origin.event, Event.front?]

end Entry

namespace Rerouting

/-- Posts to some queues are left out. -/
def isolated (n : Nat) (drop : Nat → Bool) : Rerouting where
  route := leaveOut drop
  Open := fun _ => True
  Fair := Code.LooksAtFront
  view := Entry.front?
  Executors := Executor.Isolates (Code.reroute (leaveOut drop)) Code.Inward n

variable {n : Nat} {drop : Nat → Bool} {h k : Host}

/-- A post to another queue, of the first host only. -/
theorem isolated_postFirst (hosts : (isolated n drop).Hosts h k) (priority : Int) {queue : Nat}
    (other : queue ≠ 0) (body : Code) :
    (isolated n drop).Hosts (h.post priority queue body).2 k := by
  unfold Host.post
  cases posted : h.executor.post? priority queue body with
  | none => exact hosts
  | some e =>
    have moved : (isolated n drop).Hosts { h with executor := e } k :=
      { hosts with executor := hosts.executor.postLeft other posted }
    exact Hosts.rouseFirst
      (moved.sayUnseen (Entry.front?_posted_other priority h.executor.posted other))

/-- A post of both hosts, to any queue. -/
theorem isolated_post (hosts : (isolated n drop).Hosts h k) (priority : Int) (queue : Nat)
    {body : Code} (inward : body.Inward) :
    (k.post priority queue (body.reroute (leaveOut drop))).1 = (h.post priority queue body).1 ∧
      (isolated n drop).Hosts (h.post priority queue body).2
        (k.post priority queue (body.reroute (leaveOut drop))).2 := by
  by_cases front : queue = 0
  · subst front
    obtain ⟨e, f, posted, posted', related⟩ := hosts.executor.post? priority inward
    simp only [Host.post, posted, posted']
    refine ⟨trivial, Hosts.rouse (Hosts.sayBoth (hosts.withExecutor related) ?_)⟩
    exact Entry.front?_posted priority h.executor.posted k.executor.posted
  · have count : k.executor.queues.size = h.executor.queues.size := hosts.executor.count
    unfold Host.post
    cases posted : h.executor.post? priority queue body with
    | none =>
      have refused : k.executor.post? priority queue (body.reroute (leaveOut drop)) = none := by
        rw [Executor.post?_eq_none_iff, count]
        exact Executor.post?_eq_none_iff.1 posted
      rw [refused]
      exact ⟨rfl, hosts⟩
    | some e =>
      cases posted' : k.executor.post? priority queue (body.reroute (leaveOut drop)) with
      | none =>
        have outside := Executor.post?_eq_none_iff.1 posted'
        rw [count] at outside
        have refused : h.executor.post? priority queue body = none :=
          Executor.post?_eq_none_iff.2 outside
        rw [posted] at refused
        cases refused
      | some f =>
        refine ⟨rfl, Hosts.rouse (Hosts.sayBoth
          (hosts.withExecutor (hosts.executor.postBoth front posted posted')) ?_)⟩
        exact (Entry.front?_posted_other _ _ front).trans (Entry.front?_posted_other _ _ front).symm

theorem isolated_clear (hosts : (isolated n drop).Hosts h k) :
    (isolated n drop).Hosts h.clear k.clear := by
  have cleared := hosts.withExecutor (Executor.Isolates.clear hosts.executor)
  have unseen : ∀ dropped : Nat, (isolated n drop).view (.event (Origin.executor.event .debug
      "Executor cleared" [("dropped", .number dropped)])) = none := Entry.front?_cleared
  unfold Host.clear
  dsimp only
  split <;> split
  · exact cleared
  · exact cleared.sayUnseenSecond (unseen k.executor.pending)
  · exact cleared.sayUnseen (unseen h.executor.pending)
  · exact (cleared.sayUnseen (unseen h.executor.pending)).sayUnseenSecond
      (unseen k.executor.pending)

theorem isolated_addQueue (hosts : (isolated n drop).Hosts h k) :
    (isolated n drop).Hosts h.addQueue k.addQueue := by
  unfold Host.addQueue
  rw [hosts.executor.count]
  exact (hosts.withExecutor (Executor.Isolates.addQueue hosts.executor)).tell _ _ _ _

theorem isolated_selects (hosts : (isolated n drop).Hosts h k) :
    (isolated n drop).Selects h k := by
  rcases Executor.Isolates.select hosts.executor with
    idle | ⟨t, u, e, f, selected, selected', followed, followed', same, related⟩
  · exact .inl idle
  · refine .inr ⟨_, _, t, u, e, f, selected, selected', followed, followed', ?_, related⟩
    obtain ⟨priority, body, fit⟩ := same
    refine ⟨priority, body, fit, ?_⟩
    simp [isolated, running, Entry.front?, Origin.event, Event.front?, priority]

/-- Executors whose queues 0 are in step stay so, if only posts to other queues are left out. -/
theorem isolated_lawful (others : ∀ queue, drop queue = true → queue ≠ 0 ∧ queue < n) :
    (isolated n drop).Lawful where
  post hosts priority queue _ _ fit := by
    rw [show ((isolated n drop).route queue).getD queue = queue from leaveOut_getD drop queue]
    exact isolated_post hosts priority queue fit
  leaves {h k} hosts priority queue body _ left _ := by
    have dropped : drop queue = true := by
      simpa [isolated, leaveOut] using left
    obtain ⟨other, inside⟩ := others queue dropped
    refine ⟨?_, isolated_postFirst hosts priority other body⟩
    have registered : n ≤ h.executor.queues.size := hosts.executor.registered
    have accepted : h.executor.post? priority queue body ≠ none := by
      rw [Ne, Executor.post?_eq_none_iff]
      omega
    obtain ⟨e, posted⟩ := Option.ne_none_iff_exists'.1 accepted
    rw [Host.post, posted]
  addQueue hosts := ⟨hosts.executor.count, isolated_addQueue hosts⟩
  setPolicy hosts policy _ fair := by
    obtain rfl : policy = .defaultQueue := fair
    exact (hosts.tell _ _ _ _).withExecutor (Executor.Isolates.setPolicy hosts.executor)
  clear hosts _ _ := isolated_clear hosts
  queues hosts _ fair := (fair _ _ (Executor.Isolates.sameFront hosts.executor)).symm
  selects hosts := isolated_selects hosts
  more hosts := by
    have size := (Executor.Isolates.sameFront hosts.executor).size
    simp only [Executor.more, hosts.executor.policy, hosts.executor.samePolicy, Policy.more, size]

end Rerouting

end PluginHost
