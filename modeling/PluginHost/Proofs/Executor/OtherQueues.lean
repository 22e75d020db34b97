import PluginHost.Proofs.Executor.Isolation
import PluginHost.Proofs.Executor.ReroutedRun

set_option autoImplicit false

namespace PluginHost

namespace Code

/-- A request that neither drops waiting tasks nor sets another policy than the default queue. -/
def Preserves : (request : Request) → (request.Answer → Code) → Prop
  | .clear, _ => False
  | .setPolicy policy, _ => policy = .defaultQueue
  | _, _ => True

/-- Code that posts and does not clear, and so for all code that it hands on. -/
def Preserving (code : Code) : Prop := code.Suits (fun _ => True) Preserves

end Code

namespace Executor

/-- What an executor came to from a start, where tasks of queue 0 are of some sort: the other queues
hold what they held, and tasks that were posted since. -/
structure Outgrows (Fit : Code → Prop) (start e : Executor Code) : Prop where
  policy : e.policy = .defaultQueue
  posted : start.posted ≤ e.posted
  front : ∀ t ∈ e.waiting 0, Fit t.body
  others : ∀ queue, queue ≠ 0 → ∃ added, (e.waiting queue).Perm (added ++ start.waiting queue) ∧
    ∀ t ∈ added, start.posted ≤ t.sequence ∧ t.sequence < e.posted

namespace Outgrows

variable {Fit : Code → Prop} {start e after : Executor Code}

theorem refl (policy : e.policy = .defaultQueue) (front : ∀ t ∈ e.waiting 0, Fit t.body) :
    Outgrows Fit e e where
  policy := policy
  posted := Nat.le_refl _
  front := front
  others _ _ := ⟨[], List.Perm.refl _, by simp⟩

theorem post? (grown : Outgrows Fit start e) {priority : Int} {queue : Nat} {body : Code}
    (fit : Fit body) (posted : e.post? priority queue body = some after) :
    Outgrows Fit start after := by
  obtain ⟨counts, policy⟩ := posted_post? posted
  have since := grown.posted
  refine ⟨by rw [policy, grown.policy], by omega, ?_, ?_⟩
  · intro t member
    rcases mem_waiting_post? posted member with ⟨_, rfl⟩ | old
    · exact fit
    · exact grown.front t old
  · intro other apart
    obtain ⟨added, perm, numbers⟩ := grown.others other apart
    have kept : ∀ t ∈ added, start.posted ≤ t.sequence ∧ t.sequence < after.posted := by
      intro t member
      obtain ⟨lower, upper⟩ := numbers t member
      omega
    by_cases here : other = queue
    · subst here
      refine ⟨⟨priority, e.posted, body⟩ :: added, (waiting_post? posted).1.trans (perm.cons _), ?_⟩
      intro t member
      rcases List.mem_cons.1 member with rfl | old
      · exact ⟨since, by rw [counts]; exact Nat.lt_succ_self _⟩
      · exact kept t old
    · rw [(waiting_post? posted).2 other here]
      exact ⟨added, perm, kept⟩

theorem addQueue (grown : Outgrows Fit start e) : Outgrows Fit start e.addQueue where
  policy := grown.policy
  posted := grown.posted
  front := by
    rw [waiting_addQueue]
    exact grown.front
  others queue other := by
    rw [waiting_addQueue]
    exact grown.others queue other

/-- A task that is taken is of queue 0. -/
theorem take (grown : Outgrows Fit start e) {t : Task Code} (taken : e.Takes 0 t after) :
    Fit t.body ∧ Outgrows Fit start after := by
  refine ⟨grown.front t (taken.perm.subset List.mem_cons_self), ?_, ?_, ?_, ?_⟩
  · rw [taken.policy, grown.policy]
  · rw [taken.posted]
    exact grown.posted
  · exact fun s member => grown.front s (taken.mem_waiting member)
  · intro queue other
    rw [waiting_congr (taken.others queue other), taken.posted]
    exact grown.others queue other

end Outgrows

end Executor

namespace Rerouting

/-- Nothing is rerouted: a host beside itself, whose executor has come from some start. -/
def beside (start : Executor Code) : Rerouting where
  route := some
  Open := fun _ => True
  Fair := Code.Preserves
  view := fun _ => none
  Executors := fun e f => f = e ∧ Executor.Outgrows Code.Preserving start e

variable {start : Executor Code} {h k : Host}

theorem beside_code (code : Code) : (beside start).code code = code := code.reroute_some

theorem beside_post (hosts : (beside start).Hosts h k) (priority : Int) (queue : Nat) {body : Code}
    (fit : body.Preserving) :
    (k.post priority queue body).1 = (h.post priority queue body).1 ∧
      (beside start).Hosts (h.post priority queue body).2 (k.post priority queue body).2 := by
  obtain ⟨same, grown⟩ := hosts.executor
  unfold Host.post
  rw [same]
  cases posted : h.executor.post? priority queue body with
  | none => exact ⟨rfl, hosts⟩
  | some after =>
    have related : (beside start).Executors after after := ⟨rfl, grown.post? fit posted⟩
    exact ⟨rfl, Hosts.rouse ((hosts.withExecutor related).tell _ _ _ _)⟩

theorem beside_addQueue (hosts : (beside start).Hosts h k) :
    (beside start).Hosts h.addQueue k.addQueue := by
  obtain ⟨same, grown⟩ := hosts.executor
  have related : (beside start).Executors h.executor.addQueue h.executor.addQueue :=
    ⟨rfl, grown.addQueue⟩
  unfold Host.addQueue
  rw [same]
  exact (hosts.withExecutor related).tell _ _ _ _

theorem beside_selects (hosts : (beside start).Hosts h k) : (beside start).Selects h k := by
  obtain ⟨same, grown⟩ := hosts.executor
  unfold Selects
  rw [same]
  rcases h.executor.select_defaultQueue grown.policy with
    ⟨_, idle⟩ | ⟨t, rest, selected, followed, taken⟩
  · exact .inl ⟨idle, idle⟩
  · obtain ⟨fit, after⟩ := grown.take taken
    have tasks : (beside start).Tasks t t := ⟨rfl, (beside_code t.body).symm, fit, rfl⟩
    exact .inr ⟨_, _, t, t, rest, rest, selected, selected, followed, followed, tasks, rfl, after⟩

theorem beside_lawful (start : Executor Code) : (beside start).Lawful where
  post hosts priority queue body _ fit := by
    rw [beside_code]
    exact beside_post hosts priority queue fit
  leaves _ _ _ _ _ none := by cases none
  addQueue hosts := ⟨congrArg (fun e : Executor Code => e.queues.size) hosts.executor.1,
    beside_addQueue hosts⟩
  setPolicy {h k} hosts policy _ fair := by
    obtain rfl : policy = .defaultQueue := fair
    obtain ⟨same, grown⟩ := hosts.executor
    have related : (beside start).Executors (h.executor.setPolicy .defaultQueue)
        (k.executor.setPolicy .defaultQueue) :=
      ⟨by rw [same], { grown with policy := rfl }⟩
    exact (hosts.tell _ _ _ _).withExecutor related
  clear _ _ fair := fair.elim
  queues hosts next _ := congrArg (fun e : Executor Code => next e.views) hosts.executor.1
  selects hosts := beside_selects hosts
  more hosts := congrArg (fun e : Executor Code => e.more true) hosts.executor.1

end Rerouting

namespace Host

/-- Under the policy of the default queue an attempt to run a task leaves the other queues with what
they held and what was posted meanwhile, if no code clears the executor. -/
theorem execute_outgrows (depth : Nat) {h : Host} (policy : h.executor.policy = .defaultQueue)
    (holds : h.Holds Code.Preserving)
    (front : ∀ t ∈ h.executor.waiting 0, t.body.Preserving) :
    Executor.Outgrows Code.Preserving h.executor
      (execute (Code.runWithin depth) h).2.executor := by
  have lawful := Rerouting.beside_lawful h.executor
  have related : (Rerouting.beside h.executor).Executors h.executor h.executor :=
    ⟨rfl, .refl policy front⟩
  have hosts : (Rerouting.beside h.executor).Hosts h (h.reroute some) :=
    .start holds (fun _ _ => trivial) related
  obtain ⟨_, after⟩ := lawful.execute (lawful.runWithin depth) h _ hosts
  exact after.executor.2

end Host

end PluginHost
