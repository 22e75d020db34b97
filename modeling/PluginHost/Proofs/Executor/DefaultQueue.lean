import PluginHost.Proofs.Executor.IsolatedRun
import PluginHost.Proofs.Executor.OneQueue
import PluginHost.Proofs.Executor.OtherQueues

set_option autoImplicit false

namespace PluginHost

open Act (Alike)

namespace Executor

/-- What an attempt to run a task comes to, apart from the number of the task: its priority and its
body, if one was taken, and the result. -/
abbrev Execution := Option (Int × Code) × Except Failure Bool

def Execution.reroute (route : Nat → Option Nat) (execution : Execution) : Execution :=
  (execution.1.map fun taken => (taken.1, taken.2.reroute route), execution.2)

def Outcome.execution? : Outcome → Option Execution
  | .executed taken result => some (taken.map fun task => (task.priority, task.body), result)
  | .posted _ | .cleared => none

def executions (outcomes : List Outcome) : List Execution := outcomes.filterMap Outcome.execution?

/-- The operation with its posts rerouted, unless it is a post to another queue than queue 0. -/
def Operation.front? (route : Nat → Option Nat) : Operation → Option Operation
  | .post priority queue body =>
    if queue = 0 then some (.post priority 0 (body.reroute route)) else none
  | .execute => some .execute
  | .clear => some .clear

def Operation.IsFront : Operation → Bool
  | .post _ queue _ => queue = 0
  | .execute | .clear => true

/-- Operations that post such code only as looks at queue 0 alone. -/
def Operation.Inward : Operation → Prop
  | .post _ _ body => body.Inward
  | .execute | .clear => True

theorem filterMap_front? (history : List Operation) :
    history.filterMap (Operation.front? some) = history.filter Operation.IsFront := by
  induction history with
  | nil => rfl
  | cons operation rest ih =>
    cases operation with
    | post priority queue body =>
      by_cases front : queue = 0
      · subst front
        simp [Operation.front?, Operation.IsFront, Code.reroute_some, ih]
      · simp [Operation.front?, Operation.IsFront, front, ih]
    | execute | clear =>
      simp only [List.filterMap_cons, Operation.front?, ih]
      rfl

theorem Execution.reroute_some (execution : Execution) : execution.reroute some = execution := by
  obtain ⟨taken, result⟩ := execution
  cases taken <;> simp [Execution.reroute, Code.reroute_some]

end Executor

namespace Host

open Rerouting

variable {n : Nat} {drop : Nat → Bool}

/-- What the journal shows of queue 0. -/
def frontJournal (h : Host) : List Entry := h.journal.toList.filterMap Entry.front?

theorem taken?_isolated {h k : Host} (hosts : (isolated n drop).Hosts h k) :
    k.taken?.map (fun task => (task.priority, task.body)) =
      h.taken?.map fun task => (task.priority, task.body.reroute (leaveOut drop)) := by
  rcases isolated_selects hosts with
    ⟨idle, idle'⟩ | ⟨_, _, t, u, _, _, selected, selected', followed, followed', tasks, _⟩
  · simp only [taken?, idle, idle', Executor.follow, Selection.none, Option.map_none]
  · have body : u.body = t.body.reroute (leaveOut drop) := tasks.body
    simp only [taken?, selected, selected', followed, followed', Option.map_some, tasks.priority,
      body]

/-- What a task makes of the host is what its body makes of it. -/
theorem runTask_host (dispatch : Dispatch) (task : Task Code) (hint : Bool) (h : Host) :
    (runTask dispatch task hint h).2 =
      (dispatch task.body (h.tell .executor .trace "Running task"
        [("priority", .number task.priority), ("sequence", .number task.sequence)])).2 := by
  have still : ∀ {α β : Type} (first : Act Host α) (next : α → Act Host β),
      (∀ a s, (next a s).2 = s) → ∀ s, ((first >>= next) s).2 = (first s).2 := by
    intro α β first next stays s
    rw [Act.bind_apply]
    rcases first s with ⟨flow, after⟩
    cases flow with
    | returned a => exact stays a after
    | unwound | stalled => rfl
  rw [runTask, Act.bind_apply, Act.modify_apply]
  exact still _ _ (fun _ _ => rfl) _

/-- An attempt to run a task leaves the executor alone, or takes a task out of queue 0 and then does
what its body does, and nothing else, with the host. -/
theorem execute_by_body (dispatch : Dispatch) {h : Host}
    (policy : h.executor.policy = .defaultQueue) :
    (h.taken? = none ∧ (execute dispatch h).2.executor = h.executor) ∨
      ∃ task started, h.taken? = some task ∧
        (∀ queue, queue ≠ 0 → started.executor.queues[queue]? = h.executor.queues[queue]?) ∧
        (execute dispatch h).2 = (dispatch task.body started).2 := by
  rcases h.executor.select_defaultQueue policy with
    ⟨_, idle⟩ | ⟨task, rest, selected, followed, taken⟩
  · left
    simp only [taken?, execute, idle, Executor.follow, Selection.none, List.foldl_nil]
    exact ⟨trivial, trivial⟩
  · right
    let started : Host := { h with executor := rest }.tell .executor .trace "Running task"
      [("priority", .number task.priority), ("sequence", .number task.sequence)]
    refine ⟨task, started, ?_, taken.others, ?_⟩
    · simp only [taken?, selected, followed]
    · simp only [execute, selected, followed, List.foldl_nil]
      exact runTask_host dispatch task true _

end Host

namespace Executor

open Rerouting (isolated)

variable {n : Nat} {drop : Nat → Bool} {dispatch : Dispatch}

theorem executions_cons (outcome : Outcome) (later : List Outcome) :
    executions (outcome :: later) = outcome.execution?.toList ++ executions later := by
  unfold executions
  rw [List.filterMap_cons]
  cases outcome.execution? <;> rfl

/-- An operation that both histories have. -/
theorem Operation.perform_front (lawful : (isolated n drop).Lawful)
    (runs : (isolated n drop).Dispatches dispatch) {operation other : Operation}
    (inward : operation.Inward) (front : operation.front? (leaveOut drop) = some other) :
    Alike (isolated n drop).Hosts
      ((fun outcome => outcome.execution?.map (Execution.reroute (leaveOut drop))) <$>
        operation.perform dispatch)
      (Outcome.execution? <$> other.perform dispatch) := by
  cases operation with
  | post priority queue body =>
    simp only [front?, Option.ite_none_right_eq_some, Option.some.injEq] at front
    obtain ⟨rfl, rfl⟩ := front
    simp only [perform, map_bind]
    exact Alike.bind (Alike.step fun _ _ hosts => Rerouting.isolated_post hosts priority 0 inward)
      fun result => Alike.pure _
  | execute =>
    cases front
    simp only [perform, map_bind]
    intro h k hosts
    have same : Alike (isolated n drop).Hosts
        (Host.execute dispatch >>= fun result => pure
          ((Outcome.executed h.taken? result).execution?.map
            (Execution.reroute (leaveOut drop))))
        (Host.execute dispatch >>= fun result => pure
          (Outcome.executed k.taken? result).execution?) := by
      have taken := Host.taken?_isolated hosts
      refine Alike.bind (lawful.execute runs) fun result => ?_
      have shown : (Outcome.executed k.taken? result).execution? =
          (Outcome.executed h.taken? result).execution?.map
            (Execution.reroute (leaveOut drop)) := by
        simp only [Outcome.execution?, taken, Option.map_some, Execution.reroute, Option.map_map]
        rfl
      rw [shown]
      exact Alike.pure _
    exact same h k hosts
  | clear =>
    cases front
    simp only [perform, map_bind]
    exact Alike.bind (Alike.modify fun _ _ hosts => Rerouting.isolated_clear hosts)
      fun _ => Alike.pure _

/-- A post to another queue, which is an operation of the first history only. -/
theorem performAll_other (priority : Int) {queue : Nat} (body : Code) (rest : List Operation)
    (h : Host) :
    (executions <$> performAll dispatch (.post priority queue body :: rest)) h =
      (executions <$> performAll dispatch rest) (h.post priority queue body).2 := by
  simp only [performAll, Operation.perform, map_bind, bind_assoc, pure_bind, map_pure,
    executions_cons, Outcome.execution?, Option.toList_none, List.nil_append]
  rw [map_eq_pure_bind]
  rfl

theorem performAll_front (lawful : (isolated n drop).Lawful)
    (runs : (isolated n drop).Dispatches dispatch) (history : List Operation)
    (inward : ∀ operation ∈ history, operation.Inward) :
    Alike (isolated n drop).Hosts
      (List.map (Execution.reroute (leaveOut drop)) <$> executions <$>
        performAll dispatch history)
      (executions <$>
        performAll dispatch (history.filterMap (Operation.front? (leaveOut drop)))) := by
  induction history with
  | nil => exact Alike.pure _
  | cons operation rest ih =>
    have later := ih fun o member => inward o (List.mem_cons_of_mem _ member)
    have mine := inward operation List.mem_cons_self
    cases front : operation.front? (leaveOut drop) with
    | none =>
      rw [List.filterMap_cons_none front]
      cases operation with
      | post priority queue body =>
        have other : queue ≠ 0 := by
          rintro rfl
          cases front
        intro h k hosts
        have same : (List.map (Execution.reroute (leaveOut drop)) <$> executions <$>
              performAll dispatch (.post priority queue body :: rest)) h =
            (List.map (Execution.reroute (leaveOut drop)) <$> executions <$>
              performAll dispatch rest) (h.post priority queue body).2 := by
          rw [Act.map_apply, performAll_other, Act.map_apply (List.map _)]
        rw [same]
        exact later _ k (Rerouting.isolated_postFirst hosts priority other body)
      | execute | clear => cases front
    | some other =>
      rw [List.filterMap_cons_some front]
      have first := Operation.perform_front lawful runs mine front
      have both := Alike.bind first fun shown => Alike.bind later fun executions =>
        Alike.pure (R := (isolated n drop).Hosts) (shown.toList ++ executions)
      simpa only [performAll, map_bind, map_pure, bind_map_left, executions_cons, List.map_append,
        Option.toList_map] using both

/-- Two histories come to the same attempts, with the code of the second one rerouted, and the
journals show the same of queue 0. -/
def Agree (route : Nat → Option Nat) (first second : Flow (List Outcome) × Host) : Prop :=
  second.1.map executions =
      first.1.map (fun outcomes => (executions outcomes).map (Execution.reroute route)) ∧
    second.2.frontJournal = first.2.frontJournal

/-- An attempt to run a task changes nothing, or it takes a task out of queue 0 and the rest is done
by the body of that task. If no code clears the executor or sets another policy, the other queues
hold afterwards what they held and what was posted meanwhile. -/
def LeavesOthers (dispatch : Dispatch) (h : Host) : Prop :=
  ((h.taken? = none ∧ (Host.execute dispatch h).2.executor = h.executor) ∨
      ∃ task started, h.taken? = some task ∧
        (∀ queue, queue ≠ 0 → started.executor.queues[queue]? = h.executor.queues[queue]?) ∧
        (Host.execute dispatch h).2 = (dispatch task.body started).2) ∧
    (h.Holds Code.Preserving → (∀ t ∈ h.executor.waiting 0, t.body.Preserving) →
      ∀ queue, queue ≠ 0 → ∃ posted,
        ((Host.execute dispatch h).2.executor.waiting queue).Perm
            (posted ++ h.executor.waiting queue) ∧
          ∀ t ∈ posted, h.executor.posted ≤ t.sequence)

theorem performAll_agrees (depth : Nat) {h : Host} {history : List Operation} (drop : Nat → Bool)
    (policy : h.executor.policy = .defaultQueue) (idle : h.executor.waiting 0 = [])
    (registered : 0 < h.executor.queues.size) (kept : h.Holds Code.Inward)
    (posts : ∀ operation ∈ history, operation.Inward)
    (others : ∀ queue, drop queue = true → queue ≠ 0 ∧ queue < h.executor.queues.size) :
    Agree (leaveOut drop) (performAll (Code.runWithin depth) history h)
      (performAll (Code.runWithin depth) (history.filterMap (Operation.front? (leaveOut drop)))
        (h.reroute (leaveOut drop))) := by
  have lawful := Rerouting.isolated_lawful others
  have inStep : InStep (Code.reroute (leaveOut drop)) Code.Inward [] h.executor h.executor :=
    ⟨by rw [idle]; exact .nil, by rw [idle]; exact .nil, by simp, .nil, by simp⟩
  have related : (isolated h.executor.queues.size drop).Executors h.executor h.executor :=
    ⟨registered, Nat.le_refl _, rfl, policy, policy, [], inStep⟩
  have hosts : (isolated h.executor.queues.size drop).Hosts h (h.reroute (leaveOut drop)) :=
    .start kept (fun _ _ => trivial) related
  obtain ⟨same, after⟩ :=
    performAll_front lawful (lawful.runWithin depth) history posts h _ hosts
  rw [Act.map_apply, Act.map_apply, Act.map_apply] at same after
  refine ⟨same.trans ?_, after.journal⟩
  cases (performAll (Code.runWithin depth) history h).1 <;> rfl

theorem Agree.same {first second : Flow (List Outcome) × Host} (agree : Agree some first second) :
    second.1.map executions = first.1.map executions := by
  have unchanged : (fun outcomes => (executions outcomes).map (Execution.reroute some)) =
      executions := by
    funext outcomes
    rw [funext Execution.reroute_some, List.map_id']
  rw [agree.1, unchanged]

/-- Under the policy of the default queue the same tasks run in the same order, and every attempt
comes to the same, whether or not a history has posts to other queues, and whether or not the code
that it runs makes such posts. An attempt does nothing to the other queues by itself. -/
theorem performAll_default_queue (depth : Nat) (h : Host) (history : List Operation)
    (policy : h.executor.policy = .defaultQueue) (idle : h.executor.waiting 0 = [])
    (registered : 0 < h.executor.queues.size) (kept : h.Holds Code.Inward)
    (posts : ∀ operation ∈ history, operation.Inward) :
    ((performAll (Code.runWithin depth) (history.filter Operation.IsFront) h).1.map executions =
        (performAll (Code.runWithin depth) history h).1.map executions ∧
      (performAll (Code.runWithin depth) (history.filter Operation.IsFront) h).2.frontJournal =
        (performAll (Code.runWithin depth) history h).2.frontJournal) ∧
    (∀ drop : Nat → Bool,
      (∀ queue, drop queue = true → queue ≠ 0 ∧ queue < h.executor.queues.size) →
        Agree (leaveOut drop) (performAll (Code.runWithin depth) history h)
          (performAll (Code.runWithin depth)
            (history.filterMap (Operation.front? (leaveOut drop)))
            (h.reroute (leaveOut drop)))) ∧
    ∀ g : Host, g.executor.policy = .defaultQueue → LeavesOthers (Code.runWithin depth) g := by
  have agrees := fun drop others =>
    performAll_agrees depth drop policy idle registered kept posts others
  refine ⟨?_, agrees, fun g default => ⟨Host.execute_by_body _ default, ?_⟩⟩
  · have untouched := agrees (fun _ => false) (by simp)
    have nothing : leaveOut (fun _ => false) = some := rfl
    rw [nothing, filterMap_front?, Host.reroute_some] at untouched
    exact ⟨untouched.same, untouched.2⟩
  · intro holds front queue other
    have grown := Host.execute_outgrows depth default holds front
    obtain ⟨posted, perm, numbers⟩ := grown.others queue other
    exact ⟨posted, perm, fun t member => (numbers t member).1⟩

/-- Three queues, a task that waits elsewhere, one that fails, and one that posts to another queue
and panics. -/
theorem performAll_default_queue_of_three :
    let h : Host := { executor := ⟨#[.empty, .empty, .empty], .defaultQueue, 0⟩ }
    let history : List Operation :=
      [.post 9 1 .nothing, .post 3 0 (.fail Failure.scopeTaken),
        .post 5 0 (.post 3 2 .nothing fun _ => .panic .opaqueValue),
        .execute, .execute, .post 7 2 .nothing, .clear, .execute]
    ((performAll (Code.runWithin 2) (history.filter Operation.IsFront) h).1.map executions =
        (performAll (Code.runWithin 2) history h).1.map executions ∧
      (performAll (Code.runWithin 2) (history.filter Operation.IsFront) h).2.frontJournal =
        (performAll (Code.runWithin 2) history h).2.frontJournal) ∧
    (∀ drop : Nat → Bool,
      (∀ queue, drop queue = true → queue ≠ 0 ∧ queue < h.executor.queues.size) →
        Agree (leaveOut drop) (performAll (Code.runWithin 2) history h)
          (performAll (Code.runWithin 2)
            (history.filterMap (Operation.front? (leaveOut drop)))
            (h.reroute (leaveOut drop)))) ∧
    ∀ g : Host, g.executor.policy = .defaultQueue → LeavesOthers (Code.runWithin 2) g := by
  refine performAll_default_queue 2 _ _ rfl rfl (by decide) ⟨?_, ?_, ?_⟩ ?_
  · simp
  · simp
  · simp
  · simp [Operation.Inward, Code.Inward, Code.Suits, Code.fail, Code.nothing]

end Executor

end PluginHost
