import PluginHost.Proofs.Executor.RedirectedRun

set_option autoImplicit false

namespace PluginHost

namespace Executor

inductive Operation where
  | post (priority : Int) (queue : Nat) (body : Code)
  | execute
  | clear

/-- What an operation comes to. An attempt to run a task shows the task that was taken. -/
inductive Outcome where
  | posted (result : Except Failure Unit)
  | executed (taken : Option (Task Code)) (result : Except Failure Bool)
  | cleared

end Executor

/-- The task that an attempt to run one takes. -/
def Host.taken? (h : Host) : Option (Task Code) :=
  match (h.executor.policy.select h.executor.views).selection with
  | .error _ => none
  | .ok selection =>
    match h.executor.follow selection with
    | .task task _ _ => some task
    | _ => none

namespace Executor

def Operation.perform (dispatch : Dispatch) : Operation → Act Host Outcome
  | .post priority queue body => do
    let result ← Act.step fun h => h.post priority queue body
    pure (.posted result)
  | .execute => do
    let taken ← Act.look Host.taken?
    let result ← Host.execute dispatch
    pure (.executed taken result)
  | .clear => do
    Act.modify Host.clear
    pure .cleared

def performAll (dispatch : Dispatch) : List Operation → Act Host (List Outcome)
  | [] => pure []
  | operation :: rest => do
    let outcome ← operation.perform dispatch
    let later ← performAll dispatch rest
    pure (outcome :: later)

def Operation.redirect : Operation → Operation
  | .post priority _ body => .post priority 0 body.redirect
  | .execute => .execute
  | .clear => .clear

def Outcome.redirect : Outcome → Outcome
  | .posted result => .posted result
  | .executed taken result => .executed (taken.map Task.redirect) result
  | .cleared => .cleared

/-- Operations that post to queues below a number only, and only such code. -/
def Operation.Blind (n : Nat) : Operation → Prop
  | .post _ queue body => queue < n ∧ body.Blind n
  | .execute | .clear => True

end Executor

namespace Host

def redirect (h : Host) : Host :=
  { h with
    channels := h.channels.map Channel.redirect
    methods := h.methods.map Method.redirect
    keptPosts := h.keptPosts.map fun kept => (kept.1, kept.2.redirect) }

/-- A host that keeps such code only as posts to queues below a number and does not look at the
queues one by one. -/
structure Blind (n : Nat) (h : Host) : Prop where
  subscribers : ∀ c ∈ h.channels, c.Blind n
  providers : ∀ m ∈ h.methods, m.Blind n
  kept : ∀ p ∈ h.keptPosts, p.2.queue < n ∧ p.2.body.Blind n

/-- A host where no task waits is related to itself redirected. -/
theorem Blind.redirects {n : Nat} {h : Host} (blind : h.Blind n) (positive : 0 < n)
    (registered : n ≤ h.executor.queues.size) (policy : h.executor.policy = .highestPriority)
    (idle : h.executor.tasks = []) : Redirects n h h.redirect where
  executor :=
    { positive := positive, registered := registered, count := rfl, policy := policy
      samePolicy := policy, posted := rfl
      tasks := by simp only [redirect, idle, List.map_nil, List.Perm.refl]
      issued := by simp only [idle, List.not_mem_nil, false_implies, implies_true]
      distinct := by simp only [idle, List.map_nil, List.nodup_nil]
      blind := by simp only [idle, List.not_mem_nil, false_implies, implies_true] }
  control := rfl
  shared := rfl
  channels := rfl
  methods := rfl
  cells := rfl
  watches := rfl
  keptPosts := rfl
  registers := rfl
  canSpawn := rfl
  clock := rfl
  journal := rfl
  subscribers := blind.subscribers
  providers := blind.providers
  kept := blind.kept

theorem Redirects.taken? {n : Nat} {h k : Host} (r : Redirects n h k) :
    k.taken? = h.taken?.map Task.redirect := by
  rcases r.executor.select with
    ⟨idle, idle'⟩ | ⟨_, _, t, _, _, selected, selected', followed, followed', _, _⟩
  · simp only [Host.taken?, idle, idle', Executor.follow, Selection.none, Option.map_none]
  · simp only [Host.taken?, selected, selected', followed, followed', Option.map_some]

end Host

namespace Executor

open Act (Alike)

variable {n : Nat} {dispatch : Dispatch}

theorem Operation.perform_redirect (runs : dispatch.Redirects n) (operation : Operation)
    (blind : operation.Blind n) :
    Alike (Host.Redirects n) (Outcome.redirect <$> operation.perform dispatch)
      (operation.redirect.perform dispatch) := by
  cases operation with
  | post priority queue body =>
    simp only [perform, redirect, map_bind]
    exact Alike.bind (Alike.step fun _ _ r => r.post priority blind.1 blind.2) fun result =>
      Alike.pure _
  | execute =>
    simp only [perform, redirect, map_bind]
    intro h k r
    have same : Alike (Host.Redirects n)
        (Host.execute dispatch >>= fun result => pure (Outcome.executed h.taken? result).redirect)
        (Host.execute dispatch >>= fun result => pure (.executed k.taken? result)) := by
      rw [r.taken?]
      exact Alike.bind (Host.execute_redirect runs) fun _ => Alike.pure _
    exact same h k r
  | clear =>
    simp only [perform, redirect, map_bind]
    exact Alike.bind (Alike.modify fun _ _ r => r.clear) fun _ => Alike.pure _

theorem performAll_redirect (runs : dispatch.Redirects n) (history : List Operation)
    (blind : ∀ operation ∈ history, operation.Blind n) :
    Alike (Host.Redirects n) (List.map Outcome.redirect <$> performAll dispatch history)
      (performAll dispatch (history.map Operation.redirect)) := by
  induction history with
  | nil => exact Alike.pure _
  | cons operation rest ih =>
    have first := operation.perform_redirect runs (blind operation List.mem_cons_self)
    have later := ih fun o member => blind o (List.mem_cons_of_mem _ member)
    have both := Alike.bind first fun outcome =>
      Alike.bind later fun outcomes => Alike.pure (R := Host.Redirects n) (outcome :: outcomes)
    simpa only [performAll, List.map_cons, map_bind, map_pure, bind_map_left] using both

/-- Under the policy of the highest priority a history takes the same tasks in the same order and
every call ends as it does with all posts going to queue 0. The journals, which tell of tasks run by
other tasks too, differ in the queues that tasks were posted to only. -/
theorem performAll_in_one_queue (depth : Nat) (h : Host) (history : List Operation)
    (policy : h.executor.policy = .highestPriority) (idle : h.executor.tasks = [])
    (registered : 0 < h.executor.queues.size) (kept : h.Blind h.executor.queues.size)
    (posts : ∀ operation ∈ history, operation.Blind h.executor.queues.size) :
    (performAll (Code.runWithin depth) (history.map Operation.redirect) h.redirect).1 =
        (performAll (Code.runWithin depth) history h).1.map (List.map Outcome.redirect) ∧
      (performAll (Code.runWithin depth) (history.map Operation.redirect) h.redirect).2.journal.map
          Entry.unplaced =
        (performAll (Code.runWithin depth) history h).2.journal.map Entry.unplaced := by
  have runs := Code.runWithin_redirect h.executor.queues.size depth
  have related := kept.redirects registered (Nat.le_refl _) policy idle
  obtain ⟨same, after⟩ := performAll_redirect runs history posts h h.redirect related
  rw [Act.map_apply] at same after
  exact ⟨same, after.journal⟩

/-- Three queues, a task that fails, and one that posts to another queue and panics. -/
theorem performAll_in_one_queue_of_three :
    let h : Host := { executor := ⟨#[.empty, .empty, .empty], .highestPriority, 0⟩ }
    let history : List Operation :=
      [.post 3 1 (.fail Failure.scopeTaken),
        .post 5 2 (.post 3 0 .nothing fun _ => .panic .opaqueValue),
        .execute, .execute, .post 7 0 .nothing, .clear, .execute]
    (performAll (Code.runWithin 2) (history.map Operation.redirect) h.redirect).1 =
        (performAll (Code.runWithin 2) history h).1.map (List.map Outcome.redirect) ∧
      (performAll (Code.runWithin 2) (history.map Operation.redirect) h.redirect).2.journal.map
          Entry.unplaced =
        (performAll (Code.runWithin 2) history h).2.journal.map Entry.unplaced := by
  refine performAll_in_one_queue 2 _ _ rfl rfl (by decide) ⟨?_, ?_, ?_⟩ ?_
  · simp
  · simp
  · simp
  · simp [Operation.Blind, Code.Blind, Code.fail, Code.nothing]

end Executor

end PluginHost
