import PluginHost.Proofs.Executor.Calls
import PluginHost.Proofs.Executor.Work

set_option autoImplicit false

namespace PluginHost

namespace QueueViews

/-- Views of as many queues, in which queue 0 stands alike but for the number of its next task. -/
structure SameFront (v w : List QueueView) : Prop where
  count : w.length = v.length
  size : size w 0 = size v 0
  top : (top w 0).map Task.Key.priority = (top v 0).map Task.Key.priority

end QueueViews

namespace Executor

variable {β γ : Type}

theorem size_views (e : Executor β) (queue : Nat) :
    QueueViews.size e.views queue = (e.waiting queue).length := by
  rw [QueueViews.size, views_getElem?, waiting]
  cases e.queues[queue]? with
  | none => rfl
  | some q => exact q.size_eq_length

/-- Either nothing waits in a queue, or its first task can be taken. -/
theorem waiting_cases (e : Executor β) (queue : Nat) :
    (e.waiting queue = [] ∧ QueueViews.top e.views queue = none) ∨
      ∃ t rest, e.take? queue = some (t, rest) ∧ e.Takes queue t rest ∧
        QueueViews.top e.views queue = some t.key := by
  cases found : e.queues[queue]? with
  | none =>
    have nothing : QueueViews.top e.views queue = none := by
      rw [top_views, found]
      rfl
    exact .inl ⟨by rw [waiting, found]; rfl, nothing⟩
  | some q =>
    by_cases empty : q.toList = []
    · have nothing : QueueViews.top e.views queue = none := by
        rw [top_views, found, Option.bind_some, TaskQueue.peek?_eq_none_iff.2 empty]
        rfl
      exact .inl ⟨by rw [waiting_of_getElem? found, empty], nothing⟩
    · obtain ⟨t, rest, taken, top⟩ := top_of_occupied (mem_occupied.2 ⟨q, found, empty⟩)
      exact .inr ⟨t, rest, taken, takes_of_take? taken, top⟩

/-- The tasks in queue 0 of two executors, in the order in which they were posted. Each task has its
place taken by one of the same priority, whose body is the same code changed in some way. -/
structure InStep (change : β → γ) (Fit : β → Prop) (pairs : List (Task β × Task γ))
    (e : Executor β) (f : Executor γ) : Prop where
  left : (pairs.map Prod.fst).Perm (e.waiting 0)
  right : (pairs.map Prod.snd).Perm (f.waiting 0)
  alike : ∀ p ∈ pairs, p.2.priority = p.1.priority ∧ p.2.body = change p.1.body ∧ Fit p.1.body
  inOrder : pairs.Pairwise fun p q => p.1.sequence < q.1.sequence ∧ p.2.sequence < q.2.sequence
  issued : ∀ p ∈ pairs, p.1.sequence < e.posted ∧ p.2.sequence < f.posted

namespace InStep

variable {change : β → γ} {Fit : β → Prop} {pairs : List (Task β × Task γ)}
  {e e' : Executor β} {f f' : Executor γ}

theorem length (inStep : InStep change Fit pairs e f) :
    (f.waiting 0).length = (e.waiting 0).length := by
  rw [← inStep.left.length_eq, ← inStep.right.length_eq, List.length_map, List.length_map]

/-- Nothing of queue 0 changes, and numbers only grow. -/
theorem mono (inStep : InStep change Fit pairs e f) (left : e'.waiting 0 = e.waiting 0)
    (right : f'.waiting 0 = f.waiting 0) (grows : e.posted ≤ e'.posted)
    (grows' : f.posted ≤ f'.posted) : InStep change Fit pairs e' f' where
  left := left ▸ inStep.left
  right := right ▸ inStep.right
  alike := inStep.alike
  inOrder := inStep.inOrder
  issued p member := by
    obtain ⟨below, below'⟩ := inStep.issued p member
    omega

/-- A task that is posted to both queues comes last. -/
theorem post? (inStep : InStep change Fit pairs e f) {priority : Int} {body : β} (fit : Fit body)
    (posted : e.post? priority 0 body = some e')
    (posted' : f.post? priority 0 (change body) = some f') :
    InStep change Fit
      (pairs ++ [(⟨priority, e.posted, body⟩, ⟨priority, f.posted, change body⟩)]) e' f' := by
  have counts := (posted_post? posted).1
  have counts' := (posted_post? posted').1
  refine ⟨?_, ?_, ?_, ?_, ?_⟩
  · rw [List.map_append]
    exact (List.perm_append_comm.trans (inStep.left.cons _)).trans (waiting_post? posted).1.symm
  · rw [List.map_append]
    exact (List.perm_append_comm.trans (inStep.right.cons _)).trans (waiting_post? posted').1.symm
  · intro p member
    rcases List.mem_append.1 member with old | new
    · exact inStep.alike p old
    · rw [List.mem_singleton.1 new]
      exact ⟨rfl, rfl, fit⟩
  · refine List.pairwise_append.2 ⟨inStep.inOrder, List.pairwise_singleton _ _, ?_⟩
    intro p old q new
    rw [List.mem_singleton.1 new]
    exact inStep.issued p old
  · intro p member
    rw [counts, counts']
    rcases List.mem_append.1 member with old | new
    · obtain ⟨below, below'⟩ := inStep.issued p old
      omega
    · rw [List.mem_singleton.1 new]
      exact ⟨Nat.lt_succ_self _, Nat.lt_succ_self _⟩

/-- The numbers compare alike, so what runs first in one queue is in the place of what runs first in
the other one. -/
theorem first (inStep : InStep change Fit pairs e f) {t : Task β} {u : Task γ}
    (member : t ∈ e.waiting 0) (least : ∀ s ∈ e.waiting 0, ¬ s.runsBefore t)
    (member' : u ∈ f.waiting 0) (least' : ∀ s ∈ f.waiting 0, ¬ s.runsBefore u) :
    ∃ before after, pairs = before ++ (t, u) :: after := by
  obtain ⟨p, inside, rfl⟩ := List.mem_map.1 (inStep.left.mem_iff.2 member)
  obtain ⟨q, inside', rfl⟩ := List.mem_map.1 (inStep.right.mem_iff.2 member')
  have notBefore := least q.1 (inStep.left.mem_iff.1 (List.mem_map_of_mem inside'))
  have notBefore' := least' p.2 (inStep.right.mem_iff.1 (List.mem_map_of_mem inside))
  have priority := (inStep.alike p inside).1
  have priority' := (inStep.alike q inside').1
  simp only [Task.runsBefore, Task.Key.runsBefore_iff, Task.key, priority, priority']
    at notBefore notBefore'
  obtain ⟨before, after, rfl⟩ := List.append_of_mem inside
  obtain ⟨-, later, earlier⟩ := List.pairwise_append.1 inStep.inOrder
  have later := (List.pairwise_cons.1 later).1
  -- were they different pairs, the one posted first would have the lower numbers
  rcases List.mem_append.1 inside' with ahead | there
  · have order := earlier q ahead p List.mem_cons_self
    omega
  · rcases List.mem_cons.1 there with rfl | behind
    · exact ⟨before, after, rfl⟩
    · have order := later q behind
      omega

/-- Both executors take tasks that correspond, and what is left is in step. -/
theorem takes (inStep : InStep change Fit pairs e f) {t : Task β} {u : Task γ}
    (taken : e.Takes 0 t e') (taken' : f.Takes 0 u f') :
    (u.priority = t.priority ∧ u.body = change t.body ∧ Fit t.body) ∧
      ∃ left, InStep change Fit left e' f' := by
  have member : t ∈ e.waiting 0 := taken.perm.subset List.mem_cons_self
  have member' : u ∈ f.waiting 0 := taken'.perm.subset List.mem_cons_self
  obtain ⟨before, after, rfl⟩ := inStep.first member taken.first member' taken'.first
  have others : (before ++ after).Sublist (before ++ (t, u) :: after) :=
    (List.sublist_cons_self (t, u) after).append_left before
  refine ⟨inStep.alike (t, u) (by simp), before ++ after, ?_, ?_, ?_, ?_, ?_⟩
  · have whole := (List.perm_middle.map Prod.fst).symm.trans (inStep.left.trans taken.perm.symm)
    exact whole.cons_inv
  · have whole := (List.perm_middle.map Prod.snd).symm.trans (inStep.right.trans taken'.perm.symm)
    exact whole.cons_inv
  · exact fun p inside => inStep.alike p (others.subset inside)
  · exact inStep.inOrder.sublist others
  · intro p inside
    rw [taken.posted, taken'.posted]
    exact inStep.issued p (others.subset inside)

end InStep

/-- Two executors under the policy of the default queue whose queues 0 are in step. Nothing is said
about the other queues, except that there are as many, and at least some number of them. -/
structure Isolates (change : β → γ) (Fit : β → Prop) (n : Nat) (e : Executor β) (f : Executor γ) :
    Prop where
  positive : 0 < n
  registered : n ≤ e.queues.size
  count : f.queues.size = e.queues.size
  policy : e.policy = .defaultQueue
  samePolicy : f.policy = .defaultQueue
  inStep : ∃ pairs, InStep change Fit pairs e f

namespace Isolates

variable {change : β → γ} {Fit : β → Prop} {n : Nat} {e e' : Executor β} {f f' : Executor γ}

theorem sameFront (r : Isolates change Fit n e f) : QueueViews.SameFront e.views f.views where
  count := by simp [views, r.count]
  size := by
    obtain ⟨pairs, inStep⟩ := r.inStep
    rw [size_views, size_views, inStep.length]
  top := by
    obtain ⟨pairs, inStep⟩ := r.inStep
    have length := inStep.length
    rcases e.waiting_cases 0 with ⟨none, top⟩ | ⟨t, rest, _, taken, top⟩ <;>
    rcases f.waiting_cases 0 with ⟨none', top'⟩ | ⟨u, rest', _, taken', top'⟩
    · rw [top, top']
    · have some := taken'.perm.length_eq
      simp [none, ← some] at length
    · have some := taken.perm.length_eq
      simp [none', ← some] at length
    · have same := (inStep.takes taken taken').1.1
      rw [top, top', Option.map_some, Option.map_some]
      exact congrArg _ same

/-- A post to queue 0 of both. -/
theorem post? (r : Isolates change Fit n e f) (priority : Int) {body : β} (fit : Fit body) :
    ∃ e' f', e.post? priority 0 body = some e' ∧ f.post? priority 0 (change body) = some f' ∧
      Isolates change Fit n e' f' := by
  have positive := r.positive
  have registered := r.registered
  have count := r.count
  have accepted : e.post? priority 0 body ≠ none := by
    rw [Ne, post?_eq_none_iff]
    omega
  have accepted' : f.post? priority 0 (change body) ≠ none := by
    rw [Ne, post?_eq_none_iff]
    omega
  obtain ⟨e', posted⟩ := Option.ne_none_iff_exists'.1 accepted
  obtain ⟨f', posted'⟩ := Option.ne_none_iff_exists'.1 accepted'
  obtain ⟨pairs, inStep⟩ := r.inStep
  refine ⟨e', f', posted, posted', positive, ?_, ?_, ?_, ?_, _, inStep.post? fit posted posted'⟩
  · rwa [size_queues_post? posted]
  · rwa [size_queues_post? posted, size_queues_post? posted']
  · rw [(posted_post? posted).2, r.policy]
  · rw [(posted_post? posted').2, r.samePolicy]

/-- A post to another queue of the first executor only. -/
theorem postLeft (r : Isolates change Fit n e f) {priority : Int} {queue : Nat} {body : β}
    (other : queue ≠ 0) (posted : e.post? priority queue body = some e') :
    Isolates change Fit n e' f := by
  obtain ⟨pairs, inStep⟩ := r.inStep
  obtain ⟨counts, policy⟩ := posted_post? posted
  have size := size_queues_post? posted
  have front := (waiting_post? posted).2 0 other.symm
  exact ⟨r.positive, by rw [size]; exact r.registered, by rw [size]; exact r.count,
    by rw [policy, r.policy], r.samePolicy, pairs,
    inStep.mono front rfl (by omega) (Nat.le_refl _)⟩

/-- A post to another queue of both executors. -/
theorem postBoth (r : Isolates change Fit n e f) {priority : Int} {queue : Nat} {body : β}
    {body' : γ} (other : queue ≠ 0) (posted : e.post? priority queue body = some e')
    (posted' : f.post? priority queue body' = some f') : Isolates change Fit n e' f' := by
  have first := r.postLeft other posted
  obtain ⟨pairs, inStep⟩ := first.inStep
  obtain ⟨counts, policy⟩ := posted_post? posted'
  have front := (waiting_post? posted').2 0 other.symm
  exact ⟨r.positive, first.registered, by rw [size_queues_post? posted', first.count],
    first.policy, by rw [policy, r.samePolicy], pairs,
    inStep.mono rfl front (Nat.le_refl _) (by omega)⟩

theorem clear (r : Isolates change Fit n e f) : Isolates change Fit n e.clear f.clear where
  positive := r.positive
  registered := by simpa [Executor.clear] using r.registered
  count := by simpa [Executor.clear] using r.count
  policy := r.policy
  samePolicy := r.samePolicy
  inStep := ⟨[], by simp, by simp, by simp, .nil, by simp⟩

theorem addQueue (r : Isolates change Fit n e f) : Isolates change Fit n e.addQueue f.addQueue where
  positive := r.positive
  registered := by
    have registered := r.registered
    simp only [Executor.addQueue, Array.size_push]
    omega
  count := by simp [Executor.addQueue, r.count]
  policy := r.policy
  samePolicy := r.samePolicy
  inStep := by
    obtain ⟨pairs, inStep⟩ := r.inStep
    exact ⟨pairs, inStep.mono (waiting_addQueue e 0) (waiting_addQueue f 0) (Nat.le_refl _)
      (Nat.le_refl _)⟩

/-- Setting the policy that is in force changes nothing. -/
theorem setPolicy (r : Isolates change Fit n e f) :
    Isolates change Fit n (e.setPolicy .defaultQueue) (f.setPolicy .defaultQueue) := by
  obtain ⟨pairs, inStep⟩ := r.inStep
  exact ⟨r.positive, r.registered, r.count, rfl, rfl, pairs,
    inStep.mono rfl rfl (Nat.le_refl _) (Nat.le_refl _)⟩

end Isolates

/-- Under the policy of the default queue the first task of queue 0 is taken, if there is one. -/
theorem select_defaultQueue (e : Executor β) (policy : e.policy = .defaultQueue) :
    (e.waiting 0 = [] ∧ e.policy.select e.views = ⟨[], .ok .none⟩) ∨
      ∃ t rest, e.policy.select e.views = ⟨[], .ok (.run 0 true)⟩ ∧
        e.follow (.run 0 true) = .task t rest true ∧ e.Takes 0 t rest := by
  rcases e.waiting_cases 0 with ⟨none, _⟩ | ⟨t, rest, taken, takes, _⟩
  · refine .inl ⟨none, ?_⟩
    simp only [policy, Policy.select, size_views, none, List.length_nil, if_true]
  · have some : (e.waiting 0).length ≠ 0 := by
      rw [← takes.perm.length_eq, List.length_cons]
      exact Nat.succ_ne_zero _
    refine .inr ⟨t, rest, ?_, ?_, takes⟩
    · simp only [policy, Policy.select, size_views, some, if_false]
    · simp only [follow, Selection.run, taken]

/-- Either both hold nothing in queue 0, or both take tasks that correspond. -/
theorem Isolates.select {change : β → γ} {Fit : β → Prop} {n : Nat} {e : Executor β}
    {f : Executor γ} (r : Isolates change Fit n e f) :
    (e.policy.select e.views = ⟨[], .ok .none⟩ ∧ f.policy.select f.views = ⟨[], .ok .none⟩) ∨
      ∃ t u e' f', e.policy.select e.views = ⟨[], .ok (.run 0 true)⟩ ∧
        f.policy.select f.views = ⟨[], .ok (.run 0 true)⟩ ∧
        e.follow (.run 0 true) = .task t e' true ∧ f.follow (.run 0 true) = .task u f' true ∧
        (u.priority = t.priority ∧ u.body = change t.body ∧ Fit t.body) ∧
        Isolates change Fit n e' f' := by
  obtain ⟨pairs, inStep⟩ := r.inStep
  have length := inStep.length
  rcases e.select_defaultQueue r.policy with ⟨none, idle⟩ | ⟨t, e', selected, followed, taken⟩ <;>
  rcases f.select_defaultQueue r.samePolicy with
    ⟨none', idle'⟩ | ⟨u, f', selected', followed', taken'⟩
  · exact .inl ⟨idle, idle'⟩
  · have some := taken'.perm.length_eq
    simp [none, ← some] at length
  · have some := taken.perm.length_eq
    simp [none', ← some] at length
  · obtain ⟨same, left, inStep'⟩ := inStep.takes taken taken'
    refine .inr ⟨t, u, e', f', selected, selected', followed, followed', same, r.positive, ?_, ?_,
      ?_, ?_, left, inStep'⟩
    · rw [taken.count]
      exact r.registered
    · rw [taken.count, taken'.count, r.count]
    · rw [taken.policy, r.policy]
    · rw [taken'.policy, r.samePolicy]

end Executor

end PluginHost
