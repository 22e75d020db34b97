import PluginHost.Executor.Basic

set_option autoImplicit false

namespace PluginHost

variable {β : Type}

namespace TaskQueue

@[simp] theorem toList_empty : (empty : TaskQueue β).toList = [] := rfl

theorem size_eq_length (q : TaskQueue β) : q.size = q.toList.length := by
  simp [size, toList]

theorem peek?_eq_none_iff {q : TaskQueue β} : q.peek? = none ↔ q.toList = [] := by
  simp [peek?, toList]

/-- A queue with a task on top gives that task. -/
theorem pop?_of_peek? {q : TaskQueue β} {t : Task β} (top : q.peek? = some t) :
    ∃ rest, q.pop? = some (t, rest) := by
  simp only [pop?, top, Option.map_some]
  exact ⟨_, rfl⟩

end TaskQueue

namespace Executor

/-- Putting another list in the place of one exchanges their items. -/
theorem flatMap_set_perm {α γ : Type} (f : α → List γ) (l : List α) (i : Nat)
    (inside : i < l.length) (a : α) :
    ((l.set i a).flatMap f ++ f l[i]).Perm (f a ++ l.flatMap f) := by
  induction l generalizing i with
  | nil => simp at inside
  | cons b rest ih =>
    cases i with
    | zero =>
      simp only [List.set_cons_zero, List.flatMap_cons, List.getElem_cons_zero, List.append_assoc]
      exact List.Perm.append_left _ List.perm_append_comm
    | succ i =>
      have later := ih i (by simpa using inside)
      simp only [List.set_cons_succ, List.flatMap_cons, List.getElem_cons_succ, List.append_assoc]
      apply (List.Perm.append_left (f b) later).trans
      rw [← List.append_assoc, ← List.append_assoc]
      exact List.Perm.append_right _ List.perm_append_comm

/-- Every waiting task, queue by queue. -/
def tasks (e : Executor β) : List (Task β) := e.queues.toList.flatMap TaskQueue.toList

theorem mem_tasks {e : Executor β} {t : Task β} :
    t ∈ e.tasks ↔ ∃ q ∈ e.queues.toList, t ∈ q.toList := by
  simp only [tasks, List.mem_flatMap]

theorem tasks_set_perm (e : Executor β) (queue : Nat) (inside : queue < e.queues.size)
    (q : TaskQueue β) :
    (({ e with queues := e.queues.set queue q } : Executor β).tasks
      ++ e.queues[queue].toList).Perm (q.toList ++ e.tasks) := by
  have exchanged := flatMap_set_perm TaskQueue.toList e.queues.toList queue
    (by simpa only [Array.length_toList] using inside) q
  rw [Array.getElem_toList] at exchanged
  simpa only [tasks, Array.toList_set] using exchanged

/-- A post adds one task, which carries the next number of the shared counter. -/
theorem tasks_post? {e after : Executor β} {priority : Int} {queue : Nat} {body : β}
    (posted : e.post? priority queue body = some after) :
    after.tasks.Perm (⟨priority, e.posted, body⟩ :: e.tasks) := by
  simp only [post?, Option.dite_none_right_eq_some, Option.some.injEq] at posted
  obtain ⟨inside, rfl⟩ := posted
  have exchanged := tasks_set_perm e queue inside (e.queues[queue].push ⟨priority, e.posted, body⟩)
  have pushed :=
    (TaskQueue.push_perm e.queues[queue] ⟨priority, e.posted, body⟩).append_right e.tasks
  have both := exchanged.trans pushed
  rw [List.cons_append] at both
  exact (List.perm_append_right_iff e.queues[queue].toList).1
    (both.trans (List.Perm.cons _ List.perm_append_comm))

theorem posted_post? {e after : Executor β} {priority : Int} {queue : Nat} {body : β}
    (posted : e.post? priority queue body = some after) :
    after.posted = e.posted + 1 ∧ after.policy = e.policy := by
  simp only [post?, Option.dite_none_right_eq_some, Option.some.injEq] at posted
  obtain ⟨inside, rfl⟩ := posted
  exact ⟨rfl, rfl⟩

/-- What it is to take a task that runs before no other: the others stay, and so does all else. -/
structure TakesFirst (e : Executor β) (t : Task β) (rest : Executor β) : Prop where
  perm : (t :: rest.tasks).Perm e.tasks
  first : ∀ u ∈ e.tasks, ¬ u.runsBefore t
  policy : rest.policy = e.policy
  posted : rest.posted = e.posted
  count : rest.queues.size = e.queues.size

theorem take?_perm {e rest : Executor β} {queue : Nat} {t : Task β}
    (taken : e.take? queue = some (t, rest)) :
    (t :: rest.tasks).Perm e.tasks ∧ rest.policy = e.policy ∧ rest.posted = e.posted ∧
      rest.queues.size = e.queues.size := by
  unfold take? at taken
  split at taken
  · rename_i inside
    simp only [Option.map_eq_some_iff, Prod.mk.injEq, Prod.exists] at taken
    obtain ⟨s, left, popped, rfl, rfl⟩ := taken
    have exchanged := (tasks_set_perm e queue inside left).cons s
    have whole := (TaskQueue.pop?_perm popped).append_right e.tasks
    have both := exchanged.trans whole
    refine ⟨?_, rfl, rfl, Array.size_set inside⟩
    exact (List.perm_append_right_iff e.queues[queue].toList).1
      (both.trans List.perm_append_comm)
  · cases taken

@[simp] theorem tasks_clear (e : Executor β) : e.clear.tasks = [] := by
  simp [tasks, clear, List.flatMap_eq_nil_iff]

theorem tasks_addQueue (e : Executor β) : e.addQueue.tasks = e.tasks := by
  simp [tasks, addQueue]

theorem total_view (queues : List (TaskQueue β)) :
    QueueViews.total (queues.map view) = (queues.flatMap TaskQueue.toList).length := by
  induction queues with
  | nil => rfl
  | cons q rest ih =>
    simp only [List.map_cons, QueueViews.total, ih, List.flatMap_cons, List.length_append]
    rw [view, q.size_eq_length]

/-- The number of waiting tasks does not depend on the queues they wait in. -/
theorem pending_eq_length (e : Executor β) : e.pending = e.tasks.length :=
  total_view e.queues.toList

end Executor

end PluginHost
