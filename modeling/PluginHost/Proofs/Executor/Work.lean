import PluginHost.Proofs.Executor.Arbitration

set_option autoImplicit false

namespace PluginHost

variable {β : Type}

namespace Policy

/-- A queue that a policy may choose. -/
def Serves (policy : Policy) (queue : Nat) : Prop :=
  ∃ views more, (policy.select views).selection = .ok (.run queue more)

/-- The policies that are no rule of the user's own. -/
def BuiltIn (policy : Policy) : Prop := policy = .defaultQueue ∨ policy = .highestPriority

theorem serves_defaultQueue {queue : Nat} : Policy.defaultQueue.Serves queue ↔ queue = 0 := by
  constructor
  · rintro ⟨views, more, chosen⟩
    simp only [select, Except.ok.injEq] at chosen
    split at chosen
    · cases chosen
    · cases chosen
      rfl
  · rintro rfl
    exact ⟨[⟨1, none⟩], true, rfl⟩

/-- Any queue may be the only one that holds a task. -/
theorem serves_highestPriority (queue : Nat) : Policy.highestPriority.Serves queue := by
  let views : List QueueView := List.replicate queue ⟨0, none⟩ ++ [⟨1, some ⟨0, 0⟩⟩]
  have last : views[queue]? = some ⟨1, some ⟨0, 0⟩⟩ := by simp [views]
  have only : ∀ q ∈ QueueViews.occupied views, q = queue := by
    intro q holds
    simp only [QueueViews.occupied, List.mem_filter, List.mem_range, decide_eq_true_eq] at holds
    obtain ⟨inside, size⟩ := holds
    simp only [views, List.length_append, List.length_replicate, List.length_singleton] at inside
    rcases Nat.lt_succ_iff_lt_or_eq.1 inside with before | same
    · simp [QueueViews.size, views, List.getElem?_append_left, before] at size
    · exact same
  have member : queue ∈ QueueViews.occupied views := by
    simp only [QueueViews.occupied, List.mem_filter, List.mem_range, QueueViews.size, last]
    exact ⟨by simp [views], rfl⟩
  obtain ⟨chosen, best, holds, _⟩ := QueueViews.highest_of_occupied (List.ne_nil_of_mem member)
    fun q holds => ⟨⟨0, 0⟩, by rw [only q holds, QueueViews.top, last]; rfl⟩
  refine ⟨views, true, ?_⟩
  simp only [select, best, only chosen holds]

end Policy

namespace Executor

/-- A task waits in a queue that the policy in force serves, where the policy is no rule of the
user's own. -/
def HasWork (e : Executor β) : Prop :=
  e.policy.BuiltIn ∧ ∃ queue ∈ QueueViews.occupied e.views, e.policy.Serves queue

variable {e : Executor β}

theorem size_zero_ne_zero_iff :
    QueueViews.size e.views 0 ≠ 0 ↔ 0 ∈ QueueViews.occupied e.views := by
  simp only [QueueViews.occupied, List.mem_filter, List.mem_range, decide_eq_true_eq,
    iff_and_self]
  intro holds
  cases found : e.views[0]? with
  | none => simp [QueueViews.size, found] at holds
  | some => exact (List.getElem?_eq_some_iff.1 found).1

theorem hasWork_defaultQueue (policy : e.policy = .defaultQueue) :
    e.HasWork ↔ QueueViews.size e.views 0 ≠ 0 := by
  rw [size_zero_ne_zero_iff, HasWork, policy]
  constructor
  · rintro ⟨_, queue, holds, serves⟩
    rwa [Policy.serves_defaultQueue.1 serves] at holds
  · intro holds
    exact ⟨.inl rfl, 0, holds, Policy.serves_defaultQueue.2 rfl⟩

theorem hasWork_highestPriority (policy : e.policy = .highestPriority) :
    e.HasWork ↔ e.tasks ≠ [] := by
  rw [Ne, ← occupied_eq_nil_iff, HasWork, policy]
  constructor
  · rintro ⟨_, queue, holds, _⟩
    exact List.ne_nil_of_mem holds
  · intro some
    obtain ⟨queue, holds⟩ := List.exists_mem_of_ne_nil _ some
    exact ⟨.inr rfl, queue, holds, Policy.serves_highestPriority queue⟩

/-- There is work exactly if the executor says that there is more to do. -/
theorem hasWork_iff_more (builtIn : e.policy.BuiltIn) (hint : Bool) :
    e.HasWork ↔ e.more hint = true := by
  rcases builtIn with policy | policy
  · rw [hasWork_defaultQueue policy, more, policy, Policy.more, decide_eq_true_eq]
  · rw [hasWork_highestPriority policy, more, policy, Policy.more, decide_eq_true_eq]
    show _ ↔ e.pending ≠ 0
    rw [pending_eq_length, Ne, Ne, List.length_eq_zero_iff]

/-- There is work exactly if the policy chooses a queue, and then a task is taken from it. If there
is none the policy wants no more. -/
theorem select_builtIn (builtIn : e.policy.BuiltIn) :
    (¬ e.HasWork ∧ (e.policy.select e.views).selection = .ok .none) ∨
      e.HasWork ∧ ∃ queue task rest,
        (e.policy.select e.views).selection = .ok (.run queue true) ∧
        e.follow (.run queue true) = .task task rest true := by
  rcases builtIn with policy | policy
  · rw [hasWork_defaultQueue policy, policy]
    by_cases empty : QueueViews.size e.views 0 = 0
    · exact .inl ⟨Decidable.not_not.2 empty, by simp only [Policy.select, empty, if_true]⟩
    · obtain ⟨task, rest, taken, _⟩ := top_of_occupied (size_zero_ne_zero_iff.1 empty)
      refine .inr ⟨empty, 0, task, rest, ?_, ?_⟩
      · simp only [Policy.select, empty, if_false]
      · simp only [follow, Selection.run, taken]
  · rw [hasWork_highestPriority policy]
    rcases select_highest e policy with ⟨idle, chosen⟩ | ⟨queue, task, rest, chosen, follows, takes⟩
    · exact .inl ⟨fun some => some idle, by rw [chosen]⟩
    · refine .inr ⟨?_, queue, task, rest, by rw [chosen], follows⟩
      intro idle
      exact List.not_mem_nil (idle ▸ takes.perm.subset List.mem_cons_self)

/-- A task that is posted to a queue that is served is work. -/
theorem hasWork_of_post? {after : Executor β} {priority : Int} {queue : Nat} {body : β}
    (posted : e.post? priority queue body = some after) (builtIn : e.policy.BuiltIn)
    (serves : e.policy.Serves queue) : after.HasWork := by
  simp only [post?, Option.dite_none_right_eq_some, Option.some.injEq] at posted
  obtain ⟨inside, rfl⟩ := posted
  refine ⟨builtIn, queue, mem_occupied.2 ⟨_, Array.getElem?_set_self inside, ?_⟩, serves⟩
  exact List.ne_nil_of_mem ((TaskQueue.push_perm _ _).mem_iff.2 List.mem_cons_self)

theorem follow_eq_task {selection : Selection} {task : Task β} {rest : Executor β} {hint : Bool}
    (taken : e.follow selection = .task task rest hint) :
    ∃ queue, e.take? queue = some (task, rest) := by
  unfold follow at taken
  split at taken
  · cases taken
  · rename_i queue _
    split at taken
    · rename_i found
      cases taken
      exact ⟨queue, found⟩
    · cases taken

/-- What the policy said about more to do stands when no task is taken. -/
theorem more_of_follow {selection : Selection} {more : Bool}
    (passed : e.follow selection = .idle more ∨ ∃ queue, e.follow selection = .nothing queue more) :
    selection.more = more := by
  unfold follow at passed
  split at passed
  · rcases passed with idle | ⟨_, nothing⟩
    · cases idle
      rfl
    · cases nothing
  · split at passed
    · rcases passed with idle | ⟨_, nothing⟩
      · cases idle
      · cases nothing
    · rcases passed with idle | ⟨_, nothing⟩
      · cases idle
      · cases nothing
        rfl

theorem HasWork.of_occupied {after : Executor β} (works : after.HasWork)
    (policy : after.policy = e.policy)
    (fewer : ∀ queue ∈ QueueViews.occupied after.views, queue ∈ QueueViews.occupied e.views) :
    e.HasWork := by
  obtain ⟨builtIn, queue, holds, serves⟩ := works
  rw [policy] at builtIn serves
  exact ⟨builtIn, queue, fewer queue holds, serves⟩

theorem HasWork.of_addQueue (works : e.addQueue.HasWork) : e.HasWork := by
  refine works.of_occupied rfl fun queue holds => ?_
  obtain ⟨q, found, nonempty⟩ := mem_occupied.1 holds
  simp only [addQueue, Array.getElem?_push] at found
  split at found
  · cases found
    exact absurd rfl nonempty
  · exact mem_occupied.2 ⟨q, found, nonempty⟩

theorem not_hasWork_of_tasks (none : e.tasks = []) : ¬ e.HasWork := by
  rintro ⟨_, queue, holds, _⟩
  rw [occupied_eq_nil_iff.2 none] at holds
  cases holds

theorem HasWork.of_take {after : Executor β} {queue : Nat} {task : Task β}
    (taken : e.take? queue = some (task, after)) (works : after.HasWork) : e.HasWork := by
  refine works.of_occupied (take?_perm taken).2.1 fun other holds => ?_
  obtain ⟨q, found, nonempty⟩ := mem_occupied.1 holds
  unfold take? at taken
  split at taken
  · rename_i inside
    obtain ⟨⟨task, rest⟩, popped, same⟩ := Option.map_eq_some_iff.1 taken
    cases same
    by_cases same : queue = other
    · subst same
      refine mem_occupied.2 ⟨_, Array.getElem?_eq_getElem inside, ?_⟩
      exact List.ne_nil_of_mem ((TaskQueue.pop?_perm popped).subset List.mem_cons_self)
    · rw [Array.getElem?_set_ne inside same] at found
      exact mem_occupied.2 ⟨q, found, nonempty⟩
  · cases taken

end Executor

end PluginHost
