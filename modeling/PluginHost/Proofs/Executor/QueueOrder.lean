import Mathlib.Data.List.Sort
import PluginHost.Proofs.Executor.Conservation

/-!
The order in which the tasks of one queue run, whatever the policy selects and whoever posts. The
queues are priority queues, so a task that begins had the greatest priority in its queue; a post is
numbered when it takes effect, so tasks of one priority begin in the order of their posts.
-/

set_option autoImplicit false

namespace PluginHost.Executor

variable {β Party : Type}

/-- The tasks among some that are of a queue and have a priority. -/
def alike (queue : Nat) (priority : Int) (placed : List (Placed β)) : List (Placed β) :=
  placed.filter fun p => p.queue = queue ∧ p.task.priority = priority

theorem mem_alike {queue : Nat} {priority : Int} {placed : List (Placed β)} {p : Placed β} :
    p ∈ alike queue priority placed ↔
      p ∈ placed ∧ p.queue = queue ∧ p.task.priority = priority := by
  simp only [alike, List.mem_filter, decide_eq_true_eq]

def PostedBefore (first second : Placed β) : Prop := first.task.sequence < second.task.sequence

instance : Std.Antisymm (PostedBefore (β := β)) where
  antisymm _ _ one other := absurd one (Nat.lt_asymm other)

theorem nodup_of_earlier {placed : List (Placed β)} (ordered : placed.Pairwise PostedBefore) :
    placed.Nodup := by
  refine ordered.imp ?_
  intro first second earlier same
  rw [same] at earlier
  exact Nat.lt_irrefl _ earlier

/-- What is ordered by number and found in a list that is ordered by number comes from it by leaving
posts out. -/
theorem sublist_of_earlier {part whole : List (Placed β)} (within : part ⊆ whole)
    (partOrdered : part.Pairwise PostedBefore) (wholeOrdered : whole.Pairwise PostedBefore) :
    part.Sublist whole :=
  List.sublist_of_subperm_of_pairwise
    (List.subperm_of_subset (nodup_of_earlier partOrdered) within) partOrdered wholeOrdered

theorem posts_earlier (history : List (Party × Call β)) (e : Executor β) :
    (posts (serve history e).1).Pairwise PostedBefore := by
  have increasing := List.pairwise_lt_range' (s := e.posted)
    (n := (posts (serve history e).1).length) 1
  rw [← (serve_numbers history e).1, List.pairwise_map] at increasing
  exact increasing

/-- The tasks that wait have numbers that were given out, each its own. -/
structure Numbered (e : Executor β) : Prop where
  below : ∀ queue, ∀ task ∈ e.waiting queue, task.sequence < e.posted
  distinct : ∀ queue, ((e.waiting queue).map Task.sequence).Nodup

theorem numbered_of_perm {e after : Executor β} (numbered : e.Numbered)
    (posted : e.posted ≤ after.posted)
    (within : ∀ queue, (after.waiting queue).Subperm (e.waiting queue)) :
    after.Numbered where
  below queue task member :=
    Nat.lt_of_lt_of_le (numbered.below queue task ((within queue).subset member)) posted
  distinct queue := by
    obtain ⟨part, perm, sublist⟩ := within queue
    exact (perm.map Task.sequence).nodup_iff.1 ((numbered.distinct queue).sublist (sublist.map _))

theorem numbered_post? {e after : Executor β} {priority : Int} {target : Nat} {body : β}
    (numbered : e.Numbered) (posted : e.post? priority target body = some after) :
    after.Numbered where
  below := below_post? numbered.below posted
  distinct queue := by
    obtain ⟨perm, others⟩ := waiting_post? posted
    by_cases same : queue = target
    · subst same
      rw [(perm.map Task.sequence).nodup_iff, List.map_cons, List.nodup_cons]
      refine ⟨fun found => ?_, numbered.distinct queue⟩
      obtain ⟨task, member, number⟩ := List.mem_map.1 found
      exact Nat.lt_irrefl _ (number ▸ numbered.below queue task member)
    · rw [others queue same]
      exact numbered.distinct queue

/-- A call leaves the numbers of the waiting tasks distinct. -/
theorem Call.make_numbered (call : Call β) {e : Executor β} (numbered : e.Numbered) :
    (call.make e).2.Numbered := by
  cases call with
  | post priority target body =>
    cases posted : e.post? priority target body with
    | none => simpa only [make, posted] using numbered
    | some after =>
      simp only [make, posted]
      exact numbered_post? numbered posted
  | begin =>
    rcases begin_cases e with ⟨target, task, hint, rest, made, takes⟩ | ⟨_, made⟩ | ⟨_, made⟩
    · rw [made]
      refine numbered_of_perm numbered (Nat.le_of_eq takes.posted.symm) fun queue => ?_
      by_cases same : queue = target
      · subst same
        exact (List.sublist_cons_self _ _).subperm.trans takes.perm.subperm
      · rw [waiting_congr (takes.others queue same)]
    · rwa [made]
    · rwa [made]
  | clear =>
    refine numbered_of_perm numbered (Nat.le_refl _) fun queue => ?_
    simp only [make, waiting_clear, List.nil_subperm]
  | addQueue =>
    refine numbered_of_perm numbered (Nat.le_refl _) fun queue => ?_
    simp only [make, waiting_addQueue, List.Subperm.refl]
  | setPolicy => exact numbered_of_perm numbered (Nat.le_refl _) fun queue => .refl _
  | finish => exact numbered

/-- A task that begins waited in its queue or is posted later. -/
theorem waited_of_begun {history : List (Party × Call β)} {e : Executor β} {p : Placed β}
    (member : p ∈ begun (serve history e).1) :
    p.task ∈ e.waiting p.queue ∨ e.posted ≤ p.task.sequence := by
  have found : p.task ∈ whereabouts (serve history e).1 (serve history e).2 p.queue :=
    List.mem_append_left _ (mem_ofQueue.2 member)
  rw [(serve_conserves history e p.queue).mem_iff, List.mem_append, mem_ofQueue] at found
  refine found.symm.imp_right fun posted => ?_
  have number := List.mem_map_of_mem (f := fun p : Placed β => p.task.sequence) posted
  rw [(serve_numbers history e).1, List.mem_range'_1] at number
  exact number.1

theorem takes_of_begun? {call : Call β} {e : Executor β} {p : Placed β}
    (begins : (call.make e).1.begun? = some p) : e.Takes p.queue p.task (call.make e).2 := by
  cases call with
  | begin =>
    rcases begin_cases e with ⟨target, task, hint, rest, made, takes⟩ | ⟨_, made⟩ | ⟨_, made⟩
    · rw [made] at begins ⊢
      cases begins
      exact takes
    · rw [made] at begins
      cases begins
    · rw [made] at begins
      cases begins
  | post priority target body =>
    simp only [Call.make] at begins
    split at begins <;> cases begins
  | addQueue | setPolicy | clear | finish => cases begins

/-- A task that is left behind when another of its queue and priority begins has a later number. -/
theorem Takes.earlier {e rest : Executor β} {queue : Nat} {task other : Task β}
    (takes : e.Takes queue task rest) (numbered : e.Numbered) (left : other ∈ rest.waiting queue)
    (equal : other.priority = task.priority) : task.sequence < other.sequence := by
  have first := takes.first other (takes.perm.subset (List.mem_cons_of_mem _ left))
  rw [Task.runsBefore, Task.Key.runsBefore_iff] at first
  have notBefore : ¬ other.sequence < task.sequence := fun before => first (.inr ⟨equal, before⟩)
  have distinct := (takes.perm.map Task.sequence).nodup_iff.2 (numbered.distinct queue)
  rw [List.map_cons, List.nodup_cons] at distinct
  have apart : task.sequence ≠ other.sequence := fun same =>
    distinct.1 (same ▸ List.mem_map_of_mem left)
  omega

/-- Tasks of one queue and one priority begin in the order of their numbers. -/
theorem begun_earlier (history : List (Party × Call β)) {e : Executor β} (numbered : e.Numbered)
    (queue : Nat) (priority : Int) :
    (alike queue priority (begun (serve history e).1)).Pairwise PostedBefore := by
  induction history generalizing e with
  | nil => exact .nil
  | cons entry rest ih =>
    obtain ⟨party, call⟩ := entry
    have later := ih (call.make_numbered numbered)
    simp only [serve, begun_cons]
    cases first : (call.make e).1.begun? with
    | none => exact later
    | some p =>
      have takes := takes_of_begun? first
      rw [Option.toList_some, List.singleton_append, alike, List.filter_cons]
      split
      · rename_i here
        obtain ⟨sameQueue, samePriority⟩ := of_decide_eq_true here
        refine List.Pairwise.cons (fun q member => ?_) later
        obtain ⟨begins, otherQueue, otherPriority⟩ := mem_alike.1 member
        rcases waited_of_begun begins with waits | posted
        · rw [otherQueue, ← sameQueue] at waits
          exact takes.earlier numbered waits (otherPriority.trans samePriority.symm)
        · have mine := numbered.below p.queue p.task (takes.perm.subset List.mem_cons_self)
          rw [takes.posted] at posted
          exact Nat.lt_of_lt_of_le mine posted
      · exact later

theorem numbered_empty : (empty : Executor β).Numbered where
  below queue task member := by
    rw [waiting_empty] at member
    cases member
  distinct queue := by
    rw [waiting_empty]
    exact List.nodup_nil

theorem serve_numbered (history : List (Party × Call β)) {e : Executor β} (numbered : e.Numbered) :
    (serve history e).2.Numbered := by
  induction history generalizing e with
  | nil => exact numbered
  | cons entry rest ih => exact ih (entry.2.make_numbered numbered)

/-- What an attempt to run a task comes to, by the posts that were made before: nothing begins and
nothing changes, or one task of one queue begins and is gone from there, the other queues are left
alone, and each task that stays behind in that queue has a smaller priority, or an equal one and was
posted after it. -/
inductive Served (posted : List (Placed β)) (e : Executor β) : Reply β × Executor β → Prop
  | nothing {reply : Reply β} (none : reply.begun? = none) : Served posted e (reply, e)
  | one {queue : Nat} {task : Task β} {hint : Bool} {rest : Executor β}
      (taken : (task :: rest.waiting queue).Perm (e.waiting queue))
      (others : ∀ other, other ≠ queue → rest.waiting other = e.waiting other)
      (first : ∀ left ∈ rest.waiting queue, left.priority < task.priority ∨
        left.priority = task.priority ∧
          List.Sublist [⟨queue, task⟩, ⟨queue, left⟩] posted) :
      Served posted e (.began ⟨queue, task⟩ hint, rest)

theorem begin_served (history : List (Party × Call β)) :
    Served (posts (serve history empty).1) (serve history empty).2
      (Call.begin.make (serve history empty).2) := by
  have accounted := accounted_of_empty history
  have numbered := serve_numbered history (numbered_empty (β := β))
  rcases begin_cases (serve history empty).2 with
    ⟨queue, task, hint, rest, made, takes⟩ | ⟨_, made⟩ | ⟨_, made⟩
  · rw [made]
    refine .one takes.perm (fun other apart => waiting_congr (takes.others other apart)) ?_
    intro left stays
    have wasThere := takes.perm.subset (List.mem_cons_of_mem _ stays)
    have isPosted : ∀ waiting ∈ (serve history empty).2.waiting queue,
        ⟨queue, waiting⟩ ∈ posts (serve history empty).1 := fun waiting member =>
      accounted.posted queue waiting
        (List.mem_append_right _ (List.mem_append_right _ member))
    have first := takes.first left wasThere
    rw [Task.runsBefore, Task.Key.runsBefore_iff] at first
    rcases Int.lt_or_le left.priority task.priority with less | most
    · exact .inl less
    · have equal : left.priority = task.priority :=
        Int.le_antisymm (Int.not_lt.1 fun above => first (.inl above)) most
      have earlier : PostedBefore ⟨queue, task⟩ ⟨queue, left⟩ :=
        takes.earlier numbered stays equal
      refine .inr ⟨equal, sublist_of_earlier ?_ (by simpa using earlier)
        (posts_earlier history empty)⟩
      intro p member
      rcases List.mem_pair.1 member with rfl | rfl
      · exact isPosted task (takes.perm.subset List.mem_cons_self)
      · exact isPosted left wasThere
  · rw [made]
    exact .nothing rfl
  · rw [made]
    exact .nothing rfl

/-- Tasks of one queue and one priority begin in the order in which they were posted. -/
theorem begun_sublist (history : List (Party × Call β)) (queue : Nat) (priority : Int) :
    (alike queue priority (begun (serve history empty).1)).Sublist
      (alike queue priority (posts (serve history empty).1)) := by
  refine sublist_of_earlier ?_ (begun_earlier history numbered_empty queue priority)
    ((posts_earlier history empty).filter _)
  intro p member
  obtain ⟨begins, shape⟩ := mem_alike.1 member
  refine mem_alike.2 ⟨?_, shape⟩
  exact (accounted_of_empty history).posted p.queue p.task
    (List.mem_append_left _ (mem_ofQueue.2 begins))

/-- What one party posted, in its own order, among all posts. -/
theorem posts_of_party [DecidableEq Party] (party : Party) (replies : List (Party × Reply β)) :
    (posts (replies.filter fun r => r.1 = party)).Sublist (posts replies) :=
  List.filter_sublist.filterMap _

/-- After any list of calls, by any parties, on a fresh executor: an attempt to run a task serves
the first of some queue, if any; tasks of one queue and one priority have begun in the order of
their posts, and so those that one party posted, in its own order. -/
theorem calls_in_order [DecidableEq Party] (history : List (Party × Call β)) :
    Served (posts (serve history empty).1) (serve history empty).2
        (Call.begin.make (serve history empty).2) ∧
      (∀ queue priority, (alike queue priority (begun (serve history empty).1)).Sublist
        (alike queue priority (posts (serve history empty).1))) ∧
      ∀ party first second,
        List.Sublist [first, second]
          (posts ((serve history empty).1.filter fun r => r.1 = party)) →
        first.queue = second.queue → first.task.priority = second.task.priority →
        first ∈ begun (serve history empty).1 → second ∈ begun (serve history empty).1 →
        List.Sublist [first, second] (begun (serve history empty).1) := by
  refine ⟨begin_served history, begun_sublist history, ?_⟩
  intro party first second own sameQueue samePriority firstBegan secondBegan
  have posted := own.trans (posts_of_party party _)
  have earlier := (posts_earlier history (empty : Executor β)).sublist posted
  have inOrder := begun_earlier history (numbered_empty (β := β)) first.queue first.task.priority
  refine (sublist_of_earlier ?_ earlier inOrder).trans List.filter_sublist
  intro p member
  rcases List.mem_pair.1 member with rfl | rfl
  · exact mem_alike.2 ⟨firstBegan, rfl, rfl⟩
  · exact mem_alike.2 ⟨secondBegan, sameQueue.symm, samePriority.symm⟩

end PluginHost.Executor
