import PluginHost.Proofs.Executor.Calls
import PluginHost.Proofs.Heartbeat.Foreign

/-!
Beats on their way to the monitor. Their deliveries wait in queue 0 at one priority, in the order in
which they were published, so they are taken in that order whatever else waits there or elsewhere.
The task that quits at the limit waits behind all of them.
-/

set_option autoImplicit false

namespace PluginHost.Heartbeat

variable {w : Wiring} {next published : Nat} {e after : Executor Code}

/-- A task that delivers the beat of a number. -/
structure Carries (w : Wiring) (number : Nat) (task : Task Code) : Prop where
  priority : task.priority = PluginHost.priority.medium
  beat : ∃ beat : Beat, beat.seq = number ∧ task.body = w.delivery beat

/-- Tasks that deliver beats one after the other, in the order of their posts. -/
def Convoy (w : Wiring) : Nat → List (Task Code) → Prop
  | _, [] => True
  | number, task :: rest =>
    Carries w number task ∧ (∀ later ∈ rest, task.sequence < later.sequence) ∧
      Convoy w (number + 1) rest

theorem Convoy.medium {number : Nat} {beats : List (Task Code)} (convoy : Convoy w number beats) :
    ∀ task ∈ beats, task.priority = PluginHost.priority.medium := by
  induction beats generalizing number with
  | nil => exact fun _ none => absurd none List.not_mem_nil
  | cons first rest ih =>
    obtain ⟨carries, _, later⟩ := convoy
    exact List.forall_mem_cons.2 ⟨carries.priority, ih later⟩

/-- A beat that is published joins the end. -/
theorem Convoy.concat {number : Nat} {beats : List (Task Code)} (convoy : Convoy w number beats)
    {task : Task Code} (carries : Carries w (number + beats.length) task)
    (after : ∀ earlier ∈ beats, earlier.sequence < task.sequence) :
    Convoy w number (beats ++ [task]) := by
  induction beats generalizing number with
  | nil => exact ⟨carries, fun _ none => absurd none List.not_mem_nil, trivial⟩
  | cons first rest ih =>
    obtain ⟨firstCarries, before, later⟩ := convoy
    obtain ⟨firstBefore, restBefore⟩ := List.forall_mem_cons.1 after
    refine ⟨firstCarries, ?_, ih later ?_ restBefore⟩
    · exact List.forall_mem_append.2 ⟨before, List.forall_mem_singleton.2 firstBefore⟩
    · rw [Nat.add_right_comm]
      exact carries

/-- The tasks of queue 0 are the beats on their way and others, and all other queues hold others. -/
structure Lined (w : Wiring) (next published : Nat) (e : Executor Code)
    (beats others : List (Task Code)) : Prop where
  queue : (e.waiting 0).Perm (beats ++ others)
  convoy : Convoy w next beats
  count : next + beats.length = published + 1
  numbered : ∀ task ∈ beats, task.sequence < e.posted
  others : ∀ task ∈ others, task.body.Postable w
  elsewhere : ∀ queue, queue ≠ 0 → ∀ task ∈ e.waiting queue, task.body.Postable w

/-- The beats on their way are those that are published and not delivered, from the next one on. -/
def OnTheWay (w : Wiring) (next published : Nat) (e : Executor Code) : Prop :=
  ∃ beats others, Lined w next published e beats others

namespace Lined

variable {beats others : List (Task Code)} {rest : Executor Code} {task : Task Code}

/-- A task that is taken runs before any beat that it leaves behind. -/
theorem not_before (lined : Lined w next published e beats others) (takes : e.Takes 0 task rest)
    {beat : Task Code} (member : beat ∈ beats) :
    ¬ (task.priority < beat.priority ∨
      beat.priority = task.priority ∧ beat.sequence < task.sequence) := by
  have waits : beat ∈ e.waiting 0 := lined.queue.mem_iff.2 (List.mem_append_left _ member)
  have notBefore := takes.first beat waits
  rwa [Task.runsBefore, Task.Key.runsBefore_iff] at notBefore

/-- A beat that is taken is the first one. -/
theorem eq_head {head : Task Code} {later : List (Task Code)}
    (lined : Lined w next published e (head :: later) others) (takes : e.Takes 0 task rest)
    (among : task ∈ head :: later) : task = head := by
  rcases List.mem_cons.1 among with same | behind
  · exact same
  · have medium := lined.convoy.medium
    refine absurd (.inr ⟨?_, lined.convoy.2.1 task behind⟩)
      (lined.not_before takes List.mem_cons_self)
    exact (medium head List.mem_cons_self).trans (medium task among).symm

/-- The first beat is taken. -/
theorem take_beat (lined : Lined w next published e beats others) (takes : e.Takes 0 task rest)
    (among : task ∈ beats) : Carries w next task ∧ OnTheWay w (next + 1) published rest := by
  cases beats with
  | nil => cases among
  | cons head later =>
    cases lined.eq_head takes among
    have perm : (task :: rest.waiting 0).Perm (task :: (later ++ others)) :=
      takes.perm.trans lined.queue
    obtain ⟨carries, _, behind⟩ := lined.convoy
    obtain ⟨_, numbered⟩ := List.forall_mem_cons.1 lined.numbered
    refine ⟨carries, later, others, perm.cons_inv, behind, ?_, ?_, lined.others, ?_⟩
    · have count := lined.count
      simp only [List.length_cons] at count
      omega
    · rw [takes.posted]
      exact numbered
    · exact fun queue nonzero left member =>
        lined.elsewhere queue nonzero left (takes.mem_waiting member)

/-- Another task is taken from the queue of the beats. -/
theorem take_other (lined : Lined w next published e beats others) (takes : e.Takes 0 task rest)
    (among : task ∈ others) : task.body.Postable w ∧ OnTheWay w next published rest := by
  obtain ⟨left, right, split⟩ := List.append_of_mem among
  subst split
  have perm : (task :: rest.waiting 0).Perm (task :: (beats ++ (left ++ right))) := by
    rw [← List.append_assoc]
    refine (takes.perm.trans lined.queue).trans ?_
    rw [← List.append_assoc]
    exact List.perm_middle
  have postable := lined.others
  rw [List.forall_mem_append, List.forall_mem_cons] at postable
  obtain ⟨early, postable, late⟩ := postable
  refine ⟨postable, beats, left ++ right, perm.cons_inv, lined.convoy, lined.count, ?_,
    List.forall_mem_append.2 ⟨early, late⟩, ?_⟩
  · rw [takes.posted]
    exact lined.numbered
  · exact fun queue nonzero other member =>
      lined.elsewhere queue nonzero other (takes.mem_waiting member)

/-- A task is taken from another queue. -/
theorem take_elsewhere {queue : Nat} (lined : Lined w next published e beats others)
    (takes : e.Takes queue task rest) (nonzero : queue ≠ 0) :
    task.body.Postable w ∧ OnTheWay w next published rest := by
  have postable := lined.elsewhere queue nonzero task (takes.perm.subset List.mem_cons_self)
  refine ⟨postable, beats, others, ?_, lined.convoy, lined.count, ?_, lined.others, ?_⟩
  · rw [Executor.waiting_congr (takes.others 0 (Ne.symm nonzero))]
    exact lined.queue
  · rw [takes.posted]
    exact lined.numbered
  · exact fun other nonzeroToo left member =>
      lined.elsewhere other nonzeroToo left (takes.mem_waiting member)

end Lined

namespace OnTheWay

/-- As long as nothing is published there is nothing on its way. -/
theorem of_postable {last : Nat}
    (others : ∀ queue, ∀ task ∈ e.waiting queue, task.body.Postable w) :
    OnTheWay w (last + 1) last e :=
  ⟨[], e.waiting 0, .refl _, trivial, rfl, fun _ none => absurd none List.not_mem_nil,
    others 0, fun queue _ => others queue⟩

/-- What else is posted does not get in between. -/
theorem post (way : OnTheWay w next published e) {priority : Int} {queue : Nat} {body : Code}
    (posted : e.post? priority queue body = some after) (postable : body.Postable w) :
    OnTheWay w next published after := by
  obtain ⟨beats, others, lined⟩ := way
  obtain ⟨perm, apart⟩ := Executor.waiting_post? posted
  have numbered : ∀ task ∈ beats, task.sequence < after.posted := by
    intro task member
    rw [(Executor.posted_post? posted).1]
    exact Nat.lt_succ_of_lt (lined.numbered task member)
  have elsewhere : ∀ other, other ≠ 0 → ∀ task ∈ after.waiting other, task.body.Postable w := by
    intro other nonzero task member
    rcases Executor.mem_waiting_post? posted member with ⟨_, rfl⟩ | old
    · exact postable
    · exact lined.elsewhere other nonzero task old
  by_cases first : queue = 0
  · subst first
    refine ⟨beats, ⟨priority, e.posted, body⟩ :: others, ?_, lined.convoy, lined.count, numbered,
      List.forall_mem_cons.2 ⟨postable, lined.others⟩, elsewhere⟩
    exact (perm.trans (lined.queue.cons _)).trans List.perm_middle.symm
  · refine ⟨beats, others, ?_, lined.convoy, lined.count, numbered, lined.others, elsewhere⟩
    rw [apart 0 fun same => first same.symm]
    exact lined.queue

/-- A beat that is published joins those on their way. -/
theorem publish (way : OnTheWay w next published e) {beat : Beat}
    (number : beat.seq = published + 1)
    (posted : e.post? PluginHost.priority.medium 0 (w.delivery beat) = some after) :
    OnTheWay w next (published + 1) after := by
  obtain ⟨beats, others, lined⟩ := way
  obtain ⟨perm, apart⟩ := Executor.waiting_post? posted
  have later := (Executor.posted_post? posted).1
  let task : Task Code := ⟨PluginHost.priority.medium, e.posted, w.delivery beat⟩
  have carries : Carries w (next + beats.length) task :=
    ⟨rfl, beat, number.trans lined.count.symm, rfl⟩
  refine ⟨beats ++ [task], others, ?_, lined.convoy.concat carries lined.numbered, ?_, ?_,
    lined.others, ?_⟩
  · rw [List.append_assoc, List.singleton_append]
    exact (perm.trans (lined.queue.cons _)).trans List.perm_middle.symm
  · have count := lined.count
    simp only [List.length_append, List.length_singleton]
    omega
  · rw [later]
    refine List.forall_mem_append.2 ⟨fun earlier member => ?_, List.forall_mem_singleton.2 ?_⟩
    · exact Nat.lt_succ_of_lt (lined.numbered earlier member)
    · exact Nat.lt_succ_self _
  · intro queue nonzero other member
    rw [apart queue nonzero] at member
    exact lined.elsewhere queue nonzero other member

theorem addQueue (way : OnTheWay w next published e) : OnTheWay w next published e.addQueue := by
  obtain ⟨beats, others, lined⟩ := way
  refine ⟨beats, others, ?_, lined.convoy, lined.count, lined.numbered, lined.others, ?_⟩
  · rw [Executor.waiting_addQueue]
    exact lined.queue
  · intro queue nonzero task member
    rw [Executor.waiting_addQueue] at member
    exact lined.elsewhere queue nonzero task member

theorem setPolicy (way : OnTheWay w next published e) (policy : Policy) :
    OnTheWay w next published (e.setPolicy policy) := by
  obtain ⟨beats, others, lined⟩ := way
  exact ⟨beats, others, { lined with }⟩

theorem next_le (way : OnTheWay w next published e) : next ≤ published + 1 := by
  obtain ⟨beats, others, lined⟩ := way
  have count := lined.count
  omega

/-- Nothing is on its way when the next task of queue 0 has the lowest priority. -/
theorem all_delivered {rest : Executor Code} {task : Task Code}
    (way : OnTheWay w next published e) (takes : e.Takes 0 task rest)
    (lowest : task.priority = PluginHost.priority.lowest) : next = published + 1 := by
  obtain ⟨beats, others, lined⟩ := way
  cases beats with
  | nil => exact lined.count
  | cons first later =>
    have medium : first.priority = PluginHost.priority.medium := lined.convoy.1.priority
    refine absurd (.inl ?_) (lined.not_before takes List.mem_cons_self)
    rw [medium, lowest]
    decide

/-- A task that is taken delivers the beat that comes next, or none. -/
theorem take {rest : Executor Code} {queue : Nat} {task : Task Code}
    (way : OnTheWay w next published e) (takes : e.Takes queue task rest) :
    (task.body.Postable w ∧ OnTheWay w next published rest) ∨
      Carries w next task ∧ OnTheWay w (next + 1) published rest := by
  obtain ⟨beats, others, lined⟩ := way
  by_cases first : queue = 0
  · subst first
    have waits : task ∈ beats ++ others :=
      (takes.perm.trans lined.queue).subset List.mem_cons_self
    rcases List.mem_append.1 waits with beat | other
    · exact .inr (lined.take_beat takes beat)
    · exact .inl (lined.take_other takes other)
  · exact .inl (lined.take_elsewhere takes first)

end OnTheWay

/-- The task that quits at the limit is known by its number, once it has one. It waits in queue 0 at
the lowest priority. -/
structure Marked (quitter : Option Nat) (e : Executor Code) : Prop where
  numbered : ∀ queue, ∀ task ∈ e.waiting queue, task.sequence < e.posted
  given : ∀ number, quitter = some number → number < e.posted
  lowest : ∀ queue, ∀ task ∈ e.waiting queue, quitter = some task.sequence →
    queue = 0 ∧ task.priority = PluginHost.priority.lowest

namespace Marked

variable {quitter : Option Nat}

theorem congr (marked : Marked quitter e) (posted : after.posted = e.posted)
    (within : ∀ queue, ∀ task ∈ after.waiting queue, task ∈ e.waiting queue) :
    Marked quitter after where
  numbered queue task member := by
    rw [posted]
    exact marked.numbered queue task (within queue task member)
  given number mine := by
    rw [posted]
    exact marked.given number mine
  lowest queue task member := marked.lowest queue task (within queue task member)

theorem addQueue (marked : Marked quitter e) : Marked quitter e.addQueue :=
  marked.congr rfl fun queue task member => by rwa [Executor.waiting_addQueue] at member

theorem setPolicy (marked : Marked quitter e) (policy : Policy) :
    Marked quitter (e.setPolicy policy) :=
  marked.congr rfl fun _ _ member => member

theorem clear (marked : Marked quitter e) : Marked quitter e.clear :=
  marked.congr rfl fun queue task member => by
    rw [Executor.waiting_clear] at member
    exact absurd member List.not_mem_nil

theorem take {rest : Executor Code} {queue : Nat} {task : Task Code} (marked : Marked quitter e)
    (takes : e.Takes queue task rest) : Marked quitter rest :=
  marked.congr takes.posted fun _ _ member => takes.mem_waiting member

variable {priority : Int} {queue : Nat} {body : Code}

/-- Another task gets another number. -/
theorem post (marked : Marked quitter e) (posted : e.post? priority queue body = some after) :
    Marked quitter after where
  numbered := Executor.below_post? marked.numbered posted
  given number mine := by
    rw [(Executor.posted_post? posted).1]
    exact Nat.lt_succ_of_lt (marked.given number mine)
  lowest other task member mine := by
    rcases Executor.mem_waiting_post? posted member with ⟨_, rfl⟩ | old
    · exact absurd (marked.given _ mine) (Nat.lt_irrefl _)
    · exact marked.lowest other task old mine

/-- The task that quits is posted, and gets its number. -/
theorem mark (marked : Marked quitter e)
    (posted : e.post? PluginHost.priority.lowest 0 body = some after) :
    Marked (some e.posted) after where
  numbered := Executor.below_post? marked.numbered posted
  given number mine := by
    cases mine
    rw [(Executor.posted_post? posted).1]
    exact Nat.lt_succ_self _
  lowest other task member mine := by
    rcases Executor.mem_waiting_post? posted member with ⟨first, rfl⟩ | old
    · exact ⟨first, rfl⟩
    · have earlier := marked.numbered other task old
      have same : e.posted = task.sequence := Option.some.inj mine
      omega

end Marked

end PluginHost.Heartbeat
