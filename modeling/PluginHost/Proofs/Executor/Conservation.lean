import Mathlib.Data.List.Nodup
import PluginHost.Proofs.Executor.Calls

set_option autoImplicit false

namespace PluginHost.Executor

variable {β Party : Type}

theorem mem_ofQueue {queue : Nat} {placed : List (Placed β)} {task : Task β} :
    task ∈ ofQueue queue placed ↔ ⟨queue, task⟩ ∈ placed := by
  simp only [ofQueue, List.mem_map, List.mem_filter, decide_eq_true_eq]
  constructor
  · rintro ⟨p, ⟨member, rfl⟩, rfl⟩
    exact member
  · intro member
    exact ⟨_, ⟨member, rfl⟩, rfl⟩

theorem ofQueue_append (queue : Nat) (first second : List (Placed β)) :
    ofQueue queue (first ++ second) = ofQueue queue first ++ ofQueue queue second := by
  simp only [ofQueue, List.filter_append, List.map_append]

@[simp] theorem ofQueue_nil (queue : Nat) : ofQueue queue ([] : List (Placed β)) = [] := rfl

@[simp] theorem ofQueue_self (queue : Nat) (task : Task β) :
    ofQueue queue [⟨queue, task⟩] = [task] := by
  simp [ofQueue]

theorem ofQueue_of_ne {queue other : Nat} (apart : other ≠ queue) (task : Task β) :
    ofQueue other [⟨queue, task⟩] = [] := by
  simp [ofQueue, apart.symm]

variable (party : Party) (reply : Reply β) (later : List (Party × Reply β))

theorem posts_cons : posts ((party, reply) :: later) = reply.post?.toList ++ posts later := by
  cases reply <;> rfl

theorem begun_cons : begun ((party, reply) :: later) = reply.begun?.toList ++ begun later := by
  cases reply <;> rfl

theorem added_cons : added ((party, reply) :: later) = reply.added?.toList ++ added later := by
  cases reply <;> rfl

theorem dropped_cons (queue : Nat) :
    dropped ((party, reply) :: later) queue = reply.dropped queue ++ dropped later queue := rfl

/-- A call moves tasks of a queue on, and only a post adds one. -/
theorem Call.make_conserves (call : Call β) (e : Executor β) (queue : Nat) :
    (ofQueue queue (call.make e).1.begun?.toList ++
        ((call.make e).1.dropped queue ++ (call.make e).2.waiting queue)).Perm
      (ofQueue queue (call.make e).1.post?.toList ++ e.waiting queue) := by
  cases call with
  | post priority target body =>
    cases posted : e.post? priority target body with
    | none => simp [make, posted, Reply.begun?, Reply.post?, Reply.dropped]
    | some after =>
      obtain ⟨perm, others⟩ := waiting_post? posted
      by_cases same : queue = target
      · subst same
        simpa [make, posted, Reply.begun?, Reply.post?, Reply.dropped] using perm
      · simp [make, posted, Reply.begun?, Reply.post?, Reply.dropped, others queue same,
          ofQueue_of_ne same]
  | begin =>
    rcases begin_cases e with ⟨target, task, hint, rest, made, takes⟩ | ⟨_, made⟩ | ⟨_, made⟩
    · rw [made]
      by_cases same : queue = target
      · subst same
        simpa [Reply.begun?, Reply.post?, Reply.dropped] using takes.perm
      · simp [Reply.begun?, Reply.post?, Reply.dropped, ofQueue_of_ne same,
          waiting_congr (takes.others queue same)]
    · simp [made, Reply.begun?, Reply.post?, Reply.dropped]
    · simp [made, Reply.begun?, Reply.post?, Reply.dropped]
  | addQueue | setPolicy | clear | finish => simp [make, Reply.begun?, Reply.post?, Reply.dropped]

/-- What two stretches of a history do to tasks they do one after the other. -/
theorem perm_of_stretches {α : Type} {first middle last begun begun' dropped dropped' posted
    posted' : List α} (early : (begun ++ (dropped ++ middle)).Perm (posted ++ first))
    (late : (begun' ++ (dropped' ++ last)).Perm (posted' ++ middle)) :
    ((begun ++ begun') ++ ((dropped ++ dropped') ++ last)).Perm ((posted ++ posted') ++ first) := by
  classical
  rw [List.perm_iff_count] at early late ⊢
  intro a
  have earlyCount := early a
  have lateCount := late a
  simp only [List.count_append] at earlyCount lateCount ⊢
  omega

/-- Where the tasks of a queue are: they began, or they were dropped, or they wait in it. -/
def whereabouts (replies : List (Party × Reply β)) (last : Executor β) (queue : Nat) :
    List (Task β) :=
  ofQueue queue (begun replies) ++ (dropped replies queue ++ last.waiting queue)

/-- Along any list of calls, the tasks of a queue are those that waited in it and those that were
posted to it. -/
theorem serve_conserves (history : List (Party × Call β)) (e : Executor β) (queue : Nat) :
    (whereabouts (serve history e).1 (serve history e).2 queue).Perm
      (ofQueue queue (posts (serve history e).1) ++ e.waiting queue) := by
  induction history generalizing e with
  | nil => simp [serve, whereabouts, begun, dropped, posts]
  | cons entry rest ih =>
    obtain ⟨party, call⟩ := entry
    have early := call.make_conserves e queue
    have late := ih (call.make e).2
    simp only [serve, whereabouts] at late ⊢
    rw [begun_cons, posts_cons, dropped_cons, ofQueue_append, ofQueue_append]
    exact perm_of_stretches early late

/-- Only a post that is made uses up a number, the next one. -/
theorem Call.make_number (call : Call β) (e : Executor β) :
    ((call.make e).1.post? = none ∧ (call.make e).2.posted = e.posted) ∨
      ∃ post, (call.make e).1.post? = some post ∧ post.task.sequence = e.posted ∧
        (call.make e).2.posted = e.posted + 1 := by
  cases call with
  | post priority queue body =>
    cases posted : e.post? priority queue body with
    | none => exact .inl (by simp [make, posted, Reply.post?])
    | some after =>
      refine .inr ⟨⟨queue, ⟨priority, e.posted, body⟩⟩, ?_, rfl, ?_⟩
      · simp [make, posted, Reply.post?]
      · simpa [make, posted] using (posted_post? posted).1
  | begin =>
    rcases begin_cases e with ⟨_, _, _, _, made, takes⟩ | ⟨_, made⟩ | ⟨_, made⟩
    · exact .inl ⟨by rw [made]; rfl, by rw [made]; exact takes.posted⟩
    · exact .inl ⟨by rw [made]; rfl, by rw [made]⟩
    · exact .inl ⟨by rw [made]; rfl, by rw [made]⟩
  | addQueue | setPolicy | clear | finish => exact .inl ⟨rfl, rfl⟩

/-- Posts are numbered in the order in which they take effect. -/
theorem serve_numbers (history : List (Party × Call β)) (e : Executor β) :
    (posts (serve history e).1).map (fun p => p.task.sequence) =
        List.range' e.posted (posts (serve history e).1).length ∧
      (serve history e).2.posted = e.posted + (posts (serve history e).1).length := by
  induction history generalizing e with
  | nil => exact ⟨rfl, rfl⟩
  | cons entry rest ih =>
    obtain ⟨party, call⟩ := entry
    obtain ⟨numbers, count⟩ := ih (call.make e).2
    simp only [serve, posts_cons]
    rcases call.make_number e with ⟨none, same⟩ | ⟨post, posted, number, next⟩
    · rw [none, ← same]
      exact ⟨numbers, count⟩
    · rw [next] at numbers count
      rw [posted]
      simp only [Option.toList_some, List.singleton_append, List.map_cons, List.length_cons,
        List.range'_succ, number, numbers, count]
      exact ⟨trivial, by omega⟩

theorem nodup_numbers (history : List (Party × Call β)) (e : Executor β) :
    ((posts (serve history e).1).map fun p => p.task.sequence).Nodup := by
  rw [(serve_numbers history e).1]
  exact List.nodup_range'

/-- Only a queue that is added uses up a number of queues, the next one. -/
theorem Call.make_queue (call : Call β) (e : Executor β) :
    ((call.make e).1.added? = none ∧ (call.make e).2.queues.size = e.queues.size) ∨
      (call.make e).1.added? = some e.queues.size ∧
        (call.make e).2.queues.size = e.queues.size + 1 := by
  cases call with
  | post priority queue body =>
    cases posted : e.post? priority queue body with
    | none => exact .inl (by simp [make, posted, Reply.added?])
    | some after => exact .inl (by simp [make, posted, Reply.added?, size_queues_post? posted])
  | addQueue => exact .inr ⟨rfl, by simp [make, Executor.addQueue]⟩
  | begin =>
    rcases begin_cases e with ⟨_, _, _, _, made, takes⟩ | ⟨_, made⟩ | ⟨_, made⟩
    · exact .inl ⟨by rw [made]; rfl, by rw [made]; exact takes.count⟩
    · exact .inl ⟨by rw [made]; rfl, by rw [made]⟩
    · exact .inl ⟨by rw [made]; rfl, by rw [made]⟩
  | clear => exact .inl ⟨rfl, by simp [make, Executor.clear]⟩
  | setPolicy | finish => exact .inl ⟨rfl, rfl⟩

/-- Queues are numbered in the order in which they are added. -/
theorem serve_queues (history : List (Party × Call β)) (e : Executor β) :
    added (serve history e).1 =
        List.range' e.queues.size (added (serve history e).1).length ∧
      (serve history e).2.queues.size = e.queues.size + (added (serve history e).1).length := by
  induction history generalizing e with
  | nil => exact ⟨rfl, rfl⟩
  | cons entry rest ih =>
    obtain ⟨party, call⟩ := entry
    obtain ⟨numbers, count⟩ := ih (call.make e).2
    simp only [serve, added_cons]
    rcases call.make_queue e with ⟨none, same⟩ | ⟨queue, next⟩
    · rw [none, ← same]
      exact ⟨numbers, count⟩
    · rw [next] at numbers count
      rw [queue]
      simp only [Option.toList_some, List.singleton_append, List.length_cons, List.range'_succ]
      exact ⟨congrArg _ numbers, by omega⟩

theorem Call.isRefused_post {priority : Int} {queue : Nat} {body : β} {e : Executor β} :
    ((Call.post priority queue body).make e).1.isRefused = true ↔ e.queues.size ≤ queue := by
  have none_iff : e.post? priority queue body = none ↔ e.queues.size ≤ queue := post?_eq_none_iff
  rw [← none_iff, make]
  cases e.post? priority queue body with
  | none => exact iff_of_true rfl rfl
  | some after => exact iff_of_false Bool.false_ne_true (Option.some_ne_none after)

/-- A post that is refused changes nothing. -/
theorem Call.make_of_refused {call : Call β} {e : Executor β}
    (refused : (call.make e).1.isRefused = true) : (call.make e).2 = e := by
  cases call with
  | post priority queue body =>
    have none : e.post? priority queue body = none :=
      post?_eq_none_iff.2 (isRefused_post.1 refused)
    simp only [make, none]
  | begin =>
    rcases begin_cases e with ⟨_, _, _, _, made, _⟩ | ⟨_, made⟩ | ⟨_, made⟩ <;>
      rw [made] at refused <;> cases refused
  | addQueue | setPolicy | clear | finish => cases refused

/-- A history without the posts in it that are refused. -/
def accepted : List (Party × Call β) → Executor β → List (Party × Call β)
  | [], _ => []
  | (party, call) :: rest, e =>
    if (call.make e).1.isRefused then accepted rest (call.make e).2
    else (party, call) :: accepted rest (call.make e).2

theorem serve_accepted (history : List (Party × Call β)) (e : Executor β) :
    serve (accepted history e) e =
      ((serve history e).1.filter fun r => !r.2.isRefused, (serve history e).2) := by
  induction history generalizing e with
  | nil => rfl
  | cons entry rest ih =>
    obtain ⟨party, call⟩ := entry
    have later := ih (call.make e).2
    simp only [accepted, serve]
    cases refused : (call.make e).1.isRefused with
    | true =>
      rw [Call.make_of_refused refused] at later ⊢
      simpa [refused] using later
    | false => simp [refused, serve, later]

/-- What becomes of the tasks that were posted. -/
structure Accounted (replies : List (Party × Reply β)) (last : Executor β) : Prop where
  /-- A task waits in the queue that it was posted to, or it began, taken from that queue, or it was
  dropped from there: one of the three, and once. -/
  once : ∀ post ∈ posts replies, ∀ queue,
    ((whereabouts replies last queue).map Task.sequence).count post.task.sequence =
      if queue = post.queue then 1 else 0
  /-- Nothing else waits, began or was dropped. -/
  posted : ∀ queue, ∀ task ∈ whereabouts replies last queue, ⟨queue, task⟩ ∈ posts replies

/-- Where posts have numbers of their own, the number of one of them is found once among those to
its queue and not among those to another. -/
theorem count_number {placed : List (Placed β)}
    (distinct : (placed.map fun p => p.task.sequence).Nodup) {post : Placed β}
    (member : post ∈ placed) (queue : Nat) :
    ((ofQueue queue placed).map Task.sequence).count post.task.sequence =
      if queue = post.queue then 1 else 0 := by
  have shape : (ofQueue queue placed).map Task.sequence =
      (placed.filter fun p => p.queue = queue).map fun p => p.task.sequence := by
    simp only [ofQueue, List.map_map]
    rfl
  have nodup : ((placed.filter fun p => p.queue = queue).map fun p => p.task.sequence).Nodup :=
    distinct.sublist (List.filter_sublist.map _)
  rw [shape]
  split
  · rename_i here
    refine List.count_eq_one_of_mem nodup (List.mem_map_of_mem (List.mem_filter.2 ⟨member, ?_⟩))
    exact decide_eq_true here.symm
  · rename_i elsewhere
    refine List.count_eq_zero_of_not_mem fun found => elsewhere ?_
    obtain ⟨other, filtered, number⟩ := List.mem_map.1 found
    obtain ⟨otherMember, there⟩ := List.mem_filter.1 filtered
    have same := List.inj_on_of_nodup_map distinct otherMember member number
    rw [← same]
    exact (of_decide_eq_true there).symm

theorem accounted_of_empty (history : List (Party × Call β)) :
    Accounted (serve history empty).1 (serve history empty).2 := by
  have conserves := serve_conserves history (empty : Executor β)
  have distinct := nodup_numbers history (empty : Executor β)
  constructor
  · intro post member queue
    rw [((conserves queue).map Task.sequence).count_eq, waiting_empty, List.append_nil]
    exact count_number distinct member queue
  · intro queue task member
    rw [(conserves queue).mem_iff, waiting_empty, List.append_nil, mem_ofQueue] at member
    exact member

/-- After any list of calls on a fresh executor every post is accounted for, a post would fail
exactly if its queue is neither queue 0 nor one that was added, and without the posts that failed
the same would have come of all other calls, and of the executor. -/
theorem calls_accounted (history : List (Party × Call β)) :
    Accounted (serve history empty).1 (serve history empty).2 ∧
      (∀ priority queue body,
        ((Call.post priority queue body).make (serve history empty).2).1.isRefused = true ↔
          queue ≠ 0 ∧ queue ∉ added (serve history empty).1) ∧
      serve (accepted history empty) empty =
        ((serve history empty).1.filter fun r => !r.2.isRefused, (serve history empty).2) := by
  refine ⟨accounted_of_empty history, fun priority queue body => ?_, serve_accepted history empty⟩
  obtain ⟨numbers, count⟩ := serve_queues history (empty : Executor β)
  have one : (empty : Executor β).queues.size = 1 := rfl
  have mem : queue ∈ added (serve history empty).1 ↔
      1 ≤ queue ∧ queue < 1 + (added (serve history empty).1).length := by
    rw [one] at numbers
    exact (iff_of_eq (congrArg (queue ∈ ·) numbers)).trans List.mem_range'_1
  rw [Call.isRefused_post, count, mem, one]
  omega

end PluginHost.Executor
