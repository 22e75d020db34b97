import PluginHost.Proofs.Heartbeat.Beating
import PluginHost.Proofs.Messaging.Course

set_option autoImplicit false

namespace PluginHost

/-- Code that hands a message to the subscribers of a channel. -/
def Code.delivers (channel : Nat) : Code → Bool
  | .deliver number _ _ => number = channel
  | _ => false

namespace Heartbeat

variable {w : Wiring} {start h after last : Host} {ticks published : Nat}

/-- How many deliveries to the heartbeat's channel wait to be made. -/
def Wiring.deliveries (w : Wiring) (h : Host) : Nat :=
  (h.executor.waiting 0).countP fun task => task.body.delivers w.channel

/-- The heartbeat has counted a number of ticks, and there is a queue that it can post to. -/
structure Counts (w : Wiring) (ticks : Nat) (h : Host) : Prop where
  queue : 0 < h.executor.queues.size
  count : h.cells[w.heartbeat.sequence]? = some (.int ticks)

/-- What somebody does who leaves the count and the queue alone. -/
def LeavesAlone (w : Wiring) (h after : Host) : Prop :=
  ∀ ticks, Counts w ticks h → Counts w ticks after

theorem Counts.post (counts : Counts w ticks h) (priority : Int) (body : Code) :
    (h.post priority 0 body).1 = .ok () ∧ Counts w ticks (h.post priority 0 body).2 ∧
      w.deliveries (h.post priority 0 body).2 =
        w.deliveries h + if body.delivers w.channel then 1 else 0 := by
  unfold Host.post
  split
  · rename_i none
    exact absurd (Executor.post?_eq_none_iff.1 none) (Nat.not_le.2 counts.queue)
  · rename_i executor posted
    refine ⟨rfl, ⟨?_, counts.count⟩, ?_⟩
    · exact Nat.lt_of_lt_of_eq counts.queue (Executor.size_queues_post? posted).symm
    · have perm := (Executor.waiting_post? posted).1.countP_eq fun task =>
        task.body.delivers w.channel
      rw [List.countP_cons] at perm
      exact perm

theorem Counts.tell (counts : Counts w ticks h) (origin : Origin) (level : Level)
    (message : String) (fields : List (String × FieldValue)) :
    Counts w ticks (h.tell origin level message fields) := ⟨counts.queue, counts.count⟩

/-- The host when a beat has been published: after the last one the task that quits is posted. -/
def Wiring.closed (w : Wiring) (number : Nat) (h : Host) : Host :=
  if number = w.limit then
    ((h.tell .heartbeat .info "Heartbeat limit reached, quitting"
      [("limit", .number w.limit)]).post priority.lowest 0 quitCode).2
  else h

def Wiring.beaten (w : Wiring) (number : Nat) (h : Host) : Host :=
  w.closed number ((h.tell .heartbeat .debug "Heartbeat" [("seq", .number number)]).post
    priority.medium 0 (w.delivery ⟨number, Time.Instant.epoch.addMillis h.reactor.clock⟩)).2

def Wiring.ticked (w : Wiring) (number : Nat) (h : Host) : Host :=
  if 0 < w.limit ∧ w.limit < number then h.write w.heartbeat.sequence (.int number)
  else w.beaten number (h.write w.heartbeat.sequence (.int number))

theorem afterwards_run (counts : Counts w ticks h) (number : Nat) (dispatch : Dispatch) :
    Code.run dispatch (w.afterwards number).code h =
      (.returned (.ok .null), w.closed number h) := by
  unfold Wiring.afterwards Wiring.closed
  by_cases last : number = w.limit
  · simp only [last, if_true]
    obtain ⟨accepted, _⟩ := (counts.tell .heartbeat .info "Heartbeat limit reached, quitting"
      [("limit", .number w.limit)]).post priority.lowest quitCode
    show Code.run dispatch (.post priority.lowest 0 quitCode fun result =>
      (Steps.orFail result).code) (h.tell .heartbeat .info "Heartbeat limit reached, quitting"
        [("limit", .number w.limit)]) = _
    rw [Code.run_post, accepted]
    rfl
  · simp only [last, if_false]
    rfl

theorem counted_run (counts : Counts w ticks h) {number : Nat}
    (within : ¬ (0 < w.limit ∧ w.limit < number)) (dispatch : Dispatch) :
    Code.run dispatch (w.counted number).code h = (.returned (.ok .null), w.beaten number h) := by
  obtain ⟨accepted, kept, _⟩ := (counts.tell .heartbeat .debug "Heartbeat"
    [("seq", .number number)]).post priority.medium
      (w.delivery ⟨number, Time.Instant.epoch.addMillis h.reactor.clock⟩)
  unfold Wiring.counted
  rw [if_neg within]
  show Code.run dispatch (.post priority.medium 0
      (w.delivery ⟨number, Time.Instant.epoch.addMillis h.reactor.clock⟩) fun result =>
        (do Steps.orFail result; w.afterwards number : Steps Unit).code)
    (h.tell .heartbeat .debug "Heartbeat" [("seq", .number number)]) = _
  rw [Code.run_post, accepted]
  exact afterwards_run kept number dispatch

/-- A tick runs no other code, so it does the same whoever runs it. -/
theorem tick_run (counts : Counts w ticks h) (dispatch : Dispatch) :
    Code.run dispatch w.tick h = (.returned (.ok .null), w.ticked (ticks + 1) h) := by
  have number : (h.read w.heartbeat.sequence).toNat = ticks := by
    rw [Host.read_of_cell counts.count]
    rfl
  have inside := (Array.getElem?_eq_some_iff.1 counts.count).1
  have counted : Counts w (ticks + 1)
      (h.write w.heartbeat.sequence (.int ((ticks + 1 : Nat) : Int))) :=
    ⟨counts.queue, Array.getElem?_setIfInBounds_self_of_lt inside⟩
  rw [run_tick, number]
  unfold Wiring.ticked
  by_cases beyond : 0 < w.limit ∧ w.limit < ticks + 1
  · unfold Wiring.counted
    rw [if_pos beyond, if_pos beyond]
    rfl
  · rw [if_neg beyond]
    exact counted_run counted beyond dispatch

theorem Counts.closed (counts : Counts w ticks h) (number : Nat) :
    Counts w ticks (w.closed number h) ∧ w.deliveries (w.closed number h) = w.deliveries h := by
  unfold Wiring.closed
  split
  · obtain ⟨_, kept, waiting⟩ := (counts.tell .heartbeat .info "Heartbeat limit reached, quitting"
      [("limit", .number w.limit)]).post priority.lowest quitCode
    exact ⟨kept, waiting⟩
  · exact ⟨counts, rfl⟩

theorem Counts.beaten (counts : Counts w ticks h) (number : Nat) :
    Counts w ticks (w.beaten number h) ∧ w.deliveries (w.beaten number h) = w.deliveries h + 1 := by
  let delivery := w.delivery ⟨number, Time.Instant.epoch.addMillis h.reactor.clock⟩
  obtain ⟨_, kept, waiting⟩ := (counts.tell .heartbeat .debug "Heartbeat"
    [("seq", .number number)]).post priority.medium delivery
  obtain ⟨keptToo, same⟩ := kept.closed number
  have mine : delivery.delivers w.channel = true := decide_eq_true rfl
  rw [mine, if_pos rfl] at waiting
  exact ⟨keptToo, same.trans waiting⟩

/-- A tick is counted in any case. It publishes a beat if the limit leaves room for it. -/
theorem Counts.ticked (counts : Counts w ticks h) :
    Counts w (ticks + 1) (w.ticked (ticks + 1) h) ∧
      w.deliveries (w.ticked (ticks + 1) h) + w.published ticks =
        w.deliveries h + w.published (ticks + 1) := by
  have inside := (Array.getElem?_eq_some_iff.1 counts.count).1
  have counted : Counts w (ticks + 1)
      (h.write w.heartbeat.sequence (.int ((ticks + 1 : Nat) : Int))) :=
    ⟨counts.queue, Array.getElem?_setIfInBounds_self_of_lt inside⟩
  unfold Wiring.ticked
  by_cases beyond : 0 < w.limit ∧ w.limit < ticks + 1
  · rw [if_pos beyond, Wiring.published_of_beyond beyond]
    exact ⟨counted, rfl⟩
  · obtain ⟨before, now⟩ := Wiring.published_of_within beyond
    obtain ⟨kept, waiting⟩ := counted.beaten (ticks + 1)
    rw [if_neg beyond]
    refine ⟨kept, ?_⟩
    rw [waiting, before, now]
    exact Nat.succ_add_eq_add_succ _ _

/-- How a host goes on. Whenever a tick runs it is counted here, with the deliveries that there are
more of when it has run; in between others do what leaves the count alone. -/
inductive Beats (w : Wiring) (start : Host) : Nat → Nat → Host → Prop
  | none : Beats w start 0 0 start
  | others {ticks published : Nat} {h after : Host} (beats : Beats w start ticks published h)
      (leaves : LeavesAlone w h after) : Beats w start ticks published after
  | tick {ticks published more : Nat} {h : Host} (beats : Beats w start ticks published h)
      (dispatch : Dispatch)
      (posted : w.deliveries (Code.run dispatch w.tick h).2 = w.deliveries h + more) :
      Beats w start (ticks + 1) (published + more) (Code.run dispatch w.tick h).2

/-- As many ticks are counted as there were, and as many beats are published as the limit allows. -/
theorem Beats.counted (beats : Beats w start ticks published last) (fresh : Counts w 0 start) :
    Counts w ticks last ∧ published = w.published ticks := by
  induction beats with
  | none =>
    refine ⟨fresh, ?_⟩
    simp only [Wiring.published, Nat.zero_min, ite_self]
  | others _ leaves ih => exact ⟨leaves _ ih.1, ih.2⟩
  | tick _ dispatch posted ih =>
    obtain ⟨counts, sum⟩ := ih.1.ticked
    rw [tick_run ih.1] at posted ⊢
    refine ⟨counts, ?_⟩
    rw [posted, ← ih.2] at sum
    omega

/-- A tick can be added to any history. -/
theorem Beats.andTick (beats : Beats w start ticks published h) (fresh : Counts w 0 start)
    (dispatch : Dispatch) :
    Beats w start (ticks + 1) (w.published (ticks + 1)) (Code.run dispatch w.tick h).2 := by
  obtain ⟨counts, rfl⟩ := beats.counted fresh
  obtain ⟨_, sum⟩ := counts.ticked
  have grows : w.published ticks ≤ w.published (ticks + 1) := by
    unfold Wiring.published
    split <;> omega
  have posted : w.deliveries (Code.run dispatch w.tick h).2 =
      w.deliveries h + (w.published (ticks + 1) - w.published ticks) := by
    rw [tick_run counts]
    dsimp only
    omega
  have more := beats.tick dispatch posted
  rwa [Nat.add_sub_of_le grows] at more

end Heartbeat

end PluginHost
