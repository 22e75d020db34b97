import PluginHost.Proofs.Executor.Rerouting
import PluginHost.Proofs.Heartbeat.Published

/-!
What runs beside a heartbeat. Code of others may do anything but write where the heartbeat counts,
and it may run tasks itself, ticks among them. Whatever such code does, the host goes on as it does
in a history of the heartbeat.
-/

set_option autoImplicit false

namespace PluginHost

open Act (Leads Keeps)
open Heartbeat (Wiring Counts Beats LeavesAlone)

variable {w : Wiring} {dispatch : Dispatch} {start h after last : Host}

/-- A request that does not write where the heartbeat counts. -/
def Request.Spares (w : Wiring) : Request → Prop
  | .write cell _ => cell ≠ w.heartbeat.sequence
  | _ => True

/-- Code that does not write where the heartbeat counts, nor does any code that it hands on. -/
def Code.Spares (w : Wiring) (code : Code) : Prop :=
  code.Suits (fun _ => True) fun request _ => request.Spares w

/-- A host where ticks and code of others wait, and whatever else is kept is code of others. -/
structure Host.Spared (w : Wiring) (h : Host) : Prop where
  tasks : ∀ task ∈ h.executor.tasks, task.body.Spares w ∨ task.body = w.tick
  kept : h.Holds (Code.Spares w)

/-- What somebody does at once who leaves the count alone and brings in code of others only. -/
structure Host.Sparing (w : Wiring) (h after : Host) : Prop where
  alone : LeavesAlone w h after
  spared : h.Spared w → after.Spared w

namespace Host.Sparing

theorem refl (h : Host) : h.Sparing w h := ⟨fun _ counts => counts, fun spared => spared⟩

theorem trans (first : h.Sparing w after) (second : after.Sparing w last) : h.Sparing w last :=
  ⟨fun ticks counts => second.alone ticks (first.alone ticks counts),
    fun spared => second.spared (first.spared spared)⟩

/-- What changes nothing that the heartbeat needs and no code that is kept. -/
theorem of_same (executor : after.executor = h.executor) (cells : after.cells = h.cells)
    (channels : after.channels = h.channels) (methods : after.methods = h.methods)
    (keptPosts : after.keptPosts = h.keptPosts) : h.Sparing w after where
  alone _ counts := ⟨executor ▸ counts.queue, cells ▸ counts.count⟩
  spared spared :=
    { tasks := executor ▸ spared.tasks
      kept :=
        { subscribers := channels ▸ spared.kept.subscribers
          providers := methods ▸ spared.kept.providers
          kept := keptPosts ▸ spared.kept.kept } }

theorem tell (h : Host) (origin : Origin) (level : Level) (message : String)
    (fields : List (String × FieldValue)) : h.Sparing w (h.tell origin level message fields) :=
  of_same rfl rfl rfl rfl rfl

/-- The executor changes, and no new code waits in it. -/
theorem executor {e : Executor Code} (queue : 0 < h.executor.queues.size → 0 < e.queues.size)
    (tasks : ∀ task ∈ e.tasks, task ∈ h.executor.tasks) : h.Sparing w { h with executor := e } where
  alone _ counts := ⟨queue counts.queue, counts.count⟩
  spared spared := ⟨fun task member => spared.tasks task (tasks task member), { spared.kept with }⟩

/-- Cells are added, or others are written. -/
theorem cells {cells : Array Json}
    (same : ∀ value, h.cells[w.heartbeat.sequence]? = some value →
      cells[w.heartbeat.sequence]? = some value) : h.Sparing w { h with cells := cells } where
  alone _ counts := ⟨counts.queue, same _ counts.count⟩
  spared spared := ⟨spared.tasks, { spared.kept with }⟩

theorem channels {channels : Array (Channel Code Json)}
    (hold : h.Spared w → ∀ c ∈ channels, c.Holds (Code.Spares w)) :
    h.Sparing w { h with channels := channels } where
  alone _ counts := ⟨counts.queue, counts.count⟩
  spared spared := ⟨spared.tasks, { spared.kept with subscribers := hold spared }⟩

theorem methods {methods : Array (Method Code Json)}
    (hold : h.Spared w → ∀ m ∈ methods, m.Holds (Code.Spares w)) :
    h.Sparing w { h with methods := methods } where
  alone _ counts := ⟨counts.queue, counts.count⟩
  spared spared := ⟨spared.tasks, { spared.kept with providers := hold spared }⟩

theorem keptPosts {keptPosts : Members KeptPost}
    (hold : h.Spared w → ∀ p ∈ keptPosts, p.2.body.Spares w) :
    h.Sparing w { h with keptPosts := keptPosts } where
  alone _ counts := ⟨counts.queue, counts.count⟩
  spared spared := ⟨spared.tasks, { spared.kept with kept := hold spared }⟩

theorem post (h : Host) (priority : Int) (queue : Nat) {body : Code}
    (mine : body.Spares w ∨ body = w.tick) : h.Sparing w (h.post priority queue body).2 := by
  unfold Host.post
  split
  · exact .refl h
  · rename_i executor posted
    have filled : h.Sparing w { h with executor := executor } := by
      refine ⟨fun ticks counts => ?_, fun spared => ?_⟩
      · exact ⟨Nat.lt_of_lt_of_eq counts.queue (Executor.size_queues_post? posted).symm,
          counts.count⟩
      · refine ⟨fun task member => ?_, { spared.kept with }⟩
        rcases List.mem_cons.1 ((Executor.tasks_post? posted).subset member) with rfl | old
        · exact mine
        · exact spared.tasks task old
    exact filled.trans (of_same rfl rfl rfl rfl rfl)

theorem clear (h : Host) : h.Sparing w h.clear := by
  have cleared : h.Sparing w { h with executor := h.executor.clear } := by
    refine executor (fun queue => ?_) fun task member => ?_
    · simpa [Executor.clear] using queue
    · rw [Executor.tasks_clear] at member
      cases member
  unfold Host.clear
  dsimp only
  split
  · exact cleared
  · exact cleared.trans (tell _ _ _ _ _)

theorem shareNew (h : Host) (key : String) (entry : Shared) :
    h.Sparing w (h.shareNew key entry) := of_same rfl rfl rfl rfl rfl

theorem channel (h : Host) (kind : ChannelKind) : h.Sparing w (h.channel kind).2 := by
  unfold Host.channel
  split
  · exact .refl h
  · refine (shareNew h _ _).trans (channels fun spared => ?_)
    exact forall_mem_push spared.kept.subscribers fun s none => absurd none List.not_mem_nil

theorem method (h : Host) (name : String) : h.Sparing w (h.method name).2 := by
  unfold Host.method
  split
  · exact .refl h
  · refine (shareNew h _ _).trans (methods fun spared => ?_)
    exact forall_mem_push spared.kept.providers fun p none => absurd none List.not_mem_nil

theorem sharedCell (h : Host) (kind : String) (value : Json) :
    h.Sparing w (h.sharedCell kind value).2 := by
  unfold Host.sharedCell
  split
  · exact .refl h
  · exact (shareNew h _ _).trans (cells fun _ found => getElem?_push_of_some found _)

theorem unsubscribe (h : Host) (channel number : Nat) :
    h.Sparing w (h.unsubscribe channel number).2 := by
  unfold Host.unsubscribe
  split
  · exact .refl h
  · rename_i c found
    refine channels fun spared => ?_
    have holds := spared.kept.subscribers c (Array.mem_of_getElem? found)
    exact forall_mem_setIfInBounds spared.kept.subscribers _ (holds.unsubscribe number)

theorem subscribe (h : Host) (channel : Nat) {subscriber : Json → Code}
    (joins : ∀ message, (subscriber message).Spares w) :
    h.Sparing w (h.subscribe channel subscriber).2 := by
  unfold Host.subscribe
  split
  · exact .refl h
  · rename_i c found
    refine channels fun spared => ?_
    have holds := spared.kept.subscribers c (Array.mem_of_getElem? found)
    exact forall_mem_setIfInBounds spared.kept.subscribers _ (holds.subscribe joins)

theorem provide (h : Host) (method : Nat) (priority : Int) {provider : Json → Code}
    (joins : ∀ argument, (provider argument).Spares w) :
    h.Sparing w (h.provide method priority provider).2 := by
  unfold Host.provide
  split
  · exact .refl h
  · rename_i m found
    refine trans (methods fun spared => ?_) (tell _ _ _ _ _)
    have holds := spared.kept.providers m (Array.mem_of_getElem? found)
    exact forall_mem_setIfInBounds spared.kept.providers _ (holds.register priority joins)

theorem keep (h : Host) (key : String) {post : KeptPost} (mine : post.body.Spares w) :
    h.Sparing w (h.keep key post) := by
  refine keptPosts fun spared p member => ?_
  rcases Members.mem_insert member with rfl | old
  · exact mine
  · exact spared.kept.kept p old

/-- A post that was kept is code of others, so it may be made. -/
theorem invoke (spared : h.Spared w) (key : String) : h.Sparing w (h.invoke key).2 := by
  unfold Host.invoke
  cases found : h.keptPosts.find? key with
  | none => exact .refl h
  | some p =>
    have left : h.Sparing w { h with keptPosts := h.keptPosts.filter fun k => k.1 ≠ key } :=
      keptPosts fun spared q member => spared.kept.kept q (List.mem_filter.1 member).1
    exact left.trans (post _ _ _ (.inl (spared.kept.kept (key, p) (Members.mem_of_find? found))))

theorem spawn (h : Host) (job : Job Code) : h.Sparing w (h.spawn job).2 := by
  unfold Host.spawn
  split
  · exact of_same rfl rfl rfl rfl rfl
  · exact .refl h

theorem answer (h : Host) {request : Request} (spares : request.Spares w) :
    h.Sparing w (Host.answer request h).2 := by
  cases request with
  | addQueue =>
    refine trans (executor (fun _ => ?_) fun task member => ?_) (tell _ _ _ _ _)
    · simp [Executor.addQueue]
    · rwa [Executor.tasks_addQueue] at member
  | setPolicy policy =>
    refine (tell h _ _ _ _).trans (executor (fun queue => queue) fun _ member => member)
  | clear => exact clear h
  | quit =>
    show h.Sparing w h.quit
    unfold Host.quit
    split <;> exact of_same rfl rfl rfl rfl rfl
  | channel kind => exact channel h kind
  | unsubscribe number subscription => exact unsubscribe h number subscription
  | method name => exact method h name
  | shared kind value => exact sharedCell h kind value
  | allocate value => exact cells fun _ found => getElem?_push_of_some found _
  | write cell value =>
    refine cells fun _ found => ?_
    rw [Array.getElem?_setIfInBounds_ne spares]
    exact found
  | _ => exact of_same rfl rfl rfl rfl rfl

end Host.Sparing

namespace Host.Spared

/-- What a tick posts is code of others too. -/
theorem ticked (spared : h.Spared w) (number : Nat) : (w.ticked number h).Spared w := by
  have quits : Heartbeat.quitCode.Spares w := ⟨trivial, fun _ => trivial⟩
  have delivers : ∀ beat, (w.delivery beat).Spares w := fun _ _ => trivial
  have counted : (h.write w.heartbeat.sequence (.int number)).Spared w :=
    ⟨spared.tasks, { spared.kept with }⟩
  have closed : ∀ after : Host, after.Spared w → (w.closed number after).Spared w := by
    intro after spared
    unfold Wiring.closed
    split
    · exact ((Sparing.tell _ _ _ _ _).trans (.post _ _ _ (.inl quits))).spared spared
    · exact spared
  unfold Wiring.ticked
  split
  · exact counted
  · exact closed _ (((Sparing.tell _ _ _ _ _).trans
      (.post _ _ _ (.inl (delivers _)))).spared counted)

end Host.Spared

/-- A host has come of another one as a heartbeat and others go on. -/
structure Host.Follows (w : Wiring) (start h : Host) : Prop where
  spared : h.Spared w
  beats : ∃ ticks published, Beats w start ticks published h

namespace Host

theorem Follows.sparing (follows : start.Follows w h) (sparing : h.Sparing w after) :
    start.Follows w after := by
  obtain ⟨ticks, published, beats⟩ := follows.beats
  exact ⟨sparing.spared follows.spared, ticks, published, beats.others sparing.alone⟩

/-- A step that does at once what spares the heartbeat. -/
theorem follows_step {α : Type} {f : Host → α × Host}
    (sparing : ∀ h : Host, h.Spared w → h.Sparing w (f h).2) :
    Keeps (start.Follows w) (Act.step f) :=
  .step fun h follows => follows.sparing (sparing h follows.spared)

theorem follows_tell (origin : Origin) (level : Level) (message : String)
    (fields : List (String × FieldValue)) :
    Keeps (start.Follows w) (Act.modify fun h => h.tell origin level message fields) :=
  .modify fun h follows => follows.sparing (Sparing.tell h _ _ _ _)

end Host

def Dispatch.Spares (w : Wiring) (start : Host) (dispatch : Dispatch) : Prop :=
  ∀ code : Code, code.Spares w ∨ code = w.tick → Keeps (start.Follows w) (dispatch code)

namespace Host

variable (spares : dispatch.Spares w start)
include spares

theorem runTask_follows {task : Task Code} (mine : task.body.Spares w ∨ task.body = w.tick)
    (hint : Bool) : Keeps (start.Follows w) (runTask dispatch task hint) := by
  refine (follows_tell _ _ _ _).andThen fun _ => ?_
  exact ((spares _ mine).guarded "task").andThen fun _ => (Leads.look _).andThen fun _ => .pure _

theorem execute_follows : Keeps (start.Follows w) (execute dispatch) := by
  intro h follows ended
  rcases h.execute_begin with ⟨begun, hint, rest, journal, began, runs⟩ | ⟨_, _, journal, passes⟩
  · rw [runs] at ended ⊢
    obtain ⟨perm, _, _, count⟩ := Executor.take?_perm (Executor.take?_of_begin began)
    have taken : h.Sparing w { h with executor := rest, journal := journal } :=
      (Sparing.executor (fun queue => count ▸ queue) fun task member =>
        perm.subset (List.mem_cons_of_mem _ member)).trans (.of_same rfl rfl rfl rfl rfl)
    have mine := follows.spared.tasks begun.task (perm.subset List.mem_cons_self)
    exact runTask_follows spares mine hint _ (follows.sparing taken) ended
  · rw [passes]
    exact follows.sparing (.of_same rfl rfl rfl rfl rfl)

theorem runSubscribers_follows (channel : String) {codes : List Code}
    (mine : ∀ code ∈ codes, code.Spares w) :
    Keeps (start.Follows w) (runSubscribers dispatch channel codes) := by
  induction codes with
  | nil => exact .pure _
  | cons code rest ih =>
    obtain ⟨first, later⟩ := List.forall_mem_cons.1 mine
    refine (spares code (.inl first)).andThen fun result => ?_
    cases result with
    | ok _ => exact ih later
    | error _ =>
      exact (follows_tell _ _ _ _).andThen fun _ => (ih later).andThen fun _ => .pure _

theorem deliver_follows (channel : Nat) (message : Json) :
    Keeps (start.Follows w) (deliver dispatch channel message) := by
  intro h follows ended
  unfold deliver at ended ⊢
  split at ended
  · exact follows
  · rename_i c found
    have mine : ∀ code ∈ c.deliveries message, code.Spares w := by
      intro code member
      obtain ⟨s, among, rfl⟩ := List.mem_map.1 member
      exact follows.spared.kept.subscribers c (Array.mem_of_getElem? found) s among message
    exact runSubscribers_follows spares _ mine _ (follows.sparing (Sparing.tell h _ _ _ _)) ended

theorem askProviders_follows (method : String) (last : Failure) {codes : List Code}
    (mine : ∀ code ∈ codes, code.Spares w) :
    Keeps (start.Follows w) (askProviders dispatch method last codes) := by
  induction codes generalizing last with
  | nil => exact .pure _
  | cons code rest ih =>
    obtain ⟨first, later⟩ := List.forall_mem_cons.1 mine
    refine (spares code (.inl first)).andThen fun result => ?_
    cases result with
    | ok _ => exact .pure _
    | error e => exact (follows_tell _ _ _ _).andThen fun _ => ih e later

theorem call_follows (method : Nat) (argument : Json) :
    Keeps (start.Follows w) (call dispatch method argument) := by
  intro h follows ended
  unfold call at ended ⊢
  split at ended
  · exact follows
  · rename_i m found
    refine askProviders_follows spares _ _ (fun code member => ?_) _ follows ended
    obtain ⟨p, among, rfl⟩ := List.mem_map.1 member
    exact follows.spared.kept.providers m (Array.mem_of_getElem? found) p among argument

end Host

namespace Code

theorem run_follows (spares : dispatch.Spares w start) {code : Code} (mine : code.Spares w) :
    Keeps (start.Follows w) (run dispatch code) := by
  induction code with
  | done result => exact .pure _
  | panic payload => exact .panic payload
  | hang => exact .stall
  | ask request next ih =>
    exact (Host.follows_step fun h _ => .answer h mine.1).andThen fun a => ih a (mine.2 a)
  | post priority queue body next _ ih =>
    exact (Host.follows_step fun h _ => .post h priority queue (.inl mine.2.1)).andThen fun r =>
      ih r (mine.2.2 r)
  | keep key priority queue body next _ ih =>
    exact Leads.andThen (.modify fun h follows => follows.sparing (.keep h key mine.2.1))
      fun _ => ih mine.2.2
  | invoke key next ih =>
    exact (Host.follows_step fun h spared => .invoke spared key).andThen fun r => ih r (mine r)
  | subscribe channel subscriber next _ ih =>
    exact (Host.follows_step fun h _ => .subscribe h channel mine.1).andThen fun n =>
      ih n (mine.2 n)
  | provide method priority provider next _ ih =>
    exact (Host.follows_step fun h _ => .provide h method priority mine.1).andThen fun n =>
      ih n (mine.2 n)
  | spawn yields body next _ ih =>
    exact (Host.follows_step fun h _ => .spawn h _).andThen fun r => ih r (mine.2 r)
  | tick interval watch body next _ ih =>
    exact (Host.follows_step fun h _ => .spawn h _).andThen fun r => ih r (mine.2 r)
  | listen next ih =>
    exact (Host.follows_step fun h _ => .of_same rfl rfl rfl rfl rfl).andThen fun l =>
      ih l (mine l)
  | attempt origin body next ihBody ih =>
    exact ((ihBody mine.1).guarded origin).andThen fun r => ih r (mine.2 r)
  | execute next ih => exact (Host.execute_follows spares).andThen fun r => ih r (mine r)
  | deliver channel message next ih =>
    exact (Host.deliver_follows spares channel message).andThen fun r => ih r (mine r)
  | call method argument next ih =>
    exact (Host.call_follows spares method argument).andThen fun r => ih r (mine r)

/-- To whatever depth calls of other code are nested, the host goes on as in a history. -/
theorem runWithin_follows (fresh : Counts w 0 start) (depth : Nat) :
    Dispatch.Spares w start (runWithin depth) := by
  induction depth with
  | zero => exact fun _ _ => .stall
  | succ depth ih =>
    intro code mine
    rcases mine with others | rfl
    · exact run_follows ih others
    · intro h follows ended
      obtain ⟨ticks, published, beats⟩ := follows.beats
      have more := beats.andTick fresh (runWithin depth)
      refine ⟨?_, _, _, more⟩
      show (run (runWithin depth) w.tick h).2.Spared w
      rw [Heartbeat.tick_run (beats.counted fresh).1]
      exact follows.spared.ticked _

end Code

end PluginHost
