import PluginHost.Proofs.Executor.RedirectedRun
import PluginHost.Proofs.Heartbeat.OnTheWay
import PluginHost.Proofs.Leads
import PluginHost.Proofs.Sharing.Story

set_option autoImplicit false

namespace PluginHost

open Heartbeat (Wiring OnTheWay)

namespace Heartbeat

/-- What the heartbeat and the monitor have come to. -/
structure Tally where
  /-- The monitor listens, and the beats on their way are there. -/
  live : Bool
  /-- The host knows which channel carries the beats. -/
  wired : Bool
  /-- Nobody of the monitor's priority is asked before it how many beats there were. -/
  counted : Bool
  ticks : Nat
  published : Nat
  /-- The number of the beat to be delivered next. -/
  next : Nat
  seen : Nat
  /-- The number of the task that quits at the limit, once it is posted. -/
  quitter : Option Nat
  quitting : Bool

variable (w : Wiring) (t : Tally)

/-- The monitor subscribes to a channel once, among others. -/
def Tuned (c : Channel Code Json) : Prop :=
  w.subscription < c.issued ∧ ∃ before after : List (Nat × (Json → Code)),
    c.subscribers = before ++ (w.subscription, Monitor.seeBeat w.monitor) :: after ∧
      (∀ s ∈ before, s.1 ≠ w.subscription ∧ ∀ message, (s.2 message).Foreign w) ∧
      ∀ s ∈ after, s.1 ≠ w.subscription ∧ ∀ message, (s.2 message).Foreign w

structure Channels (channels : Array (Channel Code Json)) : Prop where
  inside : w.channel < channels.size
  others : ∀ number c, number ≠ w.channel → channels[number]? = some c →
    ∀ s ∈ c.subscribers, ∀ message, (s.2 message).Foreign w
  tuned : t.live = true → ∃ c, channels[w.channel]? = some c ∧ Tuned w c

/-- Whoever is asked before the monitor how many beats there were has a higher priority. -/
def Foremost (methods : Array (Method Code Json)) : Prop :=
  ∃ m above rest, methods[w.method]? = some m ∧
    m.providers = above ++ (priority.medium, fun _ => Monitor.countSeen w.monitor) :: rest ∧
    ∀ p ∈ above, priority.medium < p.1

structure Methods (methods : Array (Method Code Json)) : Prop where
  first : t.counted = true → Foremost w methods
  others : ∀ m ∈ methods, ∀ p ∈ m.providers, ∀ argument, (p.2 argument).Foreign w

/-- What the heartbeat and the monitor have in their cells. -/
structure Ledger (cells : Array Json) : Prop where
  distinct : w.cells.Nodup
  allotted : ∀ cell ∈ w.cells, cell < cells.size
  limit : cells[w.heartbeat.limit]? = some (.int w.limit)
  ticks : cells[w.heartbeat.sequence]? = some (.int t.ticks)
  seen : cells[w.monitor.seen]? = some (.int t.seen)
  last : 0 < t.seen → ∃ beat, cells[w.monitor.last]? = some beat ∧ Monitor.seqOf beat = t.seen

/-- A job of the reactor that is one of others, or the heartbeat's timer. -/
def Jobs : Job Code → Prop
  | .code _ body => body.Foreign w
  | .ticker _ body => body.Postable w
  | .listener _ => True

def Reacts : Reactor Code → Prop
  | .absent => True
  | .events loop => (∀ job ∈ loop.ready, Jobs w job) ∧ ∀ job ∈ loop.waiting, Jobs w job
  | .planned plan _ _ => ∀ n, (plan.onPoll n).Foreign w ∧ (plan.onBlock n).Foreign w

/-- A journal without the monitor's warning. -/
def Silent (journal : Journal) : Prop := ∀ entry ∈ journal, ¬ entry.OutOfSequence

end Heartbeat

open Heartbeat (Tally)

structure Host.Fits (w : Wiring) (t : Tally) (h : Host) : Prop where
  queue : 0 < h.executor.queues.size
  way : t.live = true → OnTheWay w t.next t.published h.executor
  marked : Heartbeat.Marked t.quitter h.executor
  quitting : t.quitting = true → h.control.quitting = true
  wired : t.wired = true →
    h.shared.find? (Shared.channelKey beats.name) = some (.channel w.channel)
  channels : Heartbeat.Channels w t h.channels
  methods : Heartbeat.Methods w t h.methods
  ledger : Heartbeat.Ledger w t h.cells
  kept : ∀ p ∈ h.keptPosts, p.2.body.Postable w
  reactor : Heartbeat.Reacts w h.reactor
  silent : Heartbeat.Silent h.journal

variable {w : Wiring} {t : Tally}

theorem Origin.eq_monitor {origin : Origin} (same : origin.target = Origin.monitor.target) :
    origin = .monitor := by
  cases origin with
  | monitor => rfl
  | _ => simp [target] at same

/-- Only the monitor warns. -/
theorem Origin.not_outOfSequence {origin : Origin} (other : origin ≠ .monitor) (level : Level)
    (message : String) (fields : List (String × FieldValue)) :
    ¬ Entry.OutOfSequence (.event (origin.event level message fields)) := by
  rintro ⟨_, same⟩
  have target := congrArg Event.target (Entry.event.inj same)
  simp only [event] at target
  exact other (eq_monitor target)

theorem Origin.monitor_not_outOfSequence {message : String}
    (other : message ≠ "Heartbeat out of sequence") (level : Level)
    (fields : List (String × FieldValue)) :
    ¬ Entry.OutOfSequence (.event (Origin.monitor.event level message fields)) := by
  rintro ⟨_, same⟩
  have said := congrArg Event.message (Entry.event.inj same)
  simp only [event] at said
  exact other said

namespace Host.Fits

variable {h : Host}

theorem say (fits : h.Fits w t) {entry : Entry} (silent : ¬ entry.OutOfSequence) :
    (h.say entry).Fits w t :=
  { fits with silent := forall_mem_push fits.silent silent }

theorem tell (fits : h.Fits w t) (origin : Origin) (other : origin ≠ .monitor) (level : Level)
    (message : String) (fields : List (String × FieldValue)) :
    (h.tell origin level message fields).Fits w t :=
  fits.say (Origin.not_outOfSequence other level message fields)

theorem note (fits : h.Fits w t) (text : String) : (h.note text).Fits w t := by
  refine fits.say ?_
  rintro ⟨_, same⟩
  cases same

theorem rouse (fits : h.Fits w t) : h.rouse.Fits w t := { fits with }

theorem addQueue (fits : h.Fits w t) : h.addQueue.Fits w t := by
  have added : ({ h with executor := h.executor.addQueue } : Host).Fits w t :=
    { fits with
      queue := by
        simp only [Executor.addQueue, Array.size_push]
        omega
      way := fun live => (fits.way live).addQueue
      marked := fits.marked.addQueue }
  exact added.tell .executor (by decide) _ _ _

theorem setPolicy (fits : h.Fits w t) (policy : Policy) : (h.setPolicy policy).Fits w t :=
  { fits.tell .executor nofun _ _ _ with
    way := fun live => (fits.way live).setPolicy policy
    marked := fits.marked.setPolicy policy }

/-- Whether or not a post is refused, a tally is fitted afterwards. -/
theorem post_cases {priority : Int} {queue : Nat} {body : Code}
    (refused : h.executor.post? priority queue body = none → h.Fits w t)
    (made : ∀ executor, h.executor.post? priority queue body = some executor →
      ({ h with executor := executor } : Host).Fits w t) :
    (h.post priority queue body).2.Fits w t := by
  unfold Host.post
  cases posted : h.executor.post? priority queue body with
  | none => exact refused posted
  | some executor => exact ((made executor posted).tell .executor nofun _ _ _).rouse

theorem post (fits : h.Fits w t) (priority : Int) (queue : Nat) {body : Code}
    (postable : body.Postable w) : (h.post priority queue body).2.Fits w t := by
  refine post_cases (fun _ => fits) fun executor posted => ?_
  exact { fits with
    queue := Nat.lt_of_lt_of_eq fits.queue (Executor.size_queues_post? posted).symm
    way := fun live => (fits.way live).post posted postable
    marked := fits.marked.post posted }

theorem quit (fits : h.Fits w t) : h.quit.Fits w t := by
  have told : (if h.control.quitting then h
      else h.tell .control .debug "Quit requested" []).Fits w t := by
    split
    · exact fits
    · exact fits.tell .control nofun _ _ _
  exact { told with quitting := fun _ => rfl }

theorem shareNew (fits : h.Fits w t) {key : String} (entry : Shared)
    (other : key ≠ Shared.channelKey beats.name ∨ t.wired = false) :
    (h.shareNew key entry).Fits w t := by
  refine { fits.tell .shared nofun _ _ _ with wired := fun wired => ?_ }
  rcases other with other | unwired
  · simp only [Host.shareNew, Members.find?_insert, other, if_false]
    exact fits.wired wired
  · rw [unwired] at wired
    cases wired

theorem channel (fits : h.Fits w t) (kind : ChannelKind) : (h.channel kind).2.Fits w t := by
  have other : (∀ number, h.shared.find? (Shared.channelKey kind.name) ≠ some (.channel number)) →
      Shared.channelKey kind.name ≠ Shared.channelKey beats.name ∨ t.wired = false := by
    intro absent
    cases wired : t.wired with
    | false => exact .inr rfl
    | true =>
      refine .inl fun same => absent w.channel ?_
      rw [same]
      exact fits.wired wired
  unfold Host.channel
  split
  · exact fits
  · rename_i absent
    refine { fits.shareNew _ (other absent) with channels := ?_ }
    have old := fits.channels
    constructor
    · exact Nat.lt_of_lt_of_le old.inside (by simp)
    · intro number c apart found
      rw [Array.getElem?_push] at found
      split at found
      · cases found
        exact fun s none => absurd none List.not_mem_nil
      · exact old.others number c apart found
    · intro live
      obtain ⟨c, found, tuned⟩ := old.tuned live
      refine ⟨c, ?_, tuned⟩
      rw [Array.getElem?_push, if_neg (Nat.ne_of_lt old.inside)]
      exact found

theorem method (fits : h.Fits w t) (name : String) : (h.method name).2.Fits w t := by
  unfold Host.method
  split
  · exact fits
  · refine { fits.shareNew _ (.inl (Shared.methodKey_ne_channelKey _ _)) with methods := ?_ }
    refine ⟨fun counted => ?_, ?_⟩
    · obtain ⟨m, above, rest, found, first⟩ := fits.methods.first counted
      have inside : w.method < h.methods.size := (Array.getElem?_eq_some_iff.1 found).1
      refine ⟨m, above, rest, ?_, first⟩
      rw [Array.getElem?_push, if_neg (Nat.ne_of_lt inside)]
      exact found
    · exact forall_mem_push fits.methods.others fun p none => absurd none List.not_mem_nil

end Host.Fits

namespace Heartbeat.Ledger

variable {cells : Array Json}

theorem push (ledger : Ledger w t cells) (value : Json) : Ledger w t (cells.push value) := by
  have kept : ∀ {cell : Nat} {content : Json}, cells[cell]? = some content →
      (cells.push value)[cell]? = some content := by
    intro cell content found
    have inside : cell < cells.size := (Array.getElem?_eq_some_iff.1 found).1
    rw [Array.getElem?_push, if_neg (Nat.ne_of_lt inside)]
    exact found
  refine ⟨ledger.distinct, fun cell member => ?_, kept ledger.limit, kept ledger.ticks,
    kept ledger.seen, ?_⟩
  · rw [Array.size_push]
    exact Nat.lt_succ_of_lt (ledger.allotted cell member)
  · intro positive
    obtain ⟨beat, found, number⟩ := ledger.last positive
    exact ⟨beat, kept found, number⟩

/-- A cell that neither counts ticks nor beats may be written. -/
theorem write (ledger : Ledger w t cells) {cell : Nat} (value : Json)
    (limit : cell ≠ w.heartbeat.limit) (ticks : cell ≠ w.heartbeat.sequence)
    (seen : cell ≠ w.monitor.seen) (last : cell ≠ w.monitor.last) :
    Ledger w t (cells.setIfInBounds cell value) := by
  have kept : ∀ {other : Nat} {content : Json}, cell ≠ other → cells[other]? = some content →
      (cells.setIfInBounds cell value)[other]? = some content := by
    intro other content apart found
    rw [Array.getElem?_setIfInBounds_ne apart]
    exact found
  refine ⟨ledger.distinct, fun other member => ?_, kept limit ledger.limit, kept ticks ledger.ticks,
    kept seen ledger.seen, ?_⟩
  · rw [Array.size_setIfInBounds]
    exact ledger.allotted other member
  · intro positive
    obtain ⟨beat, found, number⟩ := ledger.last positive
    exact ⟨beat, kept last found, number⟩

end Heartbeat.Ledger

namespace Host.Fits

variable {h : Host}

theorem sharedCell (fits : h.Fits w t) {kind : String} (start : Json)
    (other : kind ≠ Shared.channelKey beats.name) : (h.sharedCell kind start).2.Fits w t := by
  unfold Host.sharedCell
  split
  · exact fits
  · exact { fits.shareNew _ (.inl other) with ledger := fits.ledger.push start }

theorem allocate (fits : h.Fits w t) (start : Json) : (h.allocate start).2.Fits w t :=
  { fits with ledger := fits.ledger.push start }

theorem write (fits : h.Fits w t) {cell : Nat} (value : Json) (other : cell ∉ w.cells) :
    (h.write cell value).Fits w t := by
  simp only [Wiring.cells, List.mem_cons, List.not_mem_nil, or_false, not_or] at other
  obtain ⟨_, limit, ticks, _, seen, last, _⟩ := other
  exact { fits with ledger := fits.ledger.write value limit ticks seen last }

end Host.Fits

namespace Heartbeat

theorem Tuned.subscribe {c : Channel Code Json} (tuned : Tuned w c) {subscriber : Json → Code}
    (foreign : ∀ message, (subscriber message).Foreign w) : Tuned w (c.subscribe subscriber) := by
  obtain ⟨issued, before, after, split, early, late⟩ := tuned
  refine ⟨Nat.lt_succ_of_lt issued, before, after ++ [(c.issued, subscriber)], ?_, early, ?_⟩
  · simp only [Channel.subscribe, split, List.append_assoc, List.cons_append]
  · exact List.forall_mem_append.2
      ⟨late, List.forall_mem_singleton.2 ⟨Nat.ne_of_gt issued, foreign⟩⟩

theorem Tuned.unsubscribe {c : Channel Code Json} (tuned : Tuned w c) {number : Nat}
    (other : number ≠ w.subscription) : Tuned w (c.unsubscribe number) := by
  obtain ⟨issued, before, after, split, early, late⟩ := tuned
  refine ⟨issued, before.filter fun s => s.1 ≠ number, after.filter fun s => s.1 ≠ number, ?_,
    fun s member => early s (List.mem_of_mem_filter member),
    fun s member => late s (List.mem_of_mem_filter member)⟩
  simp only [Channel.unsubscribe, split, List.filter_append]
  rw [List.filter_cons_of_pos (by simpa using other.symm)]

/-- A channel may be changed in a way that keeps what holds of it. -/
theorem Channels.set {channels : Array (Channel Code Json)} (holds : Channels w t channels)
    {number : Nat} {c changed : Channel Code Json} (found : channels[number]? = some c)
    (others : number ≠ w.channel → ∀ s ∈ changed.subscribers, ∀ message, (s.2 message).Foreign w)
    (tuned : number = w.channel → t.live = true → Tuned w c → Tuned w changed) :
    Channels w t (channels.setIfInBounds number changed) := by
  have inside : number < channels.size := (Array.getElem?_eq_some_iff.1 found).1
  constructor
  · rw [Array.size_setIfInBounds]
    exact holds.inside
  · intro other d apart foundToo
    by_cases same : number = other
    · subst same
      rw [Array.getElem?_setIfInBounds_self_of_lt inside, Option.some.injEq] at foundToo
      subst foundToo
      exact others apart
    · rw [Array.getElem?_setIfInBounds_ne same] at foundToo
      exact holds.others other d apart foundToo
  · intro live
    obtain ⟨d, foundToo, tunedToo⟩ := holds.tuned live
    by_cases same : number = w.channel
    · subst same
      rw [found, Option.some.injEq] at foundToo
      subst foundToo
      exact ⟨changed, Array.getElem?_setIfInBounds_self_of_lt inside, tuned rfl live tunedToo⟩
    · exact ⟨d, by rwa [Array.getElem?_setIfInBounds_ne same], tunedToo⟩

/-- A provider stays behind those of a higher priority only. -/
theorem insertProvider_split {β μ : Type} (priority : Int) (provider : μ → β)
    (one : Int × (μ → β)) {above : List (Int × (μ → β))} (ahead : ∀ p ∈ above, one.1 < p.1)
    (rest : List (Int × (μ → β))) :
    ∃ early late, Method.insertProvider priority provider (above ++ one :: rest) =
      early ++ one :: late ∧ ∀ p ∈ early, one.1 < p.1 := by
  induction above with
  | nil =>
    by_cases higher : one.1 < priority
    · refine ⟨[(priority, provider)], rest, ?_, List.forall_mem_singleton.2 higher⟩
      simp only [List.nil_append, Method.insertProvider, higher, if_true, List.cons_append]
    · refine ⟨[], Method.insertProvider priority provider rest, ?_,
        fun _ none => absurd none List.not_mem_nil⟩
      simp only [List.nil_append, Method.insertProvider, higher, if_false]
  | cons p above ih =>
    obtain ⟨first, later⟩ := List.forall_mem_cons.1 ahead
    by_cases higher : p.1 < priority
    · refine ⟨(priority, provider) :: p :: above, rest, ?_,
        List.forall_mem_cons.2 ⟨Int.lt_trans first higher, ahead⟩⟩
      simp only [List.cons_append, Method.insertProvider, higher, if_true]
    · obtain ⟨early, late, split, before⟩ := ih later
      refine ⟨p :: early, late, ?_, List.forall_mem_cons.2 ⟨first, before⟩⟩
      simp only [List.cons_append, Method.insertProvider, higher, if_false, split]

/-- Only one of a higher priority is asked before the monitor. -/
theorem Methods.register {methods : Array (Method Code Json)} (holds : Methods w t methods)
    {number : Nat} {m : Method Code Json} (found : methods[number]? = some m) (priority : Int)
    {provider : Json → Code} (foreign : ∀ argument, (provider argument).Foreign w) :
    Methods w t (methods.setIfInBounds number (m.register priority provider)) := by
  have inside : number < methods.size := (Array.getElem?_eq_some_iff.1 found).1
  constructor
  · intro counted
    obtain ⟨first, above, rest, foundToo, split, ahead⟩ := holds.first counted
    by_cases same : number = w.method
    · subst same
      rw [found, Option.some.injEq] at foundToo
      subst foundToo
      obtain ⟨early, late, splitToo, before⟩ := insertProvider_split priority provider
        (PluginHost.priority.medium, fun _ => Monitor.countSeen w.monitor) ahead rest
      refine ⟨m.register priority provider, early, late,
        Array.getElem?_setIfInBounds_self_of_lt inside, ?_, before⟩
      simp only [Method.register, split, splitToo]
    · exact ⟨first, above, rest, by rwa [Array.getElem?_setIfInBounds_ne same], split, ahead⟩
  · refine forall_mem_setIfInBounds holds.others _ fun p member => ?_
    rcases Method.mem_insertProvider member with rfl | old
    · exact foreign
    · exact holds.others m (Array.mem_of_getElem? found) p old

theorem Reacts.spawn {reactor : Reactor Code} (reacts : Reacts w reactor) {job : Job Code}
    (mine : Jobs w job) : Reacts w (reactor.spawn job) := by
  cases reactor with
  | absent | planned => exact reacts
  | events loop =>
    exact ⟨List.forall_mem_append.2 ⟨reacts.1, List.forall_mem_singleton.2 mine⟩, reacts.2⟩

theorem Reacts.stir {reactor : Reactor Code} (reacts : Reacts w reactor)
    (happened : Job Code → Bool) : Reacts w (reactor.stir happened) := by
  cases reactor with
  | absent | planned => exact reacts
  | events loop =>
    refine ⟨List.forall_mem_append.2 ⟨reacts.1, fun job member => ?_⟩, fun job member => ?_⟩
    · exact reacts.2 job (List.mem_of_mem_filter member)
    · exact reacts.2 job (List.mem_of_mem_filter member)

end Heartbeat

namespace Host.Fits

variable {h : Host}

theorem subscribe (fits : h.Fits w t) (number : Nat) {subscriber : Json → Code}
    (foreign : ∀ message, (subscriber message).Foreign w) :
    (h.subscribe number subscriber).2.Fits w t := by
  unfold Host.subscribe
  cases found : h.channels[number]? with
  | none => exact fits
  | some c =>
    refine { fits with channels := fits.channels.set found ?_ ?_ }
    · intro apart
      exact List.forall_mem_append.2
        ⟨fits.channels.others number c apart found, List.forall_mem_singleton.2 foreign⟩
    · exact fun _ _ tuned => tuned.subscribe foreign

theorem unsubscribe (fits : h.Fits w t) {number subscription : Nat}
    (other : ¬ (number = w.channel ∧ subscription = w.subscription) ∨ t.live = false) :
    (h.unsubscribe number subscription).2.Fits w t := by
  unfold Host.unsubscribe
  cases found : h.channels[number]? with
  | none => exact fits
  | some c =>
    refine { fits with channels := fits.channels.set found ?_ ?_ }
    · intro apart s member
      exact fits.channels.others number c apart found s (List.mem_of_mem_filter member)
    · intro same live tuned
      rcases other with other | unheard
      · exact tuned.unsubscribe fun mine => other ⟨same, mine⟩
      · rw [unheard] at live
        cases live

theorem provide (fits : h.Fits w t) (number : Nat) (priority : Int) {provider : Json → Code}
    (foreign : ∀ argument, (provider argument).Foreign w) :
    (h.provide number priority provider).2.Fits w t := by
  unfold Host.provide
  cases found : h.methods[number]? with
  | none => exact fits
  | some m =>
    let methods := h.methods.setIfInBounds number (m.register priority provider)
    have registered : ({ h with methods := methods } : Host).Fits w t :=
      { fits with methods := fits.methods.register found priority foreign }
    exact registered.tell .methods nofun _ _ _

theorem changeWatch (fits : h.Fits w t) (watch : Nat) (change : Watch → Watch) :
    (h.changeWatch watch change).Fits w t :=
  { fits with reactor := fits.reactor.stir _ }

theorem keep (fits : h.Fits w t) (key : String) {post : KeptPost}
    (postable : post.body.Postable w) : (h.keep key post).Fits w t := by
  refine { fits with kept := fun p member => ?_ }
  rcases Members.mem_insert member with rfl | old
  · exact postable
  · exact fits.kept p old

theorem invoke (fits : h.Fits w t) (key : String) : (h.invoke key).2.Fits w t := by
  unfold Host.invoke
  cases found : Members.find? key h.keptPosts with
  | none => exact fits
  | some p =>
    let kept := h.keptPosts.filter fun k => k.1 ≠ key
    have removed : ({ h with keptPosts := kept } : Host).Fits w t :=
      { fits with kept := fun q member => fits.kept q (List.mem_of_mem_filter member) }
    exact removed.post p.priority p.queue (fits.kept (key, p) (Members.mem_of_find? found))

theorem spawn (fits : h.Fits w t) {job : Job Code} (mine : Heartbeat.Jobs w job) :
    (h.spawn job).2.Fits w t := by
  unfold Host.spawn
  split
  · exact { fits with reactor := fits.reactor.spawn mine }
  · exact fits

theorem listen (fits : h.Fits w t) : h.listen.2.Fits w t :=
  { fits with reactor := fits.reactor.spawn trivial }

/-- Whatever others ask the host for, the tally stays. -/
theorem answer (fits : h.Fits w t) {request : Request} (foreign : request.Foreign w) :
    (Host.answer request h).2.Fits w t := by
  cases request with
  | say entry => exact fits.say foreign
  | addQueue => exact fits.addQueue
  | setPolicy policy => exact fits.setPolicy policy
  | clear | clearShared => exact foreign.elim
  | quit => exact fits.quit
  | channel kind => exact fits.channel kind
  | unsubscribe number subscription => exact fits.unsubscribe (.inl foreign)
  | method name => exact fits.method name
  | shared kind start => exact fits.sharedCell start foreign
  | allocate start => exact fits.allocate start
  | write cell value => exact fits.write value foreign
  | send watch value => exact fits.changeWatch watch _
  | closeWatch watch => exact fits.changeWatch watch _
  | _ => exact { fits with }

end Host.Fits

end PluginHost
