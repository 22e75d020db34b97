import PluginHost.Code.Run
import PluginHost.Proofs.Members

/-!
The same code with its posts going to other queues, or nowhere. Two hosts that hold the same apart
from that answer alike, as long as code does not ask them how the queues stand.
-/

set_option autoImplicit false

namespace PluginHost

namespace Code

/-- The code with every post going to the queue that a route leads to. A post to a queue that the
route does not lead on is left out, and the code goes on as if it had been made. A post that is
kept for later is never left out. -/
def reroute (route : Nat → Option Nat) : Code → Code
  | .done result => .done result
  | .panic payload => .panic payload
  | .hang => .hang
  | .ask request next => .ask request fun answer => reroute route (next answer)
  | .post priority queue body next =>
    match route queue with
    | some goal =>
      .post priority goal (reroute route body) fun result => reroute route (next result)
    | none => reroute route (next (.ok ()))
  | .keep key priority queue body next =>
    .keep key priority ((route queue).getD queue) (reroute route body) (reroute route next)
  | .invoke key next => .invoke key fun result => reroute route (next result)
  | .subscribe channel subscriber next =>
    .subscribe channel (fun message => reroute route (subscriber message)) fun number =>
      reroute route (next number)
  | .provide method priority provider next =>
    .provide method priority (fun argument => reroute route (provider argument)) fun count =>
      reroute route (next count)
  | .spawn yields body next =>
    .spawn yields (reroute route body) fun result => reroute route (next result)
  | .tick interval watch body next =>
    .tick interval watch (reroute route body) fun result => reroute route (next result)
  | .listen next => .listen fun listening => reroute route (next listening)
  | .attempt origin body next =>
    .attempt origin (reroute route body) fun result => reroute route (next result)
  | .execute next => .execute fun result => reroute route (next result)
  | .deliver channel message next =>
    .deliver channel message fun result => reroute route (next result)
  | .call method argument next => .call method argument fun result => reroute route (next result)

/-- Where every queue leads to itself nothing changes. -/
theorem reroute_some (code : Code) : code.reroute some = code := by
  induction code <;> simp only [reroute, Option.getD_some, *]

/-- Code that posts to some queues only and makes some requests only, judged by what follows them,
and so for all code that it hands on. -/
def Suits (Open : Nat → Prop) (Fair : (request : Request) → (request.Answer → Code) → Prop) :
    Code → Prop
  | .done _ | .panic _ | .hang => True
  | .ask request next => Fair request next ∧ ∀ answer, Suits Open Fair (next answer)
  | .post _ queue body next =>
    Open queue ∧ Suits Open Fair body ∧ ∀ result, Suits Open Fair (next result)
  | .keep _ _ queue body next => Open queue ∧ Suits Open Fair body ∧ Suits Open Fair next
  | .invoke _ next => ∀ result, Suits Open Fair (next result)
  | .subscribe _ subscriber next =>
    (∀ message, Suits Open Fair (subscriber message)) ∧ ∀ number, Suits Open Fair (next number)
  | .provide _ _ provider next =>
    (∀ argument, Suits Open Fair (provider argument)) ∧ ∀ count, Suits Open Fair (next count)
  | .spawn _ body next => Suits Open Fair body ∧ ∀ result, Suits Open Fair (next result)
  | .tick _ _ body next => Suits Open Fair body ∧ ∀ result, Suits Open Fair (next result)
  | .listen next => ∀ listening, Suits Open Fair (next listening)
  | .attempt _ body next => Suits Open Fair body ∧ ∀ result, Suits Open Fair (next result)
  | .execute next => ∀ result, Suits Open Fair (next result)
  | .deliver _ _ next => ∀ result, Suits Open Fair (next result)
  | .call _ _ next => ∀ result, Suits Open Fair (next result)

end Code

theorem forall_mem_setIfInBounds {α : Type} {P : α → Prop} {items : Array α}
    (all : ∀ a ∈ items, P a) (i : Nat) {a : α} (holds : P a) :
    ∀ b ∈ items.setIfInBounds i a, P b := by
  intro b member
  rcases Array.mem_or_eq_of_mem_setIfInBounds member with old | rfl
  · exact all b old
  · exact holds

theorem forall_mem_push {α : Type} {P : α → Prop} {items : Array α} (all : ∀ a ∈ items, P a)
    {a : α} (holds : P a) : ∀ b ∈ items.push a, P b := by
  intro b member
  rcases Array.mem_push.1 member with old | rfl
  · exact all b old
  · exact holds

namespace Channel

variable {f : Code → Code} {Fit : Code → Prop}

def mapCode (f : Code → Code) (c : Channel Code Json) : Channel Code Json :=
  { c with subscribers := c.subscribers.map fun s => (s.1, fun message => f (s.2 message)) }

def Holds (Fit : Code → Prop) (c : Channel Code Json) : Prop :=
  ∀ s ∈ c.subscribers, ∀ message, Fit (s.2 message)

theorem deliveries_mapCode (c : Channel Code Json) (message : Json) :
    (c.mapCode f).deliveries message = (c.deliveries message).map f := by
  simp [deliveries, mapCode]

theorem subscribe_mapCode (c : Channel Code Json) (subscriber : Json → Code) :
    (c.mapCode f).subscribe (fun message => f (subscriber message)) =
      (c.subscribe subscriber).mapCode f := by
  simp [subscribe, mapCode]

theorem unsubscribe_mapCode (c : Channel Code Json) (number : Nat) :
    (c.mapCode f).unsubscribe number = (c.unsubscribe number).mapCode f := by
  simp [unsubscribe, mapCode, List.filter_map, Function.comp_def]

theorem has_mapCode (c : Channel Code Json) (number : Nat) :
    (c.mapCode f).has number = c.has number := by
  simp [has, mapCode, Function.comp_def]

theorem count_mapCode (c : Channel Code Json) : (c.mapCode f).count = c.count := by
  simp [count, mapCode]

theorem Holds.subscribe {c : Channel Code Json} (holds : c.Holds Fit) {subscriber : Json → Code}
    (joins : ∀ message, Fit (subscriber message)) : (c.subscribe subscriber).Holds Fit := by
  intro s member
  rcases List.mem_append.1 member with old | joined
  · exact holds s old
  · rw [List.mem_singleton] at joined
    subst joined
    exact joins

theorem Holds.unsubscribe {c : Channel Code Json} (holds : c.Holds Fit) (number : Nat) :
    (c.unsubscribe number).Holds Fit :=
  fun s member => holds s (List.mem_filter.1 member).1

end Channel

namespace Method

variable {f : Code → Code} {Fit : Code → Prop}

def mapCode (f : Code → Code) (m : Method Code Json) : Method Code Json :=
  { m with providers := m.providers.map fun p => (p.1, fun argument => f (p.2 argument)) }

def Holds (Fit : Code → Prop) (m : Method Code Json) : Prop :=
  ∀ p ∈ m.providers, ∀ argument, Fit (p.2 argument)

theorem attempts_mapCode (m : Method Code Json) (argument : Json) :
    (m.mapCode f).attempts argument = (m.attempts argument).map f := by
  simp [attempts, mapCode]

theorem insertProvider_map {β γ μ : Type} (f : (μ → β) → μ → γ) (priority : Int)
    (provider : μ → β) (providers : List (Int × (μ → β))) :
    insertProvider priority (f provider) (providers.map fun p => (p.1, f p.2)) =
      (insertProvider priority provider providers).map fun p => (p.1, f p.2) := by
  induction providers with
  | nil => rfl
  | cons p rest ih =>
    simp only [insertProvider, List.map_cons, ih]
    split <;> rfl

theorem register_mapCode (m : Method Code Json) (priority : Int) (provider : Json → Code) :
    (m.mapCode f).register priority (fun argument => f (provider argument)) =
      (m.register priority provider).mapCode f := by
  simp only [register, mapCode]
  exact congrArg (Method.mk m.name)
    (insertProvider_map (fun p argument => f (p argument)) priority provider m.providers)

theorem count_mapCode (m : Method Code Json) : (m.mapCode f).count = m.count := by
  simp [count, mapCode]

theorem mem_insertProvider {β μ : Type} {priority : Int} {provider : μ → β}
    {providers : List (Int × (μ → β))} {p : Int × (μ → β)}
    (member : p ∈ insertProvider priority provider providers) :
    p = (priority, provider) ∨ p ∈ providers := by
  induction providers with
  | nil => simpa [insertProvider] using member
  | cons q rest ih =>
    unfold insertProvider at member
    split at member
    · simpa using member
    · rcases List.mem_cons.1 member with rfl | member
      · exact .inr List.mem_cons_self
      · rcases ih member with same | old
        · exact .inl same
        · exact .inr (List.mem_cons_of_mem _ old)

theorem Holds.register {m : Method Code Json} (holds : m.Holds Fit) (priority : Int)
    {provider : Json → Code} (joins : ∀ argument, Fit (provider argument)) :
    (m.register priority provider).Holds Fit := by
  intro p member
  rcases mem_insertProvider member with rfl | old
  · exact joins
  · exact holds p old

end Method

/-- A way for posts, the code that it is meant for, and how two executors compare of which one
serves such code and the other one the same code rerouted. -/
structure Rerouting where
  /-- Where posts to a queue go. -/
  route : Nat → Option Nat
  /-- The queues that code posts to. -/
  Open : Nat → Prop
  /-- The requests that code makes, with what it does on the answer. -/
  Fair : (request : Request) → (request.Answer → Code) → Prop
  /-- What shows in both journals. -/
  view : Entry → Option Entry
  Executors : Executor Code → Executor Code → Prop

namespace Rerouting

variable (r : Rerouting)

def Fit (code : Code) : Prop := code.Suits r.Open r.Fair

def code (c : Code) : Code := c.reroute r.route

def kept (p : KeptPost) : KeptPost :=
  { p with queue := (r.route p.queue).getD p.queue, body := r.code p.body }

def FitKept (p : KeptPost) : Prop := r.Open p.queue ∧ r.Fit p.body

/-- Two hosts that hold the same, the second one with all code rerouted. -/
structure Hosts (h k : Host) : Prop where
  executor : r.Executors h.executor k.executor
  control : k.control = h.control
  shared : k.shared = h.shared
  channels : k.channels = h.channels.map (Channel.mapCode r.code)
  methods : k.methods = h.methods.map (Method.mapCode r.code)
  cells : k.cells = h.cells
  watches : k.watches = h.watches
  keptPosts : k.keptPosts = h.keptPosts.map fun kept => (kept.1, r.kept kept.2)
  registers : k.registers = h.registers
  canSpawn : k.reactor.canSpawn = h.reactor.canSpawn
  clock : k.reactor.clock = h.reactor.clock
  journal : k.journal.toList.filterMap r.view = h.journal.toList.filterMap r.view
  subscribers : ∀ c ∈ h.channels, c.Holds r.Fit
  providers : ∀ m ∈ h.methods, m.Holds r.Fit
  keptFit : ∀ p ∈ h.keptPosts, r.FitKept p.2

end Rerouting

namespace Host

def reroute (route : Nat → Option Nat) (h : Host) : Host :=
  { h with
    channels := h.channels.map (Channel.mapCode (Code.reroute route))
    methods := h.methods.map (Method.mapCode (Code.reroute route))
    keptPosts := h.keptPosts.map fun kept =>
      (kept.1, ⟨kept.2.priority, (route kept.2.queue).getD kept.2.queue,
        kept.2.body.reroute route⟩) }

theorem reroute_some (h : Host) : h.reroute some = h := by
  have channel : Channel.mapCode (Code.reroute some) = id := by
    funext c
    simp [Channel.mapCode, Code.reroute_some]
  have method : Method.mapCode (Code.reroute some) = id := by
    funext m
    simp [Method.mapCode, Code.reroute_some]
  simp [reroute, channel, method, Code.reroute_some]

/-- A host that keeps code of some sort only. -/
structure Holds (Fit : Code → Prop) (h : Host) : Prop where
  subscribers : ∀ c ∈ h.channels, c.Holds Fit
  providers : ∀ m ∈ h.methods, m.Holds Fit
  kept : ∀ p ∈ h.keptPosts, Fit p.2.body

end Host

namespace Rerouting.Hosts

variable {r : Rerouting} {h k : Host}

/-- A host is related to itself rerouted if its executor is related to itself. -/
theorem start (holds : h.Holds r.Fit) (isOpen : ∀ p ∈ h.keptPosts, r.Open p.2.queue)
    (related : r.Executors h.executor h.executor) : r.Hosts h (h.reroute r.route) where
  executor := related
  control := rfl
  shared := rfl
  channels := rfl
  methods := rfl
  cells := rfl
  watches := rfl
  keptPosts := rfl
  registers := rfl
  canSpawn := rfl
  clock := rfl
  journal := rfl
  subscribers := holds.subscribers
  providers := holds.providers
  keptFit p member := ⟨isOpen p member, holds.kept p member⟩

theorem withExecutor (hosts : r.Hosts h k) {e f : Executor Code} (related : r.Executors e f) :
    r.Hosts { h with executor := e } { k with executor := f } :=
  { hosts with executor := related }

/-- Both say something, which shows alike. -/
theorem sayBoth (hosts : r.Hosts h k) {entry other : Entry} (alike : r.view other = r.view entry) :
    r.Hosts (h.say entry) (k.say other) := by
  refine { hosts with journal := ?_ }
  simp only [Host.say, Array.toList_push, List.filterMap_append, hosts.journal, List.filterMap_cons,
    List.filterMap_nil, alike]

/-- The first host says something that does not show. -/
theorem sayUnseen (hosts : r.Hosts h k) {entry : Entry} (unseen : r.view entry = none) :
    r.Hosts (h.say entry) k := by
  refine { hosts with journal := ?_ }
  simp only [Host.say, Array.toList_push, List.filterMap_append, hosts.journal, List.filterMap_cons,
    List.filterMap_nil, unseen, List.append_nil]

/-- The second host says something that does not show. -/
theorem sayUnseenSecond (hosts : r.Hosts h k) {entry : Entry} (unseen : r.view entry = none) :
    r.Hosts h (k.say entry) := by
  refine { hosts with journal := ?_ }
  simp only [Host.say, Array.toList_push, List.filterMap_append, hosts.journal, List.filterMap_cons,
    List.filterMap_nil, unseen, List.append_nil]

theorem say (hosts : r.Hosts h k) (entry : Entry) : r.Hosts (h.say entry) (k.say entry) :=
  hosts.sayBoth rfl

theorem tell (hosts : r.Hosts h k) (origin : Origin) (level : Level) (message : String)
    (fields : List (String × FieldValue)) :
    r.Hosts (h.tell origin level message fields) (k.tell origin level message fields) :=
  hosts.say _

theorem rouse (hosts : r.Hosts h k) : r.Hosts h.rouse k.rouse := { hosts with }

theorem rouseFirst (hosts : r.Hosts h k) : r.Hosts h.rouse k := { hosts with }

theorem quit (hosts : r.Hosts h k) : r.Hosts h.quit k.quit := by
  have told := hosts.tell .control .debug "Quit requested" []
  unfold Host.quit
  rw [hosts.control]
  dsimp only
  split
  · exact { hosts with control := congrArg Control.quit rfl }
  · exact { told with control := congrArg Control.quit rfl }

theorem shareNew (hosts : r.Hosts h k) (key : String) (entry : Shared) :
    r.Hosts (h.shareNew key entry) (k.shareNew key entry) := by
  have told := hosts.tell .shared .trace "Creating shared singleton" [("kind", .text key)]
  exact { told with shared := by simp only [Host.shareNew, hosts.shared] }

theorem channel (hosts : r.Hosts h k) (kind : ChannelKind) :
    (k.channel kind).1 = (h.channel kind).1 ∧
      r.Hosts (h.channel kind).2 (k.channel kind).2 := by
  have size : k.channels.size = h.channels.size := by rw [hosts.channels, Array.size_map]
  unfold Host.channel
  rw [hosts.shared]
  split
  · exact ⟨rfl, hosts⟩
  · refine ⟨size, ?_⟩
    dsimp only
    rw [size]
    refine { hosts.shareNew _ _ with channels := ?_, subscribers := ?_ }
    · simp only [hosts.channels, Array.map_push]
      rfl
    · apply forall_mem_push hosts.subscribers
      exact fun s none => absurd none List.not_mem_nil

theorem method (hosts : r.Hosts h k) (name : String) :
    (k.method name).1 = (h.method name).1 ∧ r.Hosts (h.method name).2 (k.method name).2 := by
  have size : k.methods.size = h.methods.size := by rw [hosts.methods, Array.size_map]
  unfold Host.method
  rw [hosts.shared]
  split
  · exact ⟨rfl, hosts⟩
  · refine ⟨size, ?_⟩
    dsimp only
    rw [size]
    refine { hosts.shareNew _ _ with methods := ?_, providers := ?_ }
    · simp only [hosts.methods, Array.map_push]
      rfl
    · apply forall_mem_push hosts.providers
      exact fun p none => absurd none List.not_mem_nil

theorem sharedCell (hosts : r.Hosts h k) (kind : String) (start : Json) :
    (k.sharedCell kind start).1 = (h.sharedCell kind start).1 ∧
      r.Hosts (h.sharedCell kind start).2 (k.sharedCell kind start).2 := by
  unfold Host.sharedCell
  rw [hosts.shared]
  split
  · exact ⟨rfl, hosts⟩
  · dsimp only
    rw [hosts.cells]
    exact ⟨rfl, { hosts.shareNew _ _ with cells := rfl }⟩

theorem unsubscribe (hosts : r.Hosts h k) (channel subscription : Nat) :
    (k.unsubscribe channel subscription).1 = (h.unsubscribe channel subscription).1 ∧
      r.Hosts (h.unsubscribe channel subscription).2 (k.unsubscribe channel subscription).2 := by
  unfold Host.unsubscribe
  rw [hosts.channels, Array.getElem?_map]
  cases found : h.channels[channel]? with
  | none => exact ⟨rfl, hosts⟩
  | some c =>
    refine ⟨c.has_mapCode subscription, { hosts with channels := ?_, subscribers := ?_ }⟩
    · simp only [Option.map_some, c.unsubscribe_mapCode, Array.map_setIfInBounds]
    · have holds := hosts.subscribers c (Array.mem_of_getElem? found)
      exact forall_mem_setIfInBounds hosts.subscribers _ (holds.unsubscribe subscription)

theorem changeWatch (hosts : r.Hosts h k) (watch : Nat) (change : Watch → Watch) :
    r.Hosts (h.changeWatch watch change) (k.changeWatch watch change) := by
  have stirred : ∀ reactor : Reactor Code,
      (reactor.stir (Job.watches watch)).canSpawn = reactor.canSpawn ∧
        (reactor.stir (Job.watches watch)).clock = reactor.clock := by
    intro reactor
    cases reactor <;> exact ⟨rfl, rfl⟩
  refine { hosts with watches := ?_, canSpawn := ?_, clock := ?_ }
  · simp only [Host.changeWatch, hosts.watches]
  · simp only [Host.changeWatch, (stirred _).1, hosts.canSpawn]
  · simp only [Host.changeWatch, (stirred _).2, hosts.clock]

theorem keep (hosts : r.Hosts h k) (key : String) (priority : Int) {queue : Nat} {body : Code}
    (isOpen : r.Open queue) (fit : r.Fit body) :
    r.Hosts (h.keep key ⟨priority, queue, body⟩)
      (k.keep key ⟨priority, (r.route queue).getD queue, r.code body⟩) := by
  refine { hosts with keptPosts := ?_, keptFit := ?_ }
  · simp only [Host.keep, hosts.keptPosts]
    exact Members.insert_map r.kept key ⟨priority, queue, body⟩ h.keptPosts
  · intro p member
    rcases Members.mem_insert member with rfl | old
    · exact ⟨isOpen, fit⟩
    · exact hosts.keptFit p old

theorem subscribe (hosts : r.Hosts h k) (channel : Nat) {subscriber : Json → Code}
    (joins : ∀ message, r.Fit (subscriber message)) :
    (k.subscribe channel fun message => r.code (subscriber message)).1 =
        (h.subscribe channel subscriber).1 ∧
      r.Hosts (h.subscribe channel subscriber).2
        (k.subscribe channel fun message => r.code (subscriber message)).2 := by
  unfold Host.subscribe
  rw [hosts.channels, Array.getElem?_map]
  cases found : h.channels[channel]? with
  | none => exact ⟨rfl, hosts⟩
  | some c =>
    refine ⟨rfl, { hosts with channels := ?_, subscribers := ?_ }⟩
    · simp only [Option.map_some, c.subscribe_mapCode, Array.map_setIfInBounds]
    · have holds := hosts.subscribers c (Array.mem_of_getElem? found)
      exact forall_mem_setIfInBounds hosts.subscribers _ (holds.subscribe joins)

theorem provide (hosts : r.Hosts h k) (method : Nat) (priority : Int) {provider : Json → Code}
    (joins : ∀ argument, r.Fit (provider argument)) :
    (k.provide method priority fun argument => r.code (provider argument)).1 =
        (h.provide method priority provider).1 ∧
      r.Hosts (h.provide method priority provider).2
        (k.provide method priority fun argument => r.code (provider argument)).2 := by
  unfold Host.provide
  rw [hosts.methods, Array.getElem?_map]
  cases found : h.methods[method]? with
  | none => exact ⟨rfl, hosts⟩
  | some m =>
    simp only [Option.map_some, m.register_mapCode, Method.count_mapCode]
    refine ⟨trivial, Rerouting.Hosts.tell (h := { h with methods := _ }) ?_ _ _ _ _⟩
    refine { hosts with methods := ?_, providers := ?_ }
    · simp only [Array.map_setIfInBounds]
    · have holds := hosts.providers m (Array.mem_of_getElem? found)
      exact forall_mem_setIfInBounds hosts.providers _ (holds.register priority joins)

/-- A job is added or not; in any case the reactor can do what it could and shows the same time. -/
theorem withJobs (hosts : r.Hosts h k) (job other : Job Code) :
    r.Hosts { h with reactor := h.reactor.spawn job }
      { k with reactor := k.reactor.spawn other } := by
  have spawned : ∀ (reactor : Reactor Code) (job : Job Code),
      (reactor.spawn job).canSpawn = reactor.canSpawn ∧
        (reactor.spawn job).clock = reactor.clock := by
    intro reactor job
    cases reactor <;> exact ⟨rfl, rfl⟩
  refine { hosts with canSpawn := ?_, clock := ?_ }
  · rw [(spawned _ _).1, (spawned _ _).1, hosts.canSpawn]
  · rw [(spawned _ _).2, (spawned _ _).2, hosts.clock]

theorem spawn (hosts : r.Hosts h k) (job other : Job Code) :
    (k.spawn other).1 = (h.spawn job).1 ∧ r.Hosts (h.spawn job).2 (k.spawn other).2 := by
  unfold Host.spawn
  rw [hosts.canSpawn]
  split
  · exact ⟨rfl, hosts.withJobs job other⟩
  · exact ⟨rfl, hosts⟩

end Rerouting.Hosts

end PluginHost
