import PluginHost.Proofs.Executor.Redirection
import PluginHost.Proofs.Executor.ReroutedRun

set_option autoImplicit false

namespace PluginHost

variable {n : Nat}

namespace Channel

def redirect (c : Channel Code Json) : Channel Code Json :=
  { c with subscribers := c.subscribers.map fun s => (s.1, fun message => (s.2 message).redirect) }

def Blind (n : Nat) (c : Channel Code Json) : Prop :=
  ∀ s ∈ c.subscribers, ∀ message, (s.2 message).Blind n

end Channel

namespace Method

def redirect (m : Method Code Json) : Method Code Json :=
  { m with providers := m.providers.map fun p => (p.1, fun argument => (p.2 argument).redirect) }

def Blind (n : Nat) (m : Method Code Json) : Prop :=
  ∀ p ∈ m.providers, ∀ argument, (p.2 argument).Blind n

end Method

def KeptPost.redirect (p : KeptPost) : KeptPost := { p with queue := 0, body := p.body.redirect }

/-- An entry of the journal without the queue that a task was posted to. -/
def Entry.unplaced : Entry → Entry
  | .note text => .note text
  | .event e =>
    .event (if e.message = "Task posted" then
      { e with fields := e.fields.filter fun field => field.1 ≠ "queue" } else e)

/-- Two hosts that hold the same, the second one with all code redirected. The journals differ in
the queues that tasks were posted to. -/
structure Host.Redirects (n : Nat) (h k : Host) : Prop where
  executor : h.executor.Redirects n k.executor
  control : k.control = h.control
  shared : k.shared = h.shared
  channels : k.channels = h.channels.map Channel.redirect
  methods : k.methods = h.methods.map Method.redirect
  cells : k.cells = h.cells
  watches : k.watches = h.watches
  keptPosts : k.keptPosts = h.keptPosts.map fun kept => (kept.1, kept.2.redirect)
  registers : k.registers = h.registers
  canSpawn : k.reactor.canSpawn = h.reactor.canSpawn
  clock : k.reactor.clock = h.reactor.clock
  journal : k.journal.map Entry.unplaced = h.journal.map Entry.unplaced
  subscribers : ∀ c ∈ h.channels, c.Blind n
  providers : ∀ m ∈ h.methods, m.Blind n
  kept : ∀ p ∈ h.keptPosts, p.2.queue < n ∧ p.2.body.Blind n

namespace Rerouting

def front (n : Nat) : Rerouting where
  route := fun _ => some 0
  Open := fun queue => queue < n
  Fair := Code.Overlooks
  view := fun entry => some entry.unplaced
  Executors := Executor.Redirects n

theorem front_code : (front n).code = Code.redirect := by
  funext c
  show c.reroute (fun _ => some 0) = c.redirect
  induction c <;> simp only [Code.reroute, Code.redirect, Option.getD_some, *]

theorem front_fit (c : Code) : (front n).Fit c ↔ c.Blind n := by
  show c.Suits (fun queue => queue < n) Code.Overlooks ↔ c.Blind n
  induction c <;> simp only [Code.Suits, Code.Blind, *]

theorem front_hosts : (front n).Hosts = Host.Redirects n := by
  have fit : (front n).Fit = Code.Blind n := funext fun c => propext (front_fit c)
  have channel : Channel.mapCode (front n).code = Channel.redirect := by rw [front_code]; rfl
  have method : Method.mapCode (front n).code = Method.redirect := by rw [front_code]; rfl
  have kept : (front n).kept = KeptPost.redirect := by
    funext p
    rw [Rerouting.kept, front_code]
    rfl
  have shown : ∀ journal : Journal, journal.toList.filterMap (front n).view =
      (journal.map Entry.unplaced).toList := by
    intro journal
    rw [Array.toList_map]
    exact congrFun List.filterMap_eq_map _
  funext h k
  apply propext
  constructor
  · intro hosts
    have channels := hosts.channels
    have methods := hosts.methods
    have keptPosts := hosts.keptPosts
    have journal := hosts.journal
    have subscribers := hosts.subscribers
    have providers := hosts.providers
    have keptFit := hosts.keptFit
    rw [channel] at channels
    rw [method] at methods
    rw [kept] at keptPosts
    rw [shown, shown] at journal
    rw [fit] at subscribers providers
    simp only [FitKept, fit] at keptFit
    exact ⟨hosts.executor, hosts.control, hosts.shared, channels, methods, hosts.cells,
      hosts.watches, keptPosts, hosts.registers, hosts.canSpawn, hosts.clock,
      Array.toList_inj.1 journal, subscribers, providers, keptFit⟩
  · intro r
    refine ⟨r.executor, r.control, r.shared, ?_, ?_, r.cells, r.watches, ?_, r.registers,
      r.canSpawn, r.clock, ?_, ?_, ?_, ?_⟩
    · rw [channel]
      exact r.channels
    · rw [method]
      exact r.methods
    · rw [kept]
      exact r.keptPosts
    · rw [shown, shown, r.journal]
    · rw [fit]
      exact r.subscribers
    · rw [fit]
      exact r.providers
    · simp only [FitKept, fit]
      exact r.kept

variable {h k : Host}

theorem front_post (hosts : (front n).Hosts h k) (priority : Int) {queue : Nat} {body : Code}
    (inside : queue < n) (blind : body.Blind n) :
    (k.post priority 0 body.redirect).1 = (h.post priority queue body).1 ∧
      (front n).Hosts (h.post priority queue body).2 (k.post priority 0 body.redirect).2 := by
  obtain ⟨e, f, postedH, postedK, related⟩ := hosts.executor.post? priority inside blind
  simp only [Host.post, postedH, postedK]
  refine ⟨trivial, Hosts.rouse (Hosts.sayBoth (hosts.withExecutor related) ?_)⟩
  rw [hosts.executor.posted]
  rfl

theorem front_clear (hosts : (front n).Hosts h k) : (front n).Hosts h.clear k.clear := by
  have cleared := hosts.withExecutor (Executor.Redirects.clear hosts.executor)
  unfold Host.clear
  rw [Executor.Redirects.pending hosts.executor]
  dsimp only
  split
  · exact cleared
  · exact cleared.tell _ _ _ _

theorem front_addQueue (hosts : (front n).Hosts h k) : (front n).Hosts h.addQueue k.addQueue := by
  unfold Host.addQueue
  rw [hosts.executor.count]
  exact (hosts.withExecutor (Executor.Redirects.addQueue hosts.executor)).tell _ _ _ _

theorem front_selects (hosts : (front n).Hosts h k) : (front n).Selects h k := by
  rcases Executor.Redirects.select hosts.executor with
    idle | ⟨s, s', t, e, f, selected, selected', followed, followed', blind, related⟩
  · exact .inl idle
  · refine .inr ⟨s, s', t, t.redirect, e, f, selected, selected', followed, followed', ?_, related⟩
    exact ⟨rfl, by rw [front_code]; rfl, (front_fit _).2 blind, rfl⟩

/-- Executors that hold the same tasks, all redirected, stay comparable. -/
theorem front_lawful (n : Nat) : (front n).Lawful where
  post hosts priority _ body inside fit := by
    rw [front_code]
    exact front_post hosts priority inside ((front_fit body).1 fit)
  leaves _ _ _ _ _ none := absurd none (by simp [front])
  addQueue hosts := ⟨hosts.executor.count, front_addQueue hosts⟩
  setPolicy hosts policy _ fair := by
    obtain rfl : policy = .highestPriority := fair
    exact (hosts.tell _ _ _ _).withExecutor (Executor.Redirects.setPolicy hosts.executor)
  clear hosts _ _ := front_clear hosts
  queues hosts _ fair := by
    refine fair _ _ ?_ (Executor.Redirects.pending hosts.executor)
    simpa [Executor.views] using hosts.executor.count
  selects hosts := front_selects hosts
  more hosts := by
    have pending := Executor.Redirects.pending hosts.executor
    unfold Executor.pending at pending
    simp only [Executor.more, hosts.executor.policy, hosts.executor.samePolicy, Policy.more,
      pending]

end Rerouting

namespace Host.Redirects

variable {h k : Host}

theorem post (r : Redirects n h k) (priority : Int) {queue : Nat} {body : Code}
    (inside : queue < n) (blind : body.Blind n) :
    (k.post priority 0 body.redirect).1 = (h.post priority queue body).1 ∧
      Redirects n (h.post priority queue body).2 (k.post priority 0 body.redirect).2 := by
  rw [← Rerouting.front_hosts] at r ⊢
  exact Rerouting.front_post r priority inside blind

theorem clear (r : Redirects n h k) : Redirects n h.clear k.clear := by
  rw [← Rerouting.front_hosts] at r ⊢
  exact Rerouting.front_clear r

end Host.Redirects

open Act (Alike)

variable {dispatch : Dispatch}

def Dispatch.Redirects (n : Nat) (dispatch : Dispatch) : Prop :=
  ∀ code : Code, code.Blind n →
    Alike (Host.Redirects n) (dispatch code) (dispatch code.redirect)

theorem Dispatch.redirects_iff :
    dispatch.Redirects n ↔ (Rerouting.front n).Dispatches dispatch := by
  simp only [Dispatch.Redirects, Rerouting.Dispatches, Rerouting.front_hosts, Rerouting.front_code,
    Rerouting.front_fit]

/-- Both hosts take the same task, or both have none. -/
theorem Host.execute_redirect (runs : dispatch.Redirects n) :
    Alike (Redirects n) (execute dispatch) (execute dispatch) := by
  rw [← Rerouting.front_hosts]
  exact (Rerouting.front_lawful n).execute (Dispatch.redirects_iff.1 runs)

/-- To whatever depth calls of other code are nested, code runs alike redirected. -/
theorem Code.runWithin_redirect (n depth : Nat) : Dispatch.Redirects n (runWithin depth) :=
  Dispatch.redirects_iff.2 ((Rerouting.front_lawful n).runWithin depth)

end PluginHost
