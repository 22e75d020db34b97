import PluginHost.Proofs.Alike
import PluginHost.Proofs.Executor.Rerouting

set_option autoImplicit false

namespace PluginHost

open Act (Alike)

namespace Rerouting

variable (r : Rerouting)

def running (t : Task Code) : Entry :=
  .event (Origin.executor.event .trace "Running task"
    [("priority", .number t.priority), ("sequence", .number t.sequence)])

/-- A task and the one that takes its place in the second executor. -/
structure Tasks (t u : Task Code) : Prop where
  priority : u.priority = t.priority
  body : u.body = r.code t.body
  fit : r.Fit t.body
  view : r.view (running u) = r.view (running t)

/-- Either both hosts take no task, or tasks that correspond. -/
def Selects (h k : Host) : Prop :=
  (h.executor.policy.select h.executor.views = ⟨[], .ok .none⟩ ∧
      k.executor.policy.select k.executor.views = ⟨[], .ok .none⟩) ∨
    ∃ selection selection' t u e f,
      h.executor.policy.select h.executor.views = ⟨[], .ok selection⟩ ∧
      k.executor.policy.select k.executor.views = ⟨[], .ok selection'⟩ ∧
      h.executor.follow selection = .task t e true ∧
      k.executor.follow selection' = .task u f true ∧ r.Tasks t u ∧ r.Executors e f

/-- The executors stay comparable, whatever is asked of them. -/
structure Lawful : Prop where
  post : ∀ {h k : Host}, r.Hosts h k → ∀ (priority : Int) {queue : Nat} {body : Code},
    r.Open queue → r.Fit body →
      (k.post priority ((r.route queue).getD queue) (r.code body)).1 =
          (h.post priority queue body).1 ∧
        r.Hosts (h.post priority queue body).2
          (k.post priority ((r.route queue).getD queue) (r.code body)).2
  /-- A post that is left out succeeds, and makes no difference. -/
  leaves : ∀ {h k : Host}, r.Hosts h k → ∀ (priority : Int) {queue : Nat} {body : Code},
    r.Open queue → r.route queue = none → r.Fit body →
      (h.post priority queue body).1 = .ok () ∧ r.Hosts (h.post priority queue body).2 k
  addQueue : ∀ {h k : Host}, r.Hosts h k →
    k.executor.queues.size = h.executor.queues.size ∧ r.Hosts h.addQueue k.addQueue
  setPolicy : ∀ {h k : Host}, r.Hosts h k → ∀ {policy : Policy} {next : Unit → Code},
    r.Fair (.setPolicy policy) next → r.Hosts (h.setPolicy policy) (k.setPolicy policy)
  clear : ∀ {h k : Host}, r.Hosts h k → ∀ {next : Unit → Code},
    r.Fair .clear next → r.Hosts h.clear k.clear
  queues : ∀ {h k : Host}, r.Hosts h k → ∀ {next : List QueueView → Code},
    r.Fair .queues next → next k.executor.views = next h.executor.views
  selects : ∀ {h k : Host}, r.Hosts h k → r.Selects h k
  more : ∀ {h k : Host}, r.Hosts h k → k.executor.more true = h.executor.more true

def Dispatches (dispatch : Dispatch) : Prop :=
  ∀ code : Code, r.Fit code → Alike r.Hosts (dispatch code) (dispatch (r.code code))

end Rerouting

namespace Rerouting.Lawful

variable {r : Rerouting} {h k : Host}

/-- What follows a request is the same on both hosts. -/
theorem answer (lawful : r.Lawful) (hosts : r.Hosts h k) (request : Request)
    (next : request.Answer → Code) (fair : r.Fair request next) :
    next (Host.answer request k).1 = next (Host.answer request h).1 ∧
      r.Hosts (Host.answer request h).2 (Host.answer request k).2 := by
  cases request with
  | say entry => exact ⟨rfl, hosts.say entry⟩
  | addQueue =>
    obtain ⟨count, after⟩ := lawful.addQueue hosts
    exact ⟨congrArg next count, after⟩
  | setPolicy policy => exact ⟨rfl, lawful.setPolicy hosts fair⟩
  | clear => exact ⟨rfl, lawful.clear hosts fair⟩
  | queues => exact ⟨lawful.queues hosts fair, hosts⟩
  | quit => exact ⟨rfl, hosts.quit⟩
  | quitting => exact ⟨congrArg (fun c => next (Control.quitting c)) hosts.control, hosts⟩
  | requestReload =>
    exact ⟨rfl, { hosts with control := congrArg Control.requestReload hosts.control }⟩
  | takeReload =>
    exact ⟨congrArg (fun c => next (Control.reload c)) hosts.control,
      { hosts with control := congrArg (fun c => (Control.takeReload c).2) hosts.control }⟩
  | wake => exact ⟨rfl, hosts.rouse⟩
  | canSpawn => exact ⟨congrArg next hosts.canSpawn, hosts⟩
  | clock => exact ⟨congrArg next hosts.clock, hosts⟩
  | channel kind => exact ⟨congrArg next (hosts.channel kind).1, (hosts.channel kind).2⟩
  | unsubscribe channel subscription =>
    exact ⟨congrArg next (hosts.unsubscribe channel subscription).1, (hosts.unsubscribe _ _).2⟩
  | subscribers channel =>
    refine ⟨congrArg next ?_, hosts⟩
    simp only [Host.answer, hosts.channels, Array.getElem?_map, Option.map_map, Function.comp_def,
      Channel.count_mapCode]
    rfl
  | method name => exact ⟨congrArg next (hosts.method name).1, (hosts.method name).2⟩
  | providers method =>
    refine ⟨congrArg next ?_, hosts⟩
    simp only [Host.answer, hosts.methods, Array.getElem?_map, Option.map_map, Function.comp_def,
      Method.count_mapCode]
    rfl
  | shared kind start =>
    exact ⟨congrArg next (hosts.sharedCell kind start).1, (hosts.sharedCell _ _).2⟩
  | sharedCount => exact ⟨congrArg (fun s => next (List.length s)) hosts.shared, hosts⟩
  | clearShared => exact ⟨rfl, { hosts with shared := rfl }⟩
  | allocate start =>
    exact ⟨congrArg (fun c => next (Array.size c)) hosts.cells,
      { hosts with cells := congrArg (fun c => Array.push c start) hosts.cells }⟩
  | read cell =>
    exact ⟨congrArg (fun cells => next (cells[cell]?.getD .null)) hosts.cells, hosts⟩
  | write cell value =>
    exact ⟨rfl,
      { hosts with cells := congrArg (fun c => Array.setIfInBounds c cell value) hosts.cells }⟩
  | openWatch =>
    exact ⟨congrArg (fun w => next (Array.size w)) hosts.watches,
      { hosts with watches := congrArg (fun w => Array.push w ({} : Watch)) hosts.watches }⟩
  | send watch value => exact ⟨rfl, hosts.changeWatch watch _⟩
  | closeWatch watch => exact ⟨rfl, hosts.changeWatch watch _⟩
  | remembered key =>
    exact ⟨congrArg (fun m => next (Members.find? key m)) hosts.registers, hosts⟩
  | remember key value =>
    exact ⟨rfl,
      { hosts with registers := congrArg (Members.insert key value) hosts.registers }⟩

theorem invoke (lawful : r.Lawful) (hosts : r.Hosts h k) (key : String) :
    (k.invoke key).1 = (h.invoke key).1 ∧ r.Hosts (h.invoke key).2 (k.invoke key).2 := by
  unfold Host.invoke
  rw [hosts.keptPosts, Members.find?_map r.kept]
  cases found : Members.find? key h.keptPosts with
  | none => exact ⟨rfl, hosts⟩
  | some p =>
    have removed : r.Hosts { h with keptPosts := h.keptPosts.filter fun m => m.1 ≠ key }
        { k with keptPosts := k.keptPosts.filter fun m => m.1 ≠ key } := by
      refine { hosts with keptPosts := ?_, keptFit := ?_ }
      · simp only [hosts.keptPosts, List.filter_map, Function.comp_def]
      · exact fun m member => hosts.keptFit m (List.mem_filter.1 member).1
    rw [hosts.keptPosts] at removed
    obtain ⟨isOpen, fit⟩ := hosts.keptFit (key, p) (Members.mem_of_find? found)
    obtain ⟨same, after⟩ := lawful.post removed p.priority isOpen fit
    exact ⟨congrArg some same, after⟩

variable {dispatch : Dispatch}


theorem runTask (lawful : r.Lawful) (runs : r.Dispatches dispatch) {t u : Task Code}
    (tasks : r.Tasks t u) :
    Alike r.Hosts (Host.runTask dispatch t true) (Host.runTask dispatch u true) := by
  refine Alike.bind (Alike.modify fun _ _ hosts => hosts.sayBoth tasks.view) fun _ => ?_
  rw [tasks.body]
  refine Alike.bind ((runs t.body tasks.fit).guarded "task") fun result => ?_
  exact Alike.bind (Alike.look fun _ _ hosts => lawful.more hosts) fun _ => Alike.pure _

/-- Both hosts take tasks that correspond, or none. -/
theorem execute (lawful : r.Lawful) (runs : r.Dispatches dispatch) :
    Alike r.Hosts (Host.execute dispatch) (Host.execute dispatch) := by
  intro h k hosts
  rcases lawful.selects hosts with
    ⟨idle, idle'⟩ | ⟨_, _, t, u, _, _, selected, selected', followed, followed', tasks, related⟩
  · simp only [Host.execute, idle, idle', Executor.follow, Selection.none, List.foldl_nil]
    exact ⟨trivial, hosts⟩
  · simp only [Host.execute, selected, selected', followed, followed', List.foldl_nil]
    exact lawful.runTask runs tasks _ _ (hosts.withExecutor related)

theorem runSubscribers (runs : r.Dispatches dispatch) (channel : String) (codes : List Code)
    (fit : ∀ code ∈ codes, r.Fit code) :
    Alike r.Hosts (Host.runSubscribers dispatch channel codes)
      (Host.runSubscribers dispatch channel (codes.map r.code)) := by
  induction codes with
  | nil => exact Alike.pure _
  | cons code rest ih =>
    have later := ih fun c member => fit c (List.mem_cons_of_mem _ member)
    refine Alike.bind (runs code (fit code List.mem_cons_self)) fun result => ?_
    cases result with
    | ok value => exact later
    | error e =>
      refine Alike.bind (Alike.modify fun _ _ hosts => hosts.tell _ _ _ _) fun _ => ?_
      exact Alike.bind later fun _ => Alike.pure _

theorem deliver (runs : r.Dispatches dispatch) (channel : Nat) (message : Json) :
    Alike r.Hosts (Host.deliver dispatch channel message)
      (Host.deliver dispatch channel message) := by
  intro h k hosts
  unfold Host.deliver
  rw [hosts.channels, Array.getElem?_map]
  cases found : h.channels[channel]? with
  | none => exact ⟨rfl, hosts⟩
  | some c =>
    simp only [Option.map_some, c.deliveries_mapCode, c.count_mapCode]
    refine runSubscribers runs _ _ ?_ _ _ (hosts.tell _ _ _ _)
    intro code member
    obtain ⟨s, joined, rfl⟩ := List.mem_map.1 member
    exact hosts.subscribers c (Array.mem_of_getElem? found) s joined message

theorem askProviders (runs : r.Dispatches dispatch) (method : String) (last : Failure)
    (codes : List Code) (fit : ∀ code ∈ codes, r.Fit code) :
    Alike r.Hosts (Host.askProviders dispatch method last codes)
      (Host.askProviders dispatch method last (codes.map r.code)) := by
  induction codes generalizing last with
  | nil => exact Alike.pure _
  | cons code rest ih =>
    refine Alike.bind (runs code (fit code List.mem_cons_self)) fun result => ?_
    cases result with
    | ok value => exact Alike.pure _
    | error e =>
      refine Alike.bind (Alike.modify fun _ _ hosts => hosts.tell _ _ _ _) fun _ => ?_
      exact ih e fun c member => fit c (List.mem_cons_of_mem _ member)

theorem call (runs : r.Dispatches dispatch) (method : Nat) (argument : Json) :
    Alike r.Hosts (Host.call dispatch method argument) (Host.call dispatch method argument) := by
  intro h k hosts
  unfold Host.call
  rw [hosts.methods, Array.getElem?_map]
  cases found : h.methods[method]? with
  | none => exact ⟨rfl, hosts⟩
  | some m =>
    simp only [Option.map_some, m.attempts_mapCode]
    refine askProviders runs _ _ _ ?_ _ _ hosts
    intro code member
    obtain ⟨p, joined, rfl⟩ := List.mem_map.1 member
    exact hosts.providers m (Array.mem_of_getElem? found) p joined argument

/-- A post is made on both hosts, or left out on the second one. -/
theorem runPost (lawful : r.Lawful) (priority : Int) {queue : Nat} {body : Code}
    {next : Except Failure Unit → Code} (isOpen : r.Open queue) (fit : r.Fit body)
    (later : ∀ result, Alike r.Hosts (Code.run dispatch (next result))
      (Code.run dispatch (r.code (next result)))) :
    Alike r.Hosts (Code.run dispatch (.post priority queue body next))
      (Code.run dispatch (r.code (.post priority queue body next))) := by
  cases leads : r.route queue with
  | some goal =>
    have posted : ∀ h k, r.Hosts h k →
        (k.post priority goal (r.code body)).1 = (h.post priority queue body).1 ∧
          r.Hosts (h.post priority queue body).2 (k.post priority goal (r.code body)).2 := by
      intro h k hosts
      have both := lawful.post hosts priority isOpen fit
      rwa [leads, Option.getD_some] at both
    simp only [code, Code.reroute, leads]
    exact Alike.bind (Alike.step posted) later
  | none =>
    simp only [code, Code.reroute, leads]
    intro h k hosts
    obtain ⟨made, after⟩ := lawful.leaves hosts priority isOpen leads fit
    have rest := later (.ok ()) _ k after
    simp only [Code.run, Act.bind_apply, Act.step_apply, made]
    exact rest

theorem run (lawful : r.Lawful) (runs : r.Dispatches dispatch) (code : Code) (fit : r.Fit code) :
    Alike r.Hosts (Code.run dispatch code) (Code.run dispatch (r.code code)) := by
  induction code with
  | done result => exact Alike.pure _
  | panic payload => exact Alike.panic payload
  | hang => exact Alike.stall
  | ask request next ih =>
    intro h k hosts
    obtain ⟨same, after⟩ := lawful.answer hosts request next fit.1
    have rest := ih _ (fit.2 (Host.answer request h).1) _ _ after
    simp only [Rerouting.code, Code.reroute, Code.run, Act.bind_apply, Act.step_apply, same]
    exact rest
  | post priority queue body next ihBody ih =>
    obtain ⟨isOpen, bodyFit, nextFit⟩ := fit
    exact lawful.runPost priority isOpen bodyFit fun result => ih result (nextFit result)
  | keep key priority queue body next ihBody ih =>
    obtain ⟨isOpen, bodyFit, nextFit⟩ := fit
    exact Alike.bind (Alike.modify fun _ _ hosts => hosts.keep key priority isOpen bodyFit)
      fun _ => ih nextFit
  | invoke key next ih =>
    exact Alike.bind (Alike.step fun _ _ hosts => lawful.invoke hosts key) fun result =>
      ih result (fit result)
  | subscribe channel subscriber next ihSubscriber ih =>
    exact Alike.bind (Alike.step fun _ _ hosts => hosts.subscribe channel fit.1) fun number =>
      ih number (fit.2 number)
  | provide method priority provider next ihProvider ih =>
    exact Alike.bind (Alike.step fun _ _ hosts => hosts.provide method priority fit.1)
      fun count => ih count (fit.2 count)
  | spawn yields body next ihBody ih =>
    exact Alike.bind (Alike.step fun _ _ hosts => hosts.spawn _ _) fun result =>
      ih result (fit.2 result)
  | tick interval watch body next ihBody ih =>
    exact Alike.bind (Alike.step fun _ _ hosts => hosts.spawn _ _) fun result =>
      ih result (fit.2 result)
  | listen next ih =>
    exact Alike.bind (Alike.step fun _ _ hosts => ⟨hosts.canSpawn, hosts.withJobs _ _⟩)
      fun listening => ih listening (fit listening)
  | attempt origin body next ihBody ih =>
    exact Alike.bind ((ihBody fit.1).guarded origin) fun result => ih result (fit.2 result)
  | execute next ih =>
    exact Alike.bind (lawful.execute runs) fun result => ih result (fit result)
  | deliver channel message next ih =>
    exact Alike.bind (deliver runs channel message) fun result => ih result (fit result)
  | call method argument next ih =>
    exact Alike.bind (call runs method argument) fun result => ih result (fit result)

/-- To whatever depth calls of other code are nested, code runs alike rerouted. -/
theorem runWithin (lawful : r.Lawful) (depth : Nat) : r.Dispatches (Code.runWithin depth) := by
  induction depth with
  | zero => exact fun _ _ => Alike.stall
  | succ depth ih => exact fun code fit => lawful.run ih code fit

end Rerouting.Lawful

end PluginHost
