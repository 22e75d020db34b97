import PluginHost.Proofs.Application.OptionsSeen
import PluginHost.Proofs.Heartbeat.SettingUp
import PluginHost.Proofs.Heartbeat.Turns

set_option autoImplicit false

namespace PluginHost

open Heartbeat (Wiring Tally)

variable {w : Wiring} {h : Host} {e : Ensemble} {dispatch : Dispatch}

/-- A host in which the heartbeat may be set up. Others may use its channel by then, and they may
answer how many beats there were. -/
structure Host.Open (w : Wiring) (h : Host) : Prop where
  queue : 0 < h.executor.queues.size
  marked : Heartbeat.Marked none h.executor
  waiting : ∀ queue, ∀ task ∈ h.executor.waiting queue, task.body.Postable w
  channel :
    (h.shared.find? (Shared.channelKey beats.name) = none ∧ h.channels.size = w.channel ∧
      w.subscription = 0) ∨
    (h.shared.find? (Shared.channelKey beats.name) = some (.channel w.channel) ∧
      ∃ c, h.channels[w.channel]? = some c ∧ c.issued = w.subscription ∧
        ∀ s ∈ c.subscribers, s.1 ≠ w.subscription ∧ ∀ message, (s.2 message).Foreign w)
  others : ∀ number c, number ≠ w.channel → h.channels[number]? = some c →
    ∀ s ∈ c.subscribers, ∀ message, (s.2 message).Foreign w
  method :
    (h.shared.find? (Shared.methodKey beatCount) = none ∧ h.methods.size = w.method) ∨
    (h.shared.find? (Shared.methodKey beatCount) = some (.method w.method) ∧
      w.method < h.methods.size)
  methods : ∀ m ∈ h.methods, ∀ p ∈ m.providers, ∀ argument, (p.2 argument).Foreign w
  kept : ∀ p ∈ h.keptPosts, p.2.body.Postable w
  reactor : Heartbeat.Reacts w h.reactor
  silent : Heartbeat.Silent h.journal

/-- The cells of the two as they are created. -/
structure Heartbeat.Blank (w : Wiring) (cells : Array Json) : Prop where
  distinct : w.cells.Nodup
  allotted : ∀ cell ∈ w.cells, cell < cells.size
  ticks : cells[w.heartbeat.sequence]? = some (.int 0)
  seen : cells[w.monitor.seen]? = some (.int 0)

namespace Host.Open

theorem tell (opens : h.Open w) (origin : Origin) (other : origin ≠ .monitor) (level : Level)
    (message : String) (fields : List (String × FieldValue)) :
    (h.tell origin level message fields).Open w :=
  { opens with
    silent := forall_mem_push opens.silent (Origin.not_outOfSequence other level message fields) }

theorem log (opens : h.Open w) {entries : List Entry}
    (silent : ∀ entry ∈ entries, ¬ entry.OutOfSequence) : (h.log entries).Open w := by
  refine { opens with silent := fun entry member => ?_ }
  rcases Array.mem_append.1 member with old | new
  · exact opens.silent entry old
  · exact silent entry (List.mem_toArray.1 new)

theorem addQueue (opens : h.Open w) : h.addQueue.Open w := by
  have added : ({ h with executor := h.executor.addQueue } : Host).Open w :=
    { opens with
      queue := by
        simp only [Executor.addQueue, Array.size_push]
        omega
      marked := opens.marked.addQueue
      waiting := fun queue task member => by
        rw [Executor.waiting_addQueue] at member
        exact opens.waiting queue task member }
  exact added.tell .executor (by decide) _ _ _

theorem setPolicy (opens : h.Open w) (policy : Policy) : (h.setPolicy policy).Open w :=
  { opens.tell .executor (by decide) _ _ _ with marked := opens.marked.setPolicy policy }

theorem write (opens : h.Open w) (cell : Nat) (value : Json) : (h.write cell value).Open w :=
  { opens with }

/-- Whoever asks for the channel of the beats gets the one that the heartbeat is to have. -/
theorem channels (opens : h.Open w) :
    (h.channel beats).1 = w.channel ∧ (h.channel beats).2.Open w ∧
      (h.channel beats).2.cells = h.cells ∧
      (h.channel beats).2.shared.find? (Shared.channelKey beats.name) =
        some (.channel w.channel) := by
  unfold Host.channel
  rcases opens.channel with ⟨absent, size, first⟩ | ⟨known, _⟩
  · have apart := Shared.methodKey_ne_channelKey beatCount beats.name
    simp only [absent, size, shareNew, Members.find?_insert, if_true, and_true, true_and]
    refine ⟨{ opens.tell .shared (by decide) _ _ _ with channel := ?_, others := ?_, method := ?_ },
      rfl⟩
    · refine .inr ⟨by rw [Members.find?_insert, if_pos rfl], .new beats, ?_, first.symm,
        fun _ none => absurd none List.not_mem_nil⟩
      rw [← size, Array.getElem?_push_size]
    · intro number c other found
      rw [Array.getElem?_push, if_neg (size ▸ other)] at found
      exact opens.others number c other found
    · rw [Members.find?_insert, if_neg (Ne.symm apart)]
      exact opens.method
  · simp only [known, true_and, and_true]
    exact opens

end Host.Open

/-- How many beats there are to be is known once the heartbeat is configured. -/
theorem Heartbeat.Blank.configured {cells : Array Json} (blank : Heartbeat.Blank w cells)
    (interval : Int) :
    Heartbeat.Ledger w { Tally.fresh false with live := false }
      ((cells.setIfInBounds w.heartbeat.interval (.int interval)).setIfInBounds w.heartbeat.limit
        (.int w.limit)) := by
  have distinct := blank.distinct
  simp only [Wiring.cells, List.nodup_cons, List.mem_cons, List.not_mem_nil, or_false,
    not_or] at distinct
  obtain ⟨⟨_, intervalTicks, _, intervalSeen, _⟩, ⟨limitTicks, _, limitSeen, _⟩, _⟩ := distinct
  refine ⟨blank.distinct, fun cell member => ?_, ?_, ?_, ?_, fun live => ?_⟩
  · rw [Array.size_setIfInBounds, Array.size_setIfInBounds]
    exact blank.allotted cell member
  · refine Array.getElem?_setIfInBounds_self_of_lt ?_
    rw [Array.size_setIfInBounds]
    exact blank.allotted _ (by simp [Wiring.cells])
  · rw [Array.getElem?_setIfInBounds_ne limitTicks, Array.getElem?_setIfInBounds_ne intervalTicks]
    exact blank.ticks
  · rw [Array.getElem?_setIfInBounds_ne limitSeen, Array.getElem?_setIfInBounds_ne intervalSeen]
    exact blank.seen
  · cases live

/-- Once the heartbeat is configured the monitor may be set up. -/
theorem Host.Open.awaits (opens : h.Open w)
    (wired : h.shared.find? (Shared.channelKey beats.name) = some (.channel w.channel))
    (ledger : Heartbeat.Ledger w { Tally.fresh false with live := false } h.cells) :
    h.Awaits w := by
  have tuned : ∃ c, h.channels[w.channel]? = some c ∧ c.issued = w.subscription ∧
      ∀ s ∈ c.subscribers, s.1 ≠ w.subscription ∧ ∀ message, (s.2 message).Foreign w := by
    rcases opens.channel with ⟨absent, _⟩ | ⟨_, channel⟩
    · rw [wired] at absent
      cases absent
    · exact channel
  obtain ⟨c, found, listeners⟩ := tuned
  exact
    { fits :=
        { queue := opens.queue
          way := nofun
          marked := opens.marked
          quitting := nofun
          wired := fun _ => wired
          channels :=
            { inside := (Array.getElem?_eq_some_iff.1 found).1
              others := opens.others
              tuned := nofun }
          methods := { first := nofun, others := opens.methods }
          ledger := ledger
          kept := opens.kept
          reactor := opens.reactor
          silent := opens.silent }
      way := .of_postable opens.waiting
      channel := ⟨c, found, listeners⟩
      method := opens.method }

theorem Host.Awaits.tell (awaits : h.Awaits w) (origin : Origin) (other : origin ≠ .monitor)
    (level : Level) (message : String) (fields : List (String × FieldValue)) :
    (h.tell origin level message fields).Awaits w :=
  { awaits with fits := awaits.fits.tell origin other level message fields }

namespace Heartbeat

/-- What options tell a heartbeat: after how many beats it is to quit, and how long it is from one to
the next. -/
structure Configures (w : Wiring) (options : Options) : Prop where
  interval : ∃ n, options.get .word intervalOption.name = .ok n
  limit : options.get .word limitOption.name = .ok w.limit

/-- What the heartbeat does to set itself up readies the host for the monitor. -/
theorem setUp_awaits {options : Options} (configures : Configures w options) (opens : h.Open w)
    (blank : Blank w h.cells) (dispatch : Dispatch) :
    (Code.run dispatch (setUp w.heartbeat options) h).1 = .returned (.ok .null) ∧
      (Code.run dispatch (setUp w.heartbeat options) h).2.Awaits w := by
  obtain ⟨⟨n, interval⟩, limit⟩ := configures
  let written := (h.write w.heartbeat.interval (.int (max (n : Int) 1))).write w.heartbeat.limit
    (.int w.limit)
  have runs : Code.run dispatch (setUp w.heartbeat options) h = (.returned (.ok .null),
      (written.channel beats).2.tell .heartbeat .info "Heartbeat configured"
        [("interval_ms", .number n), ("limit", .number w.limit)]) := by
    unfold setUp
    simp only [interval, limit, Steps.orFail]
    rfl
  obtain ⟨_, opened, cells, wired⟩ := ((opens.write _ _).write _ _ : written.Open w).channels
  have told := opened.tell .heartbeat (by decide) .info "Heartbeat configured"
    [("interval_ms", .number n), ("limit", .number w.limit)]
  rw [runs]
  refine ⟨rfl, told.awaits wired ?_⟩
  show Ledger w _ (written.channel beats).2.cells
  rw [cells]
  exact blank.configured _

end Heartbeat

namespace Ensemble

/-- A call that a plugin answers well. -/
theorem invoke_ok {slot : Slot} {hook : Hook} {code : Code} {value : Json} {k : Host}
    (ran : dispatch code e.host = (.returned (.ok value), k)) :
    invoke dispatch slot hook code e = (.returned (.ok value),
      { e with host := k, calls := e.calls ++ slot.called hook true }) := by
  have guarded : Act.guarded ("plugin '" ++ slot.plugin.name ++ "' " ++ hook.word) (dispatch code)
      e.host = (.returned (.ok value), k) := by
    rw [Act.guarded, ran]
    rfl
  simp only [invoke, Act.bind_apply, record, Act.modify_apply, onHost, Act.within, guarded,
    Act.pure_apply, Slot.called, List.append_assoc, List.cons_append, List.nil_append]
  rfl

theorem callSetUp_ok {options : Options} {slot : Slot} {index : Nat} {value : Json} {k : Host}
    (ran : dispatch (slot.plugin.setUp options)
      (e.host.tell .lifecycle .info "Initializing plugin" [("plugin", .text slot.plugin.name)]) =
        (.returned (.ok value), k)) :
    callSetUp dispatch options slot index e = (.returned (.ok ()),
      { lifecycle := e.lifecycle.list index, host := k
        calls := e.calls ++ slot.called .setUp true }) := by
  rw [callSetUp, Act.bind_of_returned (a := ()) rfl]
  have invoked : invoke dispatch slot .setUp (slot.plugin.setUp options)
      (tell .lifecycle .info "Initializing plugin" [("plugin", .text slot.plugin.name)] e).2 = _ :=
    invoke_ok ran
  rw [Act.bind_of_returned (congrArg Prod.fst invoked), invoked]
  rfl

/-- A plugin is called to set itself up once what it depends on is set up. -/
theorem setUpAt_of_dependencies {options : Options} {deep index : Nat} {slot : Slot}
    {needed : List Nat} {between : Ensemble}
    (found : e.lifecycle.registry.slots[index]? = some slot) (fresh : slot.state = .registered)
    (needs : e.lifecycle.registry.dependencies e.host index = .ok needed)
    (ready : setUpDependencies (setUpAt dispatch options deep) index needed
      { e with lifecycle := e.lifecycle.setState index .initialized } =
        (.returned (.ok ()), between)) :
    setUpAt dispatch options (deep + 1) index e = callSetUp dispatch options slot index between := by
  have needsToo : (e.lifecycle.setState index .initialized).registry.dependencies e.host index =
      .ok needed := by
    rw [← needs]
    exact Registry.dependencies_congr (Registry.roster_setState _ _ _) _ _
  simp only [setUpAt, Act.bind_apply, Act.look_apply, found, fresh, if_true, changeLifecycle,
    Act.modify_apply, needsToo, ready]

/-- Where the monitor and the heartbeat are registered, among plugins of others. -/
structure Enlists (w : Wiring) (e : Ensemble) (monitorAt heartbeatAt : Nat) : Prop where
  monitor : ∃ serial, e.lifecycle.registry.slots[monitorAt]? =
    some ⟨serial, Monitor.plugin w.monitor, .registered⟩
  heartbeat : ∃ serial, e.lifecycle.registry.slots[heartbeatAt]? =
    some ⟨serial, Heartbeat.plugin w.heartbeat, .registered⟩
  needed : e.lifecycle.registry.indexOfType Heartbeat.typeName = some heartbeatAt
  others : ∀ index slot, index ≠ monitorAt → index ≠ heartbeatAt →
    e.lifecycle.registry.slots[index]? = some slot → slot.plugin.Foreign w

/-- The heartbeat depends on nobody. -/
theorem setUpAt_heartbeat {options : Options} {index serial : Nat}
    (found : e.lifecycle.registry.slots[index]? =
      some ⟨serial, Heartbeat.plugin w.heartbeat, .registered⟩)
    (opens : e.host.Open w) (blank : Heartbeat.Blank w e.host.cells)
    (configures : Heartbeat.Configures w options) (depth deep : Nat) :
    ∃ k calls, setUpAt (Code.runWithin (depth + 1)) options (deep + 1) index e =
        (.returned (.ok ()),
          { lifecycle := (e.lifecycle.setState index .initialized).list index, host := k
            calls := calls }) ∧
      k.Awaits w := by
  have none : e.lifecycle.registry.dependencies e.host index = .ok [] := by
    simp only [Registry.dependencies, found]
    rfl
  have told := opens.tell .lifecycle (by decide) .info "Initializing plugin"
    [("plugin", .text (Heartbeat.plugin w.heartbeat).name)]
  obtain ⟨fine, awaits⟩ := Heartbeat.setUp_awaits configures told blank (Code.runWithin depth)
  rw [setUpAt_of_dependencies found rfl none rfl]
  exact ⟨_, _, callSetUp_ok (Prod.ext fine rfl), awaits⟩

variable {monitorAt heartbeatAt : Nat}

theorem Enlists.apart (enlists : e.Enlists w monitorAt heartbeatAt) : monitorAt ≠ heartbeatAt := by
  rintro rfl
  obtain ⟨_, monitor⟩ := enlists.monitor
  obtain ⟨_, heartbeat⟩ := enlists.heartbeat
  rw [heartbeat, Option.some.injEq, Slot.mk.injEq] at monitor
  have types : Heartbeat.typeName = Monitor.typeName := congrArg Plugin.type monitor.2.1
  exact absurd types (by decide)

/-- The lifecycle when both have been set up. -/
def bothUp (l : Lifecycle) (monitorAt heartbeatAt : Nat) : Lifecycle :=
  (((l.setState monitorAt .initialized).setState heartbeatAt .initialized).list heartbeatAt).list
    monitorAt

/-- The monitor depends on the heartbeat, so that is set up first. -/
theorem setUpAt_monitor {options : Options} (enlists : e.Enlists w monitorAt heartbeatAt)
    (opens : e.host.Open w) (blank : Heartbeat.Blank w e.host.cells)
    (configures : Heartbeat.Configures w options) (depth deep : Nat) :
    ∃ k calls, setUpAt (Code.runWithin (depth + 1)) options (deep + 2) monitorAt e =
        (.returned (.ok ()),
          { lifecycle := bothUp e.lifecycle monitorAt heartbeatAt, host := k, calls := calls }) ∧
      k.Fits w (Tally.fresh false) ∧
      k.shared.find? (Shared.methodKey beatCount) = some (.method w.method) ∧
      Heartbeat.Provides w k.methods := by
  obtain ⟨_, monitor⟩ := enlists.monitor
  obtain ⟨serial, heartbeat⟩ := enlists.heartbeat
  have needs : e.lifecycle.registry.dependencies e.host monitorAt = .ok [heartbeatAt] := by
    simp only [Registry.dependencies, monitor, Monitor.plugin, Registry.locateAll, Registry.locate,
      enlists.needed]
  have there : (e.lifecycle.setState monitorAt .initialized).registry.slots[heartbeatAt]? =
      some ⟨serial, Heartbeat.plugin w.heartbeat, .registered⟩ := by
    simp only [Lifecycle.setState, Registry.setState, List.getElem?_modify, heartbeat,
      if_neg enlists.apart]
    rfl
  obtain ⟨between, calls, first, awaits⟩ :=
    setUpAt_heartbeat (e := { e with lifecycle := e.lifecycle.setState monitorAt .initialized })
      there opens blank configures depth deep
  have idle : (e.lifecycle.setState monitorAt .initialized).isPending heartbeatAt = false := by
    simp [Lifecycle.isPending, Lifecycle.stateAt, there]
  have ready : setUpDependencies (setUpAt (Code.runWithin (depth + 1)) options (deep + 1)) monitorAt
      [heartbeatAt] { e with lifecycle := e.lifecycle.setState monitorAt .initialized } =
        (.returned (.ok ()),
          { lifecycle := ((e.lifecycle.setState monitorAt .initialized).setState heartbeatAt
              .initialized).list heartbeatAt
            host := between, calls := calls }) := by
    simp only [setUpDependencies, Act.bind_apply, Act.look_apply, idle, first, Act.pure_apply,
      Bool.false_eq_true, if_false]
  rw [setUpAt_of_dependencies monitor rfl needs ready]
  have told := awaits.tell .lifecycle (by decide) .info "Initializing plugin"
    [("plugin", .text (Monitor.plugin w.monitor).name)]
  obtain ⟨fine, fits, named, provides⟩ := Monitor.setUp_fits told (Code.runWithin depth)
  exact ⟨_, _, callSetUp_ok (Prod.ext fine rfl), fits, named, provides⟩

theorem Enlists.setsUp {name : String} {options : Options}
    (enlists : e.Enlists w monitorAt heartbeatAt)
    (named : e.lifecycle.registry.indexOf name = some monitorAt) (opens : e.host.Open w)
    (blank : Heartbeat.Blank w e.host.cells) (configures : Heartbeat.Configures w options)
    (depth : Nat) :
    ∃ k calls, setUp (Code.runWithin (depth + 1)) name options e = (.returned (.ok ()),
        { lifecycle := bothUp e.lifecycle monitorAt heartbeatAt, host := k, calls := calls }) ∧
      k.Fits w (Tally.fresh false) ∧
      k.shared.find? (Shared.methodKey beatCount) = some (.method w.method) ∧
      Heartbeat.Provides w k.methods := by
  obtain ⟨deep, deeper⟩ : ∃ deep, e.depth = deep + 2 := by
    obtain ⟨_, found⟩ := enlists.monitor
    have inside := (List.getElem?_eq_some_iff.1 found).1
    refine ⟨e.lifecycle.registry.slots.length - 1, ?_⟩
    show e.lifecycle.registry.slots.length + 1 = _
    have apart := enlists.apart
    obtain ⟨_, foundToo⟩ := enlists.heartbeat
    have insideToo := (List.getElem?_eq_some_iff.1 foundToo).1
    omega
  obtain ⟨k, calls, ran, fits⟩ := setUpAt_monitor enlists opens blank configures depth deep
  refine ⟨k, calls, ?_, fits⟩
  simp only [setUp, Act.bind_apply, Act.get_apply, Registry.resolve, named, deeper, ran]

theorem bothUp_slot (l : Lifecycle) (monitorAt heartbeatAt index : Nat) :
    (bothUp l monitorAt heartbeatAt).registry.slots[index]? =
      l.registry.slots[index]?.map fun slot =>
        if monitorAt = index ∨ heartbeatAt = index then { slot with state := .initialized }
        else slot := by
  simp only [bothUp, Lifecycle.list, Lifecycle.setState, Registry.setState, List.getElem?_modify]
  cases l.registry.slots[index]? with
  | none => rfl
  | some slot => by_cases heartbeatAt = index <;> by_cases monitorAt = index <;> simp [*]

theorem Enlists.initialized (enlists : e.Enlists w monitorAt heartbeatAt) :
    (∃ slot ∈ (bothUp e.lifecycle monitorAt heartbeatAt).registry.slots,
      slot.plugin = Heartbeat.plugin w.heartbeat ∧ slot.state = .initialized) ∧
    ∃ slot ∈ (bothUp e.lifecycle monitorAt heartbeatAt).registry.slots,
      slot.plugin = Monitor.plugin w.monitor ∧ slot.state = .initialized := by
  constructor
  · obtain ⟨serial, there⟩ := enlists.heartbeat
    have now := bothUp_slot e.lifecycle monitorAt heartbeatAt heartbeatAt
    rw [there, Option.map_some, if_pos (.inr rfl)] at now
    exact ⟨_, List.mem_of_getElem? now, rfl, rfl⟩
  · obtain ⟨serial, there⟩ := enlists.monitor
    have now := bothUp_slot e.lifecycle monitorAt heartbeatAt monitorAt
    rw [there, Option.map_some, if_pos (.inl rfl)] at now
    exact ⟨_, List.mem_of_getElem? now, rfl, rfl⟩

theorem Enlists.slots_fit (enlists : e.Enlists w monitorAt heartbeatAt) :
    ∀ slot ∈ (bothUp e.lifecycle monitorAt heartbeatAt).registry.slots,
      slot.Fits w (Tally.fresh false) := by
  intro slot member
  obtain ⟨index, found⟩ := List.getElem?_of_mem member
  rw [bothUp_slot] at found
  obtain ⟨before, known, rfl⟩ := Option.map_eq_some_iff.1 found
  by_cases heartbeat : heartbeatAt = index
  · obtain ⟨_, there⟩ := enlists.heartbeat
    rw [heartbeat, known] at there
    cases there
    rw [if_pos (.inr heartbeat)]
    exact .heartbeat rfl nofun rfl
  · by_cases monitor : monitorAt = index
    · obtain ⟨_, there⟩ := enlists.monitor
      rw [monitor, known] at there
      cases there
      rw [if_pos (.inl monitor)]
      exact .monitor rfl nofun
    · rw [if_neg (not_or.2 ⟨monitor, heartbeat⟩)]
      exact .others (enlists.others index before (Ne.symm monitor) (Ne.symm heartbeat) known)

end Ensemble

namespace Registry

variable {r : Registry}

/-- A type that there is, and of which nothing is registered, nor anything of another type under the
name that a plugin of it would have. -/
structure Free (catalogue : Catalogue) (r : Registry) (t : PluginType) : Prop where
  known : catalogue.find? t.name = some t
  type : r.indexOfType t.name = none
  name : r.indexOf (shortTypeName t.name) = none

theorem Free.push {catalogue : Catalogue} {t : PluginType} (free : r.Free catalogue t)
    {plugin : Plugin} (type : plugin.type ≠ t.name) (name : plugin.name ≠ shortTypeName t.name) :
    (r.push plugin).Free catalogue t := by
  refine ⟨free.known, ?_, ?_⟩
  · rw [indexOfType_push, free.type, if_neg type, Option.or_none]
  · rw [indexOf_push, if_neg name]
    exact free.name

/-- A plugin of a type of which there is none is registered before what it depends on. -/
theorem Free.registers {catalogue : Catalogue} {t : PluginType} (free : r.Free catalogue t)
    {plugin : Plugin} {k : Host} (created : t.create h = (plugin, k))
    (name : plugin.name = shortTypeName t.name) (depth : Nat) :
    registerTypeWithin catalogue (depth + 1) t.name (r, h) =
      (true, registerDependencies (registerTypeWithin catalogue depth) (plugin.requires k)
        (r.push plugin, k.tell .registry .info "Registering plugin"
          [("plugin", .text plugin.name)])) := by
  have named : r.indexOf plugin.name = none := name ▸ free.name
  simp only [registerTypeWithin, free.type, free.known, created, registerWith, named,
    Option.isSome_none, Bool.false_eq_true, if_false]

def withBoth (r : Registry) (w : Wiring) : Registry :=
  (r.push (Monitor.plugin w.monitor)).push (Heartbeat.plugin w.heartbeat)

/-- The cells that the two get when they are created. -/
structure Allots (w : Wiring) (h : Host) : Prop where
  monitor : w.monitor = ⟨h.cells.size, h.cells.size + 1, h.cells.size + 2⟩
  heartbeat : w.heartbeat =
    ⟨h.cells.size + 3, h.cells.size + 4, h.cells.size + 5, h.cells.size + 6⟩

theorem create_monitor (h : Host) :
    Monitor.create h =
      (Monitor.plugin ⟨h.cells.size, h.cells.size + 1, h.cells.size + 2⟩,
        { h with cells := h.cells ++ #[.int 0, .null, .null] }) := by
  have cells : h.cells ++ #[.int 0, .null, .null] =
    ((h.cells.push (.int 0)).push .null).push .null := Array.ext' (by simp)
  rw [cells]
  simp [Monitor.create, Host.allocate]

theorem create_heartbeat (h : Host) :
    Heartbeat.create h =
      (Heartbeat.plugin ⟨h.cells.size, h.cells.size + 1, h.cells.size + 2, h.cells.size + 3⟩,
        { h with cells := h.cells ++ #[.int 1000, .int 0, .int 0, .null] }) := by
  have cells : h.cells ++ #[.int 1000, .int 0, .int 0, .null] =
    (((h.cells.push (.int 1000)).push (.int 0)).push (.int 0)).push .null := Array.ext' (by simp)
  rw [cells]
  simp [Heartbeat.create, Host.allocate]

theorem Allots.blank (allots : Allots w h) :
    Heartbeat.Blank w (h.cells ++ #[.int 0, .null, .null] ++ #[.int 1000, .int 0, .int 0, .null]) := by
  obtain ⟨monitor, heartbeat⟩ := allots
  refine ⟨?_, ?_, ?_, ?_⟩
  · simp [Wiring.cells, monitor, heartbeat]
  · simp [Wiring.cells, monitor, heartbeat]
  · simp [heartbeat]
  · simp [monitor]

/-- Whoever registers the monitor registers the heartbeat with it. -/
theorem registerType_monitor {catalogue : Catalogue} (monitor : r.Free catalogue Monitor.type)
    (heartbeat : r.Free catalogue Heartbeat.type) (allots : Allots w h) (opens : h.Open w) :
    ∃ k, registerType catalogue Monitor.typeName (r, h) = (true, r.withBoth w, k) ∧ k.Open w ∧
      Heartbeat.Blank w k.cells := by
  obtain ⟨first, rest, rfl⟩ : ∃ first rest, catalogue = first :: rest := by
    cases catalogue with
    | nil => cases monitor.known
    | cons first rest => exact ⟨first, rest, rfl⟩
  have types : Monitor.typeName ≠ Heartbeat.typeName := by decide
  have names : shortTypeName Monitor.typeName ≠ shortTypeName Heartbeat.typeName := by
    decide +kernel
  have free : (r.push (Monitor.plugin w.monitor)).Free (first :: rest) Heartbeat.type :=
    heartbeat.push types names
  let own : Host := { h with cells := h.cells ++ #[.int 0, .null, .null] }
  have created : Monitor.type.create h = (Monitor.plugin w.monitor, own) := by
    rw [allots.monitor]
    exact create_monitor h
  let told := own.tell .registry .info "Registering plugin"
    [("plugin", .text (Monitor.plugin w.monitor).name)]
  let both : Host := { told with cells := own.cells ++ #[.int 1000, .int 0, .int 0, .null] }
  have createdToo : Heartbeat.type.create told = (Heartbeat.plugin w.heartbeat, both) := by
    have size : told.cells.size = h.cells.size + 3 := Array.size_append
    have created := create_heartbeat told
    rw [size, ← allots.heartbeat] at created
    exact created
  have registers := monitor.registers created rfl (rest.length + 1)
  have needs : (Monitor.plugin w.monitor).requires own = [.typed Heartbeat.type.name] := rfl
  have needsNone : (Heartbeat.plugin w.heartbeat).requires both = [] := rfl
  rw [needs, registerDependencies, free.registers createdToo rfl rest.length, needsNone] at registers
  have opened : both.Open w :=
    { opens.tell .registry (by decide) .info "Registering plugin" _ with }
  refine ⟨_, registers, ?_, allots.blank⟩
  exact (opened.tell .registry (by decide) _ _ _).tell .registry (by decide) _ _ _

theorem withBoth_enlists {calls : List Call} (l : Lifecycle)
    (none : r.indexOfType Heartbeat.typeName = none)
    (others : ∀ slot ∈ r.slots, slot.plugin.Foreign w) :
    (Ensemble.mk { l with registry := r.withBoth w } h calls).Enlists w r.slots.length
      (r.slots.length + 1) where
  monitor := ⟨r.issued, by simp [withBoth, push]⟩
  heartbeat := ⟨r.issued + 1, by simp [withBoth, push]⟩
  needed := by
    have other : (Monitor.plugin w.monitor).type ≠ Heartbeat.typeName := by
      show Monitor.typeName ≠ Heartbeat.typeName
      decide
    have own : (Heartbeat.plugin w.heartbeat).type = Heartbeat.typeName := rfl
    show (r.withBoth w).indexOfType Heartbeat.typeName = _
    rw [withBoth, indexOfType_push, indexOfType_push, none, if_neg other, if_pos own]
    simp [push]
  others index slot apart apartToo found := by
    have split : (r.withBoth w).slots = r.slots ++
      [⟨r.issued, Monitor.plugin w.monitor, .registered⟩,
        ⟨r.issued + 1, Heartbeat.plugin w.heartbeat, .registered⟩] := by simp [withBoth, push]
    have inside : index < r.slots.length := by
      have bound := (List.getElem?_eq_some_iff.1 found).1
      simp only [split, List.length_append, List.length_cons, List.length_nil] at bound
      omega
    simp only [split, List.getElem?_append_left inside] at found
    exact others slot (List.mem_of_getElem? found)

end Registry

/-- A heartbeat and a monitor are set up in an application, and all else is code of others. -/
structure Heartbeat.Ready (w : Wiring) (a : Application) : Prop where
  heartbeat : ∃ slot ∈ a.ensemble.lifecycle.registry.slots,
    slot.plugin = Heartbeat.plugin w.heartbeat ∧ slot.state = .initialized
  monitor : ∃ slot ∈ a.ensemble.lifecycle.registry.slots,
    slot.plugin = Monitor.plugin w.monitor ∧ slot.state = .initialized
  method : a.host.shared.find? (Shared.methodKey beatCount) = some (.method w.method)
  provides : Heartbeat.Provides w a.host.methods
  fits : a.Fits w (Tally.fresh false)

namespace Application

variable {a : Application}

/-- An application in which neither is registered, beside plugins of others. -/
structure Lacks (w : Wiring) (a : Application) : Prop where
  opens : a.host.Open w
  allots : Registry.Allots w a.host
  monitor : a.lifecycle.registry.Free a.catalogue Monitor.type
  heartbeat : a.lifecycle.registry.Free a.catalogue Heartbeat.type
  others : ∀ slot ∈ a.lifecycle.registry.slots, slot.plugin.Foreign w
  callback : ∀ code, a.reloadCallback = some code → code.Foreign w
  applied : a.registeredApplied = true ∨ a.registered = []

/-- An application in which both are registered, and neither is set up. -/
structure Has (w : Wiring) (a : Application) : Prop where
  opens : a.host.Open w
  blank : Heartbeat.Blank w a.host.cells
  enlists : ∃ monitorAt heartbeatAt, a.ensemble.Enlists w monitorAt heartbeatAt ∧
    a.lifecycle.registry.indexOf (shortTypeName Monitor.typeName) = some monitorAt
  callback : ∀ code, a.reloadCallback = some code → code.Foreign w
  applied : a.registeredApplied = true ∨ a.registered = []

/-- Neither is registered in a fresh application, whatever its configuration. -/
theorem lacks_new (config : Config) {catalogue : Catalogue}
    (monitor : catalogue.find? Monitor.typeName = some Monitor.type)
    (heartbeat : catalogue.find? Heartbeat.typeName = some Heartbeat.type) (opens : h.Open w)
    (allots : Registry.Allots w h) : (new config catalogue [] h).Lacks w := by
  have queues : ∀ n {h : Host}, h.Open w → Registry.Allots w h →
      (addQueues n h).Open w ∧ Registry.Allots w (addQueues n h) := by
    intro n
    induction n with
    | zero => exact fun opens allots => ⟨opens, allots⟩
    | succ n ih => exact fun opens allots => ih opens.addQueue { allots with }
  obtain ⟨opened, allotted⟩ := queues config.executor.extraQueues opens allots
  exact
    { opens := (opened.setPolicy _).tell .application (by decide) _ _ _
      allots := { allotted with }
      monitor := ⟨monitor, rfl, rfl⟩
      heartbeat := ⟨heartbeat, rfl, rfl⟩
      others := fun _ none => absurd none List.not_mem_nil
      callback := nofun
      applied := .inr rfl }

theorem Lacks.registers (lacks : a.Lacks w) :
    (registerType Monitor.typeName a).1 = .returned true ∧
      (registerType Monitor.typeName a).2.Has w := by
  obtain ⟨k, registered, opens, blank⟩ :=
    Registry.registerType_monitor lacks.monitor lacks.heartbeat lacks.allots lacks.opens
  have ran : registerType Monitor.typeName a = (.returned true, { a with
      ensemble := { a.ensemble with
        lifecycle := { a.lifecycle with registry := a.lifecycle.registry.withBoth w }
        host := k } }) := by
    rw [registerType, Act.bind_of_returned (a := a.catalogue) rfl]
    simp only [onEnsemble, Act.within, Ensemble.registerType, Ensemble.onRegistry, Act.step_apply,
      Act.look_apply]
    simp only [lifecycle, host] at registered
    rw [registered]
    rfl
  rw [ran]
  refine ⟨rfl, opens, blank, ⟨_, _, Registry.withBoth_enlists _ lacks.heartbeat.type lacks.others,
    ?_⟩, lacks.callback, lacks.applied⟩
  have names : (Heartbeat.plugin w.heartbeat).name ≠ shortTypeName Monitor.typeName := by
    show shortTypeName Heartbeat.typeName ≠ shortTypeName Monitor.typeName
    decide +kernel
  have own : (Monitor.plugin w.monitor).name = shortTypeName Monitor.typeName := rfl
  show (a.lifecycle.registry.withBoth w).indexOf _ = _
  rw [Registry.withBoth, Registry.indexOf_push, if_neg names, Registry.indexOf_push, if_pos own]

/-- What options come to once the defaults of those that plugins declare are filled in. -/
def seen (a : Application) (options : Options) : Options :=
  (a.lifecycle.registry.declareOptions .empty).1.applyDefaults options

theorem equipped_of_applied (applied : a.registeredApplied = true ∨ a.registered = []) :
    a.equipped = { a with registeredApplied := true } := by
  unfold equipped applyRegistered
  rw [Act.bind_of_returned (a := a) rfl]
  by_cases done : a.registeredApplied = true
  · rw [if_pos done]
    show a = _
    rw [← done]
  · rw [if_neg done]
    have none : registerTypes a.registered = pure () := by
      rw [applied.resolve_left done]
      rfl
    rw [none]
    rfl

/-- What is told before anything is set up is not the monitor's warning. -/
theorem readied_of_applied (applied : a.registeredApplied = true ∨ a.registered = [])
    (schema : Schema) (late : List OptionSpec) (options : Options) :
    ∃ entries, a.readied schema late options = a.ensemble.log entries ∧
      ∀ entry ∈ entries, ¬ entry.OutOfSequence := by
  refine ⟨_, by rw [readied, equipped_of_applied applied], fun entry member => ?_⟩
  simp only [List.mem_append, List.mem_map] at member
  rcases member with (⟨spec, _, rfl⟩ | ⟨name, _, rfl⟩) | ⟨name, _, rfl⟩
  · exact Origin.not_outOfSequence (by decide) _ _ _
  · exact Origin.not_outOfSequence (by decide) _ _ _
  · exact Origin.not_outOfSequence (by decide) _ _ _

theorem setUpAll_one {options : Options} {name : String}
    (ran : Ensemble.setUp dispatch name options a.ensemble = (.returned (.ok ()), e)) :
    setUpAll dispatch options [name] a = (.returned (.ok ()), { a with ensemble := e }) := by
  have first : onEnsemble (Ensemble.setUp dispatch name options) a =
      (.returned (.ok ()), { a with ensemble := e }) := by
    simp only [onEnsemble, Act.within, ran]
  rw [setUpAll, Act.bind_of_returned (by rw [first]), first]
  rfl

/-- The monitor is set up by its name, and the heartbeat with it. -/
theorem Has.setsUp (has : a.Has w) {options : Options}
    (configures : Heartbeat.Configures w (a.seen options)) (depth : Nat) :
    (setUp (Code.runWithin (depth + 1)) [shortTypeName Monitor.typeName] options a).1 =
        .returned (.ok ()) ∧
      Heartbeat.Ready w
        (setUp (Code.runWithin (depth + 1)) [shortTypeName Monitor.typeName] options a).2 := by
  obtain ⟨opens, blank, ⟨monitorAt, heartbeatAt, enlists, named⟩, callback, applied⟩ := has
  obtain ⟨late, _, reported⟩ := a.equipped.lifecycle.registry.declareOptions_resolves
  obtain ⟨entries, same, silent⟩ := readied_of_applied applied
    (a.lifecycle.registry.declareOptions .empty).1 late options
  have enlists : (a.ensemble.log entries).Enlists w monitorAt heartbeatAt := { enlists with }
  obtain ⟨k, calls, ran, fits, shares, provides⟩ :=
    enlists.setsUp named (opens.log silent) blank configures depth
  let begun : Application := { a with
    ensemble := a.ensemble.log entries, options := a.seen options, registeredApplied := true }
  let up : Application := { begun with
    ensemble := ⟨Ensemble.bothUp a.lifecycle monitorAt heartbeatAt, k, calls⟩ }
  have all : setUpAll (Code.runWithin (depth + 1)) (a.seen options)
      [shortTypeName Monitor.typeName] begun = (.returned (.ok ()), up) := setUpAll_one ran
  have readied : setUp (Code.runWithin (depth + 1)) [shortTypeName Monitor.typeName] options a =
      (setUpAll (Code.runWithin (depth + 1)) (a.seen options) [shortTypeName Monitor.typeName] >>=
        reportSetUp) begun := by
    rw [setUp_readied _ _ _ reported, equipped_of_applied applied]
    exact congrArg (fun e => (_ >>= reportSetUp) { begun with ensemble := e }) same
  have done : setUp (Code.runWithin (depth + 1)) [shortTypeName Monitor.typeName] options a = _ :=
    readied.trans (Act.bind_of_returned (congrArg Prod.fst all))
  rw [all] at done
  rw [done]
  obtain ⟨heartbeat, monitor⟩ := enlists.initialized
  refine ⟨rfl, heartbeat, monitor, shares, provides, ?_⟩
  have upFits : up.Fits w (Tally.fresh false) := ⟨⟨fits, enlists.slots_fit⟩, callback, rfl⟩
  refine tell_fits .info "Plugins initialized" _ up upFits fun endless => ?_
  cases endless

/-- Registered and set up, the two are ready for what an application may go through. -/
theorem Lacks.ready (lacks : a.Lacks w) {options : Options}
    (configures : Heartbeat.Configures w ((registerType Monitor.typeName a).2.seen options))
    (depth : Nat) :
    Heartbeat.Ready w (setUp (Code.runWithin (depth + 1)) [shortTypeName Monitor.typeName] options
      (registerType Monitor.typeName a).2).2 :=
  (lacks.registers.2.setsUp configures depth).2

end Application

end PluginHost
