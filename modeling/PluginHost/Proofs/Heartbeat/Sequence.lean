import PluginHost.Proofs.Executor.QueueOrder
import PluginHost.Proofs.Heartbeat.ComingUp
import PluginHost.Proofs.Heartbeat.Moments

/-!
The heartbeat from end to end. However an application with a heartbeat and its monitor goes on, and
whatever else runs in it, the beats come to the monitor one after the other, from the first one on;
and the limit, if there is one, is kept.
-/

set_option autoImplicit false

namespace PluginHost.Heartbeat

variable {w : Wiring} {t : Tally}

/-- A moment that fits a tally. The monitor listens unless the host is asked to quit, and it does
wherever the loop may run a task. -/
structure Moment.Holds (w : Wiring) (t : Tally) (m : Moment) : Prop where
  app : m.app.Fits w t
  steady : t.Steady w
  up : t.live = true ∨ t.quitting = true
  inside : ∀ loop, m.loop = some loop → loop.phase.Inside → t.live = true
  finished : ∀ loop, m.loop = some loop → loop.phase = .finished → t.quitting = true

theorem Moment.Holds.outside {a : Application} (app : a.Fits w t) (steady : t.Steady w)
    (up : t.live = true ∨ t.quitting = true) : Moment.Holds w t ⟨a, none⟩ :=
  ⟨app, steady, up, nofun, nofun⟩

theorem Tally.Next.down (steady : t.Steady w) (posted : Nat) : t.Next w t.down posted :=
  Tally.Next.of_ticks (t := t) steady.down rfl (.inl rfl) rfl rfl posted

variable {m after : Moment} {event : Event}

theorem Step.holds (step : Step w m event after) (holds : m.Holds w t) :
    ∃ s : Tally, t.Next w s after.app.host.executor.posted ∧ after.Holds w s := by
  cases step with
  | others depth foreign ended =>
    have heeds := Code.runWithin_heeds depth t _ foreign
    have app := Application.onHost_fits heeds m.app holds.app ended
    exact ⟨t, .refl holds.steady _, { holds with app := app }⟩
  | setsUp depth names options ended =>
    have app := Application.setUp_fits names options _ holds.app ended
    exact ⟨t, .refl holds.steady _, .outside app holds.steady holds.up⟩
  | starts depth returned =>
    rcases Application.start_brings _ _ holds.app returned with app | ⟨_, app⟩
    · exact ⟨t, .refl holds.steady _, .outside app holds.steady holds.up⟩
    · exact ⟨t.down, .down holds.steady _, .outside app holds.steady.down (.inr rfl)⟩
  | shutsDown depth returned =>
    have app := Application.shutDown_brings _ _ holds.app returned
    exact ⟨t.down, .down holds.steady _, .outside app holds.steady.down (.inr rfl)⟩
  | enters =>
    have app := Application.tell_fits .info "Run loop started" [] _ holds.app nofun
    refine ⟨t, .refl holds.steady _, app, holds.steady, holds.up, ?_, ?_⟩
    · rintro _ ⟨⟩ inside
      exact inside.elim
    · rintro _ ⟨⟩ finished
      cases finished
  | turns depth patience returned =>
    have comes := Application.loopStep_comes depth patience holds.app holds.steady holds.up
      (holds.inside _ rfl) (holds.finished _ rfl)
    unfold Application.StepComes at comes
    rw [returned] at comes
    obtain ⟨s, next, app, up, inside, finished⟩ := comes
    refine ⟨s, next, app, next.steady, up, ?_, ?_⟩
    · rintro _ ⟨⟩
      exact inside
    · rintro _ ⟨⟩
      exact finished
  | unwinds depth patience unwound =>
    have comes := Application.loopStep_comes depth patience holds.app holds.steady holds.up
      (holds.inside _ rfl) (holds.finished _ rfl)
    unfold Application.StepComes at comes
    rw [unwound] at comes
    obtain ⟨s, next, app, live⟩ := comes
    exact ⟨s, next, .outside app next.steady (.inl live)⟩
  | ends depth finished returned =>
    have app := Application.conclude_brings _ _ _ holds.app returned
    exact ⟨t.down, .down holds.steady _, .outside app holds.steady.down (.inr rfl)⟩

namespace Moment.Holds

theorem ticks_eq (holds : m.Holds w t) : m.ticks w = t.ticks := by
  show (m.app.ensemble.host.read w.heartbeat.sequence).toNat = t.ticks
  rw [Host.read_of_cell holds.app.ensemble.host.ledger.ticks]
  rfl

theorem seen_eq (holds : m.Holds w t) : m.seen w = t.seen := by
  show (m.app.ensemble.host.read w.monitor.seen).toNat = t.seen
  rw [Host.read_of_cell holds.app.ensemble.host.ledger.seen]
  rfl

theorem last_eq (holds : m.Holds w t) (positive : 0 < t.seen) : m.last w = t.seen := by
  obtain ⟨beat, found, number⟩ := holds.app.ensemble.host.ledger.last positive
  show Monitor.seqOf (m.app.ensemble.host.read w.monitor.last) = t.seen
  rw [Host.read_of_cell found]
  exact number

/-- When the loop takes the task that quits, the monitor has seen all beats. -/
theorem all_seen (holds : m.Holds w t) {task : Task Code}
    (taken : Passage.taken ⟨m, event, after⟩ = some task)
    (quits : t.quitter = some task.sequence) : 0 < w.limit ∧ w.limit ≤ t.seen := by
  obtain ⟨limited, reached⟩ := holds.steady.quitter _ quits
  unfold Passage.taken at taken
  split at taken
  · rename_i loop _ runs
    split at taken
    · rename_i execute
      have fits := holds.app.ensemble.host
      have live := holds.inside loop runs (by rw [execute]; exact trivial)
      obtain ⟨⟨queue, _⟩, begun, rfl⟩ := Option.map_eq_some_iff.1 taken
      have takes := Executor.takes_of_begun? begun
      obtain ⟨rfl, lowest⟩ := fits.marked.lowest queue _
        (takes.perm.subset List.mem_cons_self) quits
      have next := (fits.way live).all_delivered takes lowest
      have published := holds.steady.published
      have heard := holds.steady.next live
      rw [Wiring.published, if_neg (Nat.ne_of_gt limited), Nat.min_eq_right reached] at published
      exact ⟨limited, by omega⟩
    · cases taken
  · cases taken

end Moment.Holds

/-- In an event the monitor sees the next beat or none. -/
theorem Passage.delivered_eq {s : Tally} {posted : Nat} (before : m.Holds w t)
    (next : t.Next w s posted) (holds : after.Holds w s) :
    List.range' 1 t.seen ++ Passage.delivered w ⟨m, event, after⟩ = List.range' 1 s.seen := by
  unfold Passage.delivered
  rw [holds.seen_eq, before.seen_eq]
  rcases next.seen with same | more
  · rw [if_pos same, List.append_nil, same]
  · rw [if_neg (by omega), holds.last_eq (by omega), more, List.range'_1_concat, Nat.add_comm]

theorem Ready.counts {a : Application} (ready : Ready w a) (earliest : Earliest w a.host.methods) :
    a.Fits w (Tally.fresh true) := by
  have foremost := ready.provides.foremost earliest
  have counts := Host.Fits.counts (t := Tally.fresh false) ready.fits.ensemble.host foremost
  exact { ready.fits with ensemble := ready.fits.ensemble.congr counts rfl }

/-- What a run of an application comes to after which the monitor has seen a number of beats. -/
structure InSequence (w : Wiring) (a : Application) (history : List Passage) (last : Moment)
    (k : Nat) : Prop where
  /-- The beats that are delivered have the numbers from one on. -/
  delivered : history.flatMap (Passage.delivered w) = List.range' 1 k
  seen : last.seen w = k
  silent : ∀ entry ∈ last.app.host.journal, ¬ entry.OutOfSequence
  /-- Whoever asks how many beats there were is told so, if nobody answers ahead of the monitor,
  neither at its own priority and since earlier nor at a higher one. -/
  answers : Earliest w a.host.methods →
    (∀ m, last.app.host.methods[w.method]? = some m →
      ∀ p ∈ m.providers, p.1 ≤ priority.medium) →
    ∀ (depth : Nat) (argument : Json),
      Host.call (Code.runWithin (depth + 1)) w.method argument last.app.host =
        (.returned (.ok (.int k)), last.app.host)
  limited : 0 < w.limit → k ≤ w.limit
  /-- When the task that quits at the limit has had its turn, all beats have been delivered. -/
  all : (limitTask w history).taken = true → 0 < w.limit ∧ k = w.limit

/-- What a run has come to. -/
structure Reached (w : Wiring) (history : List Passage) (last : Moment) (t : Tally) : Prop where
  holds : last.Holds w t
  delivered : history.flatMap (Passage.delivered w) = List.range' 1 t.seen
  quitter : (limitTask w history).number = t.quitter
  all : (limitTask w history).taken = true → 0 < w.limit ∧ w.limit ≤ t.seen

theorem Reached.snoc {history : List Passage} {s : Tally} (reached : Reached w history m t)
    (next : t.Next w s after.app.host.executor.posted) (holds : after.Holds w s) :
    Reached w (history ++ [⟨m, event, after⟩]) after s := by
  obtain ⟨before, delivered, quitter, all⟩ := reached
  refine ⟨holds, ?_, ?_, fun taken => ?_⟩
  · rw [List.flatMap_append, List.flatMap_singleton, delivered]
    exact Passage.delivered_eq before next holds
  · rw [limitTask_concat, next.quitter, ← quitter]
    simp only [LimitTask.after, before.ticks_eq, holds.ticks_eq]
  · have grows : t.seen ≤ s.seen := by rcases next.seen with same | more <;> omega
    have seen : 0 < w.limit ∧ w.limit ≤ t.seen := by
      rw [limitTask_concat, LimitTask.after, Bool.or_eq_true, Option.any_eq_true] at taken
      rcases taken with earlier | ⟨task, now, mine⟩
      · exact all earlier
      · exact before.all_seen now (quitter.symm.trans (of_decide_eq_true mine))
    exact ⟨seen.1, Nat.le_trans seen.2 grows⟩

theorem Run.reached {a : Application} {counted : Bool} (fits : a.Fits w (Tally.fresh counted))
    {history : List Passage} {last : Moment} (run : Run w ⟨a, none⟩ history last) :
    ∃ t, Reached w history last t ∧ t.counted = counted := by
  generalize begins : (⟨a, none⟩ : Moment) = start at run
  induction run with
  | nil =>
    rw [← begins]
    have holds := Moment.Holds.outside fits (Tally.steady_fresh w counted) (.inl rfl)
    exact ⟨Tally.fresh counted, ⟨holds, rfl, rfl, nofun⟩, rfl⟩
  | snoc _ step ih =>
    obtain ⟨t, reached, same⟩ := ih
    obtain ⟨s, next, holds⟩ := step.holds reached.holds
    exact ⟨s, reached.snoc next holds, next.counted.trans same⟩

theorem Reached.inSequence {a : Application} {history : List Passage} {last : Moment}
    (reached : Reached w history last t) (counted : Earliest w a.host.methods → t.counted = true) :
    InSequence w a history last t.seen := by
  obtain ⟨holds, delivered, quitter, all⟩ := reached
  have fits := holds.app.ensemble.host
  have limited : 0 < w.limit → t.seen ≤ w.limit := fun positive =>
    Nat.le_trans holds.steady.behind
      (Nat.le_trans (Nat.le_of_eq holds.steady.published) (Wiring.published_le positive))
  refine ⟨delivered, holds.seen_eq, fits.silent, fun earliest => ?_, limited, fun taken => ?_⟩
  · exact Monitor.call_counts fits (counted earliest)
  · obtain ⟨positive, reached⟩ := all taken
    exact ⟨positive, Nat.le_antisymm (limited positive) reached⟩

/-- The beats that come to the monitor are numbered from one on, without a gap or a repetition, as
long as others leave alone what the heartbeat and the monitor keep to themselves. -/
theorem Run.in_sequence {a : Application} (ready : Ready w a) {history : List Passage}
    {last : Moment} (run : Run w ⟨a, none⟩ history last) :
    ∃ k, InSequence w a history last k := by
  by_cases earliest : Earliest w a.host.methods
  · obtain ⟨t, reached, counted⟩ := run.reached (ready.counts earliest)
    exact ⟨t.seen, reached.inSequence fun _ => counted⟩
  · obtain ⟨t, reached, _⟩ := run.reached ready.fits
    exact ⟨t.seen, reached.inSequence fun first => absurd first earliest⟩

/-- A heartbeat of two beats and a monitor that have an application to themselves. -/
def twoBeats : Wiring :=
  { heartbeat := ⟨3, 4, 5, 6⟩, monitor := ⟨0, 1, 2⟩, channel := 0, subscription := 0, method := 0,
    limit := 2 }

def twoBeatsApp : Application :=
  (Application.setUp (Code.runWithin 1) [shortTypeName Monitor.typeName]
    (.ofMembers [(intervalOption.name, .int 5), (limitOption.name, .int 2)])
    (Application.registerType Monitor.typeName
      (.new {} [Heartbeat.type, Monitor.type] [] { reactor := .events {} })).2).2

theorem none_waits (queue : Nat) (task : Task Code) :
    task ∉ (.empty : Executor Code).waiting queue := by
  cases queue with
  | zero => exact List.not_mem_nil
  | succ queue => exact List.not_mem_nil

theorem open_twoBeats : ({ reactor := .events {} } : Host).Open twoBeats where
  queue := by decide
  marked :=
    { numbered := fun queue task member => absurd member (none_waits queue task)
      given := nofun
      lowest := nofun }
  waiting := fun queue task member => absurd member (none_waits queue task)
  channel := .inl ⟨rfl, rfl, rfl⟩
  others := fun number c _ found => nomatch found
  method := .inl ⟨rfl, rfl⟩
  methods := fun _ none => absurd none (Array.not_mem_empty _)
  kept := fun _ none => absurd none List.not_mem_nil
  reactor := ⟨fun _ none => absurd none List.not_mem_nil, fun _ none => absurd none List.not_mem_nil⟩
  silent := fun _ none => absurd none (Array.not_mem_empty _)

theorem ready_twoBeats : Ready twoBeats twoBeatsApp := by
  have apart : Heartbeat.typeName ≠ Monitor.typeName := by decide
  have lacks : (Application.new {} [Heartbeat.type, Monitor.type] []
      { reactor := .events {} }).Lacks twoBeats := by
    refine Application.lacks_new {} ?_ ?_ open_twoBeats ⟨rfl, rfl⟩
    · simp [Catalogue.find?, Heartbeat.type, Monitor.type, apart]
    · simp [Catalogue.find?, Heartbeat.type]
  refine lacks.ready ⟨⟨5, ?_⟩, ?_⟩ 0
  · decide +kernel
  · decide +kernel

def twoBeatsStarted : Application := (Application.start (Code.runWithin 5) twoBeatsApp).2

def twoBeatsHistory : List Passage :=
  [⟨⟨twoBeatsApp, none⟩, .starts, ⟨twoBeatsStarted, none⟩⟩,
    ⟨⟨twoBeatsStarted, none⟩, .enters, ⟨(Application.openLoop twoBeatsStarted).2, some {}⟩⟩] ++
    turns (Code.runWithin 5) 60 60 {} (Application.openLoop twoBeatsStarted).2

/-- The two run on their own, until the monitor has seen both beats. -/
theorem Run.in_sequence_of_two :
    Ready twoBeats twoBeatsApp ∧ ∃ history last,
      Run twoBeats ⟨twoBeatsApp, none⟩ history last ∧
        (limitTask twoBeats history).taken = true ∧
        InSequence twoBeats twoBeatsApp history last 2 := by
  have starts : (Application.start (Code.runWithin 5) twoBeatsApp).1 = .returned (.ok ()) := by
    decide +kernel
  have runs : (Application.run (Code.runWithin 5) 60 twoBeatsStarted).1 = .returned (.ok ()) := by
    decide +kernel
  have started := (Run.nil (w := twoBeats) ⟨twoBeatsApp, none⟩).snoc (.starts 5 starts)
  obtain ⟨finish, run⟩ : ∃ finish, Run twoBeats ⟨twoBeatsApp, none⟩ (twoBeatsHistory ++ [finish])
      ⟨(Application.run (Code.runWithin 5) 60 twoBeatsStarted).2, none⟩ := started.run runs
  have inLoop : (limitTask twoBeats twoBeatsHistory).taken = true := by decide +kernel
  have taken : (limitTask twoBeats (twoBeatsHistory ++ [finish])).taken = true := by
    rw [limitTask_concat, LimitTask.after, Bool.or_eq_true]
    exact .inl inLoop
  obtain ⟨k, sequence⟩ := run.in_sequence ready_twoBeats
  obtain ⟨_, both⟩ := sequence.all taken
  subst both
  exact ⟨ready_twoBeats, _, _, run, taken, sequence⟩

/-- What a run comes to in which the two are joined by a task. -/
def besideTwoBeats (body : Code) : Flow (Except Failure Unit) × Application :=
  Application.run (Code.runWithin 5) 60
    (Application.onHost (Act.modify fun h => (h.post priority.high 0 body).2) twoBeatsStarted).2

def answersAhead : Code :=
  .provide twoBeats.method priority.high (fun _ => .done (.ok (.int 42))) fun _ => .nothing

def changesCount : Code := .ask (.write twoBeats.monitor.seen (.int 7)) fun _ => .nothing

def unsubscribes : Code :=
  .ask (.unsubscribe twoBeats.channel twoBeats.subscription) fun _ => .nothing

/-- A task that runs no task, drops nothing and publishes no beat may come in between all the same:
another number is told than the monitor has seen, or the monitor warns, or it sees no beat at all
though both have been published. -/
theorem not_in_sequence_beside :
    Ready twoBeats twoBeatsApp ∧
    ((besideTwoBeats answersAhead).1 = .returned (.ok ()) ∧
      Monitor.seenSoFar (Monitor.plugin twoBeats.monitor) (besideTwoBeats answersAhead).2.host = 2 ∧
      (Host.call (Code.runWithin 5) twoBeats.method .null
        (besideTwoBeats answersAhead).2.host).1.map (Except.map Json.toNat) =
          .returned (.ok 42)) ∧
    ((besideTwoBeats changesCount).1 = .returned (.ok ()) ∧
      .event (Origin.monitor.event .warn "Heartbeat out of sequence"
        [("expected", .number 8), ("got", .number 1)]) ∈
          (besideTwoBeats changesCount).2.host.journal) ∧
    (besideTwoBeats unsubscribes).1 = .returned (.ok ()) ∧
      Monitor.seenSoFar (Monitor.plugin twoBeats.monitor) (besideTwoBeats unsubscribes).2.host = 0 ∧
      ((besideTwoBeats unsubscribes).2.host.read twoBeats.heartbeat.sequence).toNat = 2 := by
  refine ⟨ready_twoBeats, ?_⟩
  decide +kernel

end PluginHost.Heartbeat
