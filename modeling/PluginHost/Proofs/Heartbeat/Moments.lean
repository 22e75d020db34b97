import PluginHost.Application.RunLoop
import PluginHost.Proofs.Executor.Calls
import PluginHost.Proofs.Heartbeat.Foreign
import PluginHost.Proofs.Leads

set_option autoImplicit false

namespace PluginHost.Heartbeat

variable {w : Wiring}

/-- An application at a moment, and the run loop if the application is being run. -/
structure Moment where
  app : Application
  loop : Option RunLoop := none

namespace Moment

def ticks (w : Wiring) (m : Moment) : Nat := (m.app.host.read w.heartbeat.sequence).toNat

def seen (w : Wiring) (m : Moment) : Nat :=
  Monitor.seenSoFar (Monitor.plugin w.monitor) m.app.host

def last (w : Wiring) (m : Moment) : Nat :=
  Monitor.seqOf (Monitor.lastSeen (Monitor.plugin w.monitor) m.app.host)

end Moment

/-- What happens in the life of an application. -/
inductive Event where
  /-- Others run code. -/
  | others
  | setsUp
  | starts
  | shutsDown
  | enters
  /-- The loop takes a step. -/
  | turns
  /-- A panic ends the run. -/
  | unwinds
  | ends

/-- Others go on at any time, and so do the calls that the application gets and the loop. -/
inductive Step (w : Wiring) : Moment → Event → Moment → Prop
  | others {m : Moment} (depth : Nat) {code : Code} (foreign : code.Foreign w)
      (ended : (Application.onHost (Code.runWithin depth code) m.app).1 ≠ .stalled) :
      Step w m .others ⟨(Application.onHost (Code.runWithin depth code) m.app).2, m.loop⟩
  | setsUp {a : Application} (depth : Nat) (names : List String) (options : Options)
      (ended : (Application.setUp (Code.runWithin depth) names options a).1 ≠ .stalled) :
      Step w ⟨a, none⟩ .setsUp
        ⟨(Application.setUp (Code.runWithin depth) names options a).2, none⟩
  | starts {a : Application} (depth : Nat) {result : Except Failure Unit}
      (returned : (Application.start (Code.runWithin depth) a).1 = .returned result) :
      Step w ⟨a, none⟩ .starts ⟨(Application.start (Code.runWithin depth) a).2, none⟩
  | shutsDown {a : Application} (depth : Nat) {result : Except Failure Unit}
      (returned : (Application.shutDown (Code.runWithin depth) a).1 = .returned result) :
      Step w ⟨a, none⟩ .shutsDown ⟨(Application.shutDown (Code.runWithin depth) a).2, none⟩
  | enters {a : Application} : Step w ⟨a, none⟩ .enters ⟨(Application.openLoop a).2, some {}⟩
  | turns {a : Application} {loop next : RunLoop} (depth patience : Nat)
      (returned :
        (Application.loopStep (Code.runWithin depth) patience loop a).1 = .returned next) :
      Step w ⟨a, some loop⟩ .turns
        ⟨(Application.loopStep (Code.runWithin depth) patience loop a).2, some next⟩
  | unwinds {a : Application} {loop : RunLoop} (depth patience : Nat) {payload : PanicPayload}
      (unwound : (Application.loopStep (Code.runWithin depth) patience loop a).1 =
        .unwound payload) :
      Step w ⟨a, some loop⟩ .unwinds
        ⟨(Application.loopStep (Code.runWithin depth) patience loop a).2, none⟩
  | ends {a : Application} {loop : RunLoop} (depth : Nat) {result : Except Failure Unit}
      (finished : loop.phase = .finished)
      (returned : (Application.conclude (Code.runWithin depth) loop a).1 = .returned result) :
      Step w ⟨a, some loop⟩ .ends ⟨(Application.conclude (Code.runWithin depth) loop a).2, none⟩

structure Passage where
  before : Moment
  event : Event
  after : Moment

namespace Passage

/-- The numbers of the beats that are delivered to the monitor meanwhile. -/
def delivered (w : Wiring) (p : Passage) : List Nat :=
  if p.after.seen w = p.before.seen w then [] else [p.after.last w]

def taken (p : Passage) : Option (Task Code) :=
  match p.event, p.before.loop with
  | .turns, some loop =>
    if loop.phase = .execute then
      (Executor.Call.begin.make p.before.app.host.executor).1.begun?.map Placed.task
    else none
  | _, _ => none

end Passage

/-- What is known of the task that quits at the limit. -/
structure LimitTask where
  /-- The number that it got when it was posted. -/
  number : Option Nat := none
  /-- The loop has taken it. -/
  taken : Bool := false

/-- When the ticks reach the limit, it is the last task that has been posted. -/
def LimitTask.after (w : Wiring) (known : LimitTask) (p : Passage) : LimitTask where
  number := if p.before.ticks w < w.limit ∧ w.limit ≤ p.after.ticks w then
      some (p.after.app.host.executor.posted - 1)
    else known.number
  taken := known.taken || p.taken.any fun task => known.number = some task.sequence

/-- What a history tells of the task that quits at the limit. -/
def limitTask (w : Wiring) (history : List Passage) : LimitTask :=
  history.foldl (LimitTask.after w) {}

theorem limitTask_concat (w : Wiring) (history : List Passage) (p : Passage) :
    limitTask w (history ++ [p]) = (limitTask w history).after w p := by
  simp only [limitTask, List.foldl_append, List.foldl_cons, List.foldl_nil]

inductive Run (w : Wiring) : Moment → List Passage → Moment → Prop
  | nil (m : Moment) : Run w m [] m
  | snoc {start m after : Moment} {history : List Passage} {event : Event}
      (run : Run w start history m) (step : Step w m event after) :
      Run w start (history ++ [⟨m, event, after⟩]) after

/-- What the loop does from any phase to its end, or in a number of steps. -/
def turns (dispatch : Dispatch) (patience : Nat) : Nat → RunLoop → Application → List Passage
  | 0, _, _ => []
  | steps + 1, loop, a =>
    if loop.phase = .finished then []
    else
      match Application.loopStep dispatch patience loop a with
      | (.returned next, b) =>
        ⟨⟨a, some loop⟩, .turns, ⟨b, some next⟩⟩ :: turns dispatch patience steps next b
      | _ => []

theorem Run.loopSteps {depth patience steps : Nat} {start : Moment} {history : List Passage}
    {a : Application} {loop last : RunLoop} (run : Run w start history ⟨a, some loop⟩)
    (returned : (Application.loopSteps (Code.runWithin depth) patience steps loop a).1 =
      .returned last) :
    Run w start (history ++ turns (Code.runWithin depth) patience steps loop a)
        ⟨(Application.loopSteps (Code.runWithin depth) patience steps loop a).2, some last⟩ ∧
      last.phase = .finished := by
  induction steps generalizing history a loop with
  | zero => cases returned
  | succ steps ih =>
    unfold Application.loopSteps at returned ⊢
    unfold turns
    split at returned
    · rename_i finished
      simp only [finished, if_true, List.append_nil] at returned ⊢
      cases returned
      exact ⟨run, finished⟩
    · rename_i unfinished
      simp only [unfinished, if_false]
      obtain ⟨next, stepped, same⟩ := Act.returned_of_bind returned
      rw [same] at returned ⊢
      have goes := ih (run.snoc (.turns depth patience stepped)) returned
      generalize out : Application.loopStep (Code.runWithin depth) patience loop a = x
        at stepped goes ⊢
      obtain ⟨flow, b⟩ := x
      cases stepped
      rwa [List.append_assoc] at goes

/-- A run of an application that returns is a history. -/
theorem Run.run {depth patience : Nat} {b : Application} {history : List Passage}
    {a : Application} {result : Except Failure Unit} (run : Run w ⟨b, none⟩ history ⟨a, none⟩)
    (returned : (Application.run (Code.runWithin depth) patience a).1 = .returned result) :
    ∃ finish : Passage, Run w ⟨b, none⟩
      (history ++ [⟨⟨a, none⟩, .enters, ⟨(Application.openLoop a).2, some {}⟩⟩] ++
        turns (Code.runWithin depth) patience patience {} (Application.openLoop a).2 ++ [finish])
      ⟨(Application.run (Code.runWithin depth) patience a).2, none⟩ := by
  unfold Application.run at returned ⊢
  obtain ⟨opened, came, same⟩ := Act.returned_of_bind returned
  cases came
  rw [same] at returned ⊢
  obtain ⟨last, stepped, same⟩ := Act.returned_of_bind returned
  rw [same] at returned ⊢
  obtain ⟨goes, finished⟩ := (run.snoc .enters).loopSteps stepped
  exact ⟨_, goes.snoc (.ends depth finished returned)⟩

end PluginHost.Heartbeat
