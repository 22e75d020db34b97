import PluginHost.Application.RunLoop

/-!
The run loop and the parties beside it, step by step. A party is anybody who holds the host: another
thread, a completion on the reactor, or the very task that the loop runs. Whoever changes what the
loop looks at wakes it afterwards, in a step of its own, and everybody else may go on in between.
-/

set_option autoImplicit false

namespace PluginHost

/-- What the run loop shares with everybody else. -/
structure Common where
  executor : Executor Code := .empty
  control : Control := {}
  wake : Wake := {}

def Host.common (h : Host) : Common := ⟨h.executor, h.control, h.wake⟩

/-- A change that the loop is woken for afterwards. -/
inductive Change where
  | post (priority : Int) (queue : Nat) (body : Code)
  | quit
  | requestReload

/-- What a change leaves, if it can be made. -/
def Change.make? : Change → Common → Option Common
  | .post priority queue body, c =>
    (c.executor.post? priority queue body).map fun executor => { c with executor := executor }
  | .quit, c => some { c with control := c.control.quit }
  | .requestReload, c => some { c with control := c.control.requestReload }

/-- What is done without waking the loop. -/
inductive Deed where
  | setPolicy (policy : Policy)
  | addQueue
  | clear
  /-- Takes a task out of a queue, to run it. -/
  | take (queue : Nat)
  | takeReload

def Deed.make : Deed → Common → Common
  | .setPolicy policy, c => { c with executor := c.executor.setPolicy policy }
  | .addQueue, c => { c with executor := c.executor.addQueue }
  | .clear, c => { c with executor := c.executor.clear }
  | .take queue, c =>
    match c.executor.take? queue with
    | some (_, rest) => { c with executor := rest }
    | none => c
  | .takeReload, c => { c with control := c.control.takeReload.2 }

def Common.rouse (c : Common) : Common := { c with wake := c.wake.wake }

namespace RunLoop

/-- Where the loop stands. -/
inductive Stage where
  /-- Before what a phase says. -/
  | before (phase : Phase)
  /-- It answers a request to reload. -/
  | reloading
  /-- It runs a task. -/
  | running (hint : Bool)
  /-- The task is done, and the loop has yet to look whether there is more to do. -/
  | measuring (hint : Bool)
  /-- The task has failed. -/
  | failing
  /-- The loop has asked itself to quit, and has yet to wake itself. -/
  | rousing
  /-- Nobody had asked to quit, and the loop is about to wait. -/
  | parking
  /-- The loop waits, or has been woken and not gone on yet. -/
  | parked

/-- Where the loop goes when it knows whether there is more to do. -/
def Stage.next (more : Bool) : Stage := .before (if more then .check else .rest)

/-- What a move of the loop sets off. -/
inductive Sign where
  | begins (task : Task Code)
  | reloads
  | nothing

/-- One move of the loop. -/
inductive Move : Common → Stage → Sign → Common → Stage → Prop
  | leave {c : Common} (quitting : c.control.quitting = true) :
      Move c (.before .check) .nothing c (.before .finished)
  | stay {c : Common} (quitting : c.control.quitting = false) :
      Move c (.before .check) .nothing c (.before .attend)
  | reload {c : Common} (asked : c.control.reload = true) :
      Move c (.before .attend) .reloads { c with control := c.control.takeReload.2 } .reloading
  | unasked {c : Common} (asked : c.control.reload = false) :
      Move c (.before .attend) .nothing c (.before .poll)
  | reloaded {c : Common} : Move c .reloading .nothing c (.before .poll)
  | polled {c : Common} : Move c (.before .poll) .nothing c (.before .execute)
  | begin {c : Common} {selection : Selection} {task : Task Code} {rest : Executor Code}
      {hint : Bool}
      (selected : (c.executor.policy.select c.executor.views).selection = .ok selection)
      (taken : c.executor.follow selection = .task task rest hint) :
      Move c (.before .execute) (.begins task) { c with executor := rest } (.running hint)
  | idle {c : Common} {selection : Selection}
      (selected : (c.executor.policy.select c.executor.views).selection = .ok selection)
      (none : ∀ task rest hint, c.executor.follow selection ≠ .task task rest hint) :
      Move c (.before .execute) .nothing c (.next selection.more)
  | ran {c : Common} {hint : Bool} : Move c (.running hint) .nothing c (.measuring hint)
  | measured {c : Common} {hint : Bool} :
      Move c (.measuring hint) .nothing c (.next (c.executor.more hint))
  | failed {c : Common} {hint : Bool} : Move c (.running hint) .nothing c .failing
  | quits {c : Common} :
      Move c .failing .nothing { c with control := c.control.quit } .rousing
  | rouses {c : Common} : Move c .rousing .nothing c.rouse (.before .check)
  | skip {c : Common} (quitting : c.control.quitting = true) :
      Move c (.before .rest) .nothing c (.before .check)
  | park {c : Common} (quitting : c.control.quitting = false) :
      Move c (.before .rest) .nothing c .parking
  /-- A stored wake-up is used up, and there is no wait. -/
  | pass {c : Common} (stored : c.wake.stored = true) :
      Move c .parking .nothing { c with wake := c.wake.wait } (.before .check)
  | wait {c : Common} (stored : c.wake.stored = false) :
      Move c .parking .nothing { c with wake := c.wake.wait } .parked
  /-- A reactor need not wait. -/
  | early {c : Common} : Move c .parking .nothing c (.before .check)
  | resume {c : Common} (woken : c.wake.waiting = false) :
      Move c .parked .nothing c (.before .check)

/-- The loop and what it shares, and who has yet to wake it after a change. -/
structure Scene (Party : Type) where
  common : Common
  stage : Stage
  owes : Party → Prop

/-- What happens in one step. -/
inductive Happening (Party : Type) where
  | changes (party : Party) (change : Change)
  | wakes (party : Party)
  | does (party : Party) (deed : Deed)
  | moves (sign : Sign)

variable {Party : Type}

inductive Step : Scene Party → Happening Party → Scene Party → Prop
  | changes {s : Scene Party} {party : Party} {change : Change} {c : Common}
      (free : ¬ s.owes party) (made : change.make? s.common = some c) :
      Step s (.changes party change)
        { s with common := c, owes := fun p => p = party ∨ s.owes p }
  | wakes {s : Scene Party} {party : Party} :
      Step s (.wakes party)
        { s with common := s.common.rouse, owes := fun p => p ≠ party ∧ s.owes p }
  | does {s : Scene Party} {party : Party} {deed : Deed} (free : ¬ s.owes party) :
      Step s (.does party deed) { s with common := deed.make s.common }
  | moves {s : Scene Party} {sign : Sign} {c : Common} {stage : Stage}
      (move : Move s.common s.stage sign c stage) :
      Step s (.moves sign) { s with common := c, stage := stage }

structure Transition (Party : Type) where
  before : Scene Party
  happening : Happening Party
  after : Scene Party

inductive Run : Scene Party → List (Transition Party) → Scene Party → Prop
  | nil (s : Scene Party) : Run s [] s
  | snoc {start s after : Scene Party} {history : List (Transition Party)}
      {happening : Happening Party} (run : Run start history s) (step : Step s happening after) :
      Run start (history ++ [⟨s, happening, after⟩]) after

namespace Run

variable {start middle s : Scene Party} {history later : List (Transition Party)}

theorem append (run : Run start history middle) (others : Run middle later s) :
    Run start (history ++ later) s := by
  induction others with
  | nil => rwa [List.append_nil]
  | snoc _ step ih =>
    rw [← List.append_assoc]
    exact .snoc ih step

/-- What every step keeps holds along a run. -/
theorem keeps {P : Scene Party → Prop}
    (kept : ∀ s happening after, Step s happening after → P s → P after)
    (run : Run start history s) (holds : P start) :
    P s ∧ ∀ t ∈ history, P t.before ∧ P t.after := by
  induction run with
  | nil => exact ⟨holds, fun _ none => absurd none List.not_mem_nil⟩
  | snoc _ step ih =>
    obtain ⟨here, earlier⟩ := ih
    have next := kept _ _ _ step here
    exact ⟨next, List.forall_mem_append.2 ⟨earlier, List.forall_mem_singleton.2 ⟨here, next⟩⟩⟩

theorem steps (run : Run start history s) :
    ∀ t ∈ history, Step t.before t.happening t.after := by
  induction run with
  | nil => exact fun _ none => absurd none List.not_mem_nil
  | snoc _ step ih => exact List.forall_mem_append.2 ⟨ih, List.forall_mem_singleton.2 step⟩

end Run

/-- One scene comes of another one by steps of some kind. -/
def Reaches (P : Happening Party → Prop) (s after : Scene Party) : Prop :=
  ∃ history, Run s history after ∧ ∀ t ∈ history, P t.happening

namespace Reaches

variable {P Q : Happening Party → Prop} {s middle after : Scene Party}

theorem refl (s : Scene Party) : Reaches P s s :=
  ⟨[], .nil s, fun _ none => absurd none List.not_mem_nil⟩

theorem step {happening : Happening Party} (reaches : Reaches P s middle)
    (step : Step middle happening after) (kind : P happening) : Reaches P s after := by
  obtain ⟨history, run, all⟩ := reaches
  exact ⟨_, run.snoc step, List.forall_mem_append.2 ⟨all, List.forall_mem_singleton.2 kind⟩⟩

theorem trans (reaches : Reaches P s middle) (others : Reaches P middle after) :
    Reaches P s after := by
  obtain ⟨history, run, all⟩ := reaches
  obtain ⟨later, runs, allLater⟩ := others
  exact ⟨_, run.append runs, List.forall_mem_append.2 ⟨all, allLater⟩⟩

theorem imp (reaches : Reaches P s after) (weaker : ∀ happening, P happening → Q happening) :
    Reaches Q s after := by
  obtain ⟨history, run, all⟩ := reaches
  exact ⟨history, run, fun t member => weaker _ (all t member)⟩

end Reaches

def Happening.OfLoop : Happening Party → Prop
  | .moves _ => True
  | _ => False

/-- The loop goes on by a move. -/
theorem Reaches.move {start : Scene Party} {c after : Common} {stage next : Stage} {sign : Sign}
    {owes : Party → Prop} (reaches : Reaches Happening.OfLoop start ⟨c, stage, owes⟩)
    (move : Move c stage sign after next) :
    Reaches Happening.OfLoop start ⟨after, next, owes⟩ :=
  reaches.step (.moves move) trivial

end RunLoop

end PluginHost
