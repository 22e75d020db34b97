import PluginHost.Proofs.Executor.Conservation
import PluginHost.Proofs.Executor.Work
import PluginHost.Proofs.RunLoop.Parties

/-!
A quit is a hard drain. The loop looks at the quit flag once in each turn, before it answers a
request to reload, polls the reactor and runs a task. So a flag that is set while the loop is on
that way may come too late for one task, and a flag that is set anywhere else comes in time for all
of them. What has not begun when the loop ends is dropped.
-/

set_option autoImplicit false

namespace PluginHost

def Change.posted : Change → Executor Code → List (Task Code)
  | .post priority _ body, e => [⟨priority, e.posted, body⟩]
  | _, _ => []

def Deed.dropped : Deed → Executor Code → List (Task Code)
  | .clear, e => e.tasks
  | _, _ => []

theorem Change.tasks {change : Change} {c after : Common} (made : change.make? c = some after) :
    after.executor.tasks.Perm (change.posted c.executor ++ c.executor.tasks) := by
  cases change with
  | post priority queue body =>
    obtain ⟨executor, posted, rfl⟩ := Option.map_eq_some_iff.1 made
    exact Executor.tasks_post? posted
  | quit | requestReload =>
    cases made
    exact .refl _

theorem Deed.tasks {deed : Deed} (c : Common) (stays : ∀ queue, deed ≠ .take queue) :
    (deed.dropped c.executor ++ (deed.make c).executor.tasks).Perm c.executor.tasks := by
  cases deed with
  | setPolicy | takeReload => exact .refl _
  | addQueue => exact .of_eq (Executor.tasks_addQueue _)
  | clear =>
    rw [make, Executor.tasks_clear, List.append_nil]
    exact .refl _
  | take queue => exact absurd rfl (stays queue)

/-- Nothing that is done takes a request to quit back. -/
theorem Deed.quitting_make (deed : Deed) (c : Common) :
    (deed.make c).control.quitting = c.control.quitting := by
  cases deed with
  | take queue =>
    simp only [make]
    cases c.executor.take? queue <;> rfl
  | _ => rfl

theorem Change.quitting_make? {change : Change} {c after : Common}
    (made : change.make? c = some after) (quitting : c.control.quitting = true) :
    after.control.quitting = true := by
  cases change with
  | post priority queue body =>
    obtain ⟨_, _, rfl⟩ := Option.map_eq_some_iff.1 made
    exact quitting
  | quit =>
    cases made
    rfl
  | requestReload =>
    cases made
    exact quitting

namespace RunLoop

variable {Party : Type}

def Sign.begun : Sign → List (Task Code)
  | .begins task => [task]
  | _ => []

theorem Move.tasks {c after : Common} {stage next : Stage} {sign : Sign}
    (move : Move c stage sign after next) :
    (sign.begun ++ after.executor.tasks).Perm c.executor.tasks := by
  cases move with
  | begin _ taken =>
    obtain ⟨queue, took⟩ := Executor.follow_eq_task taken
    exact (Executor.take?_perm took).1
  | _ => exact .refl _

theorem Move.quitting {c after : Common} {stage next : Stage} {sign : Sign}
    (move : Move c stage sign after next) (quitting : c.control.quitting = true) :
    after.control.quitting = true := by
  cases move with
  | quits => rfl
  | _ => exact quitting

/-- The loop asks itself to quit only when a task has failed. -/
theorem Move.quits_of_set {c after : Common} {stage next : Stage} {sign : Sign}
    (move : Move c stage sign after next) (unset : c.control.quitting = false)
    (set : after.control.quitting = true) : stage = .failing ∧ next = .rousing := by
  cases move with
  | quits => exact ⟨rfl, rfl⟩
  | _ =>
    rw [show c.control.quitting = true from set] at unset
    cases unset

/-- How many tasks the loop may still begin before it looks at the quit flag. -/
def Stage.chances : Stage → Nat
  | .before .attend | .reloading | .before .poll | .before .execute => 1
  | _ => 0

theorem Stage.chances_le (stage : Stage) : stage.chances ≤ 1 := by
  unfold chances
  split <;> omega

theorem Stage.chances_next (more : Bool) : (Stage.next more).chances = 0 := by
  cases more <;> rfl

/-- When somebody has asked to quit, a task that begins uses up the only chance. -/
theorem Move.chances {c after : Common} {stage next : Stage} {sign : Sign}
    (move : Move c stage sign after next) (quitting : c.control.quitting = true) :
    sign.begun.length + next.chances ≤ stage.chances := by
  cases move with
  | stay unset | park unset =>
    rw [quitting] at unset
    cases unset
  | idle | measured =>
    rw [Stage.chances_next]
    exact Nat.zero_le _
  | _ => exact Nat.le_refl _

/-- How many moves the loop makes at most when somebody has asked to quit. -/
def Stage.ahead : Stage → Nat
  | .before .attend => 8
  | .reloading => 7
  | .before .poll => 6
  | .before .execute => 5
  | .running _ => 4
  | .measuring _ | .failing | .parking => 3
  | .rousing | .before .rest | .parked => 2
  | .before .check => 1
  | .before .finished => 0

theorem Stage.ahead_le (stage : Stage) : stage.ahead ≤ 8 := by
  unfold ahead
  split <;> omega

theorem Stage.ahead_next (more : Bool) : (Stage.next more).ahead ≤ 2 := by
  cases more <;> decide

theorem Move.ahead {c after : Common} {stage next : Stage} {sign : Sign}
    (move : Move c stage sign after next) (quitting : c.control.quitting = true) :
    next.ahead < stage.ahead := by
  cases move with
  | stay unset | park unset =>
    rw [quitting] at unset
    cases unset
  | idle | measured => exact Nat.lt_of_le_of_lt (Stage.ahead_next _) (by simp [Stage.ahead])
  | _ => simp [Stage.ahead]

/-- The run loop of an application and the parties beside it, whether it is run or not. -/
structure Life (Party : Type) where
  scene : Scene Party
  /-- The application is being run. -/
  running : Bool

inductive Event (Party : Type) where
  | happens (happening : Happening Party)
  | enters
  /-- The loop is over, and what waits is dropped. -/
  | drains
  /-- A panic ends the run. -/
  | unwinds

/-- Somebody beside the loop takes a task, to run it. -/
def Event.Takes : Event Party → Prop
  | .happens (.does _ (.take _)) => True
  | _ => False

def Event.isMove : Event Party → Bool
  | .happens (.moves _) => true
  | _ => false

namespace Life

def quitting (l : Life Party) : Bool := l.scene.common.control.quitting

def executor (l : Life Party) : Executor Code := l.scene.common.executor

/-- How many tasks may still begin before the loop looks at the quit flag. -/
def chances (l : Life Party) : Nat := if l.running then l.scene.stage.chances else 0

theorem chances_le (l : Life Party) : l.chances ≤ 1 := by
  unfold chances
  split
  · exact l.scene.stage.chances_le
  · exact Nat.zero_le _

/-- Parties go on at any time, and the loop when the application is run. It may be run again. -/
inductive Step : Life Party → Event Party → Life Party → Prop
  | happens {l : Life Party} {happening : Happening Party} {scene : Scene Party}
      (step : RunLoop.Step l.scene happening scene)
      (inside : happening.OfLoop → l.running = true) :
      Step l (.happens happening) { l with scene := scene }
  | enters {l : Life Party} (outside : l.running = false) :
      Step l .enters ⟨{ l.scene with stage := .before .check }, true⟩
  | drains {l : Life Party} (inside : l.running = true)
      (ended : l.scene.stage = .before .finished) :
      Step l .drains ⟨{ l.scene with common := Deed.clear.make l.scene.common }, false⟩
  | unwinds {l : Life Party} (inside : l.running = true) :
      Step l .unwinds { l with running := false }

structure Passage (Party : Type) where
  before : Life Party
  event : Event Party
  after : Life Party

namespace Passage

def begun (p : Passage Party) : List (Task Code) :=
  match p.event with
  | .happens (.moves sign) => sign.begun
  | _ => []

def posted (p : Passage Party) : List (Task Code) :=
  match p.event with
  | .happens (.changes _ change) => change.posted p.before.executor
  | _ => []

def dropped (p : Passage Party) : List (Task Code) :=
  match p.event with
  | .happens (.does _ deed) => deed.dropped p.before.executor
  | .drains => p.before.executor.tasks
  | _ => []

end Passage

inductive Run : Life Party → List (Passage Party) → Life Party → Prop
  | nil (l : Life Party) : Run l [] l
  | snoc {start l after : Life Party} {history : List (Passage Party)} {event : Event Party}
      (run : Run start history l) (step : Step l event after) :
      Run start (history ++ [⟨l, event, after⟩]) after

variable {l after : Life Party} {event : Event Party}

theorem Step.quitting (step : Step l event after) (quitting : l.quitting = true) :
    after.quitting = true := by
  cases step with
  | happens step _ =>
    cases step with
    | changes _ made => exact Change.quitting_make? made quitting
    | wakes => exact quitting
    | does _ => exact (Deed.quitting_make _ _).trans quitting
    | moves move => exact move.quitting quitting
  | enters | drains | unwinds => exact quitting

theorem Step.chances (step : Step l event after) (quitting : l.quitting = true) :
    (Passage.begun ⟨l, event, after⟩).length + after.chances ≤ l.chances := by
  cases step with
  | happens step inside =>
    cases step with
    | changes | wakes | does => exact Nat.le_of_eq (Nat.zero_add _)
    | moves move =>
      simp only [Life.chances, inside trivial, if_true]
      exact move.chances quitting
  | enters | drains | unwinds => exact Nat.zero_le _

/-- No task is lost: what waited or is posted begins, is dropped, or waits. -/
theorem Step.tasks (step : Step l event after) (alone : ¬ event.Takes) :
    (Passage.begun ⟨l, event, after⟩ ++ (Passage.dropped ⟨l, event, after⟩ ++
      after.executor.tasks)).Perm
      (Passage.posted ⟨l, event, after⟩ ++ l.executor.tasks) := by
  cases step with
  | happens step _ =>
    cases step with
    | changes _ made => exact Change.tasks made
    | wakes => exact .refl _
    | does _ =>
      refine Deed.tasks _ ?_
      rintro queue rfl
      exact alone trivial
    | moves move => exact move.tasks
  | enters | unwinds => exact .refl _
  | drains =>
    have stays : ∀ queue, Deed.clear ≠ .take queue := fun _ => nofun
    exact Deed.tasks _ stays

/-- Whoever asks to quit leaves the loop where it is, unless it is the loop itself, when a task has
failed. -/
theorem Step.chances_of_quit (step : Step l event after) (unset : l.quitting = false)
    (set : after.quitting = true) : after.chances ≤ l.chances := by
  cases step with
  | happens step inside =>
    cases step with
    | changes | wakes | does => exact Nat.le_refl _
    | moves move =>
      simp only [Life.chances, (move.quits_of_set unset set).2]
      split <;> exact Nat.zero_le _
  | enters | drains | unwinds =>
    rw [show l.quitting = true from set] at unset
    cases unset

theorem Step.ahead (step : Step l event after) (quitting : l.quitting = true)
    (other : event ≠ .enters) :
    (if event.isMove then 1 else 0) + after.scene.stage.ahead ≤ l.scene.stage.ahead := by
  cases step with
  | happens step _ =>
    cases step with
    | changes | wakes | does => exact Nat.le_of_eq (Nat.zero_add _)
    | moves move =>
      have fewer := move.ahead quitting
      simp only [Event.isMove, if_true]
      omega
  | enters => exact absurd rfl other
  | drains | unwinds => exact Nat.le_of_eq (Nat.zero_add _)

theorem Step.nothing_left (step : Step l .drains after) : after.executor.tasks = [] := by
  cases step
  exact Executor.tasks_clear _

section Runs

variable {start l after : Life Party} {history : List (Passage Party)}

theorem Run.steps (run : Run start history after) :
    ∀ p ∈ history, Step p.before p.event p.after := by
  induction run with
  | nil => exact fun _ none => absurd none List.not_mem_nil
  | snoc _ step ih => exact List.forall_mem_append.2 ⟨ih, List.forall_mem_singleton.2 step⟩

theorem Run.quitting (run : Run start history after) (quitting : start.quitting = true) :
    after.quitting = true ∧ ∀ p ∈ history, p.after.quitting = true := by
  induction run with
  | nil => exact ⟨quitting, fun _ none => absurd none List.not_mem_nil⟩
  | snoc _ step ih =>
    have next := step.quitting ih.1
    exact ⟨next, List.forall_mem_append.2 ⟨ih.2, List.forall_mem_singleton.2 next⟩⟩

/-- Along a run in which somebody has asked to quit, no more begins than there are chances. -/
theorem Run.chances (run : Run start history after) (quitting : start.quitting = true) :
    (history.flatMap Passage.begun).length + after.chances ≤ start.chances := by
  induction run with
  | nil => exact Nat.le_of_eq (Nat.zero_add _)
  | snoc run step ih =>
    have last := step.chances (run.quitting quitting).1
    simp only [List.flatMap_append, List.flatMap_singleton, List.length_append]
    omega

theorem Run.tasks (run : Run start history after) (alone : ∀ p ∈ history, ¬ p.event.Takes) :
    (history.flatMap Passage.begun ++ (history.flatMap Passage.dropped ++
      after.executor.tasks)).Perm
      (history.flatMap Passage.posted ++ start.executor.tasks) := by
  induction run with
  | nil => exact .refl _
  | snoc run step ih =>
    have earlier := ih fun p member => alone p (List.mem_append_left _ member)
    have last := step.tasks (alone _ List.mem_concat_self)
    simp only [List.flatMap_append, List.flatMap_singleton]
    exact Executor.perm_of_stretches earlier last

/-- Unless it is entered again, the loop soon comes to its end. -/
theorem Run.moves (run : Run start history after) (quitting : start.quitting = true)
    (once : ∀ p ∈ history, p.event ≠ .enters) :
    history.countP (fun p => p.event.isMove) + after.scene.stage.ahead ≤
      start.scene.stage.ahead := by
  induction run with
  | nil => exact Nat.le_of_eq (Nat.zero_add _)
  | snoc run step ih =>
    have earlier := ih fun p member => once p (List.mem_append_left _ member)
    have last := step.ahead (run.quitting quitting).1 (once _ List.mem_concat_self)
    simp only [List.countP_append, List.countP_singleton]
    omega

/-- What comes after a request to quit, which was made when things stood in one way and left them
in another. -/
structure Drained (asked start : Life Party) (later : List (Passage Party)) (last : Life Party) :
    Prop where
  /-- The request stands for good. -/
  stands : last.quitting = true ∧ ∀ p ∈ later, p.after.quitting = true
  atMostOne : (later.flatMap Passage.begun).length ≤ 1
  /-- Nothing begins if a task asked, or anybody while a task ran. -/
  byTask : ∀ hint, asked.scene.stage = .running hint → later.flatMap Passage.begun = []
  byFailure : asked.scene.stage = .failing → later.flatMap Passage.begun = []
  /-- Nothing begins if somebody asked before the application was run. -/
  early : asked.running = false → later.flatMap Passage.begun = []
  /-- Every other task that waited or was posted later is dropped, if it does not still wait. -/
  others : (later.flatMap Passage.begun ++ (later.flatMap Passage.dropped ++
    last.executor.tasks)).Perm (later.flatMap Passage.posted ++ start.executor.tasks)
  /-- Whenever a run comes to its end nothing is left to wait. -/
  nothingLeft : ∀ p ∈ later, p.event = .drains → p.after.executor.tasks = []
  /-- And it comes to its end, for the loop has only so many moves. -/
  ends : (∀ p ∈ later, p.event ≠ .enters) → later.countP (fun p => p.event.isMove) ≤ 8

theorem Run.drained {asked : Life Party} (step : Step asked event start)
    (unset : asked.quitting = false) (set : start.quitting = true)
    (run : Run start history after) (alone : ∀ p ∈ history, ¬ p.event.Takes) :
    Drained asked start history after := by
  have chances := run.chances set
  have before := step.chances_of_quit unset set
  have none : asked.chances = 0 → history.flatMap Passage.begun = [] := fun zero =>
    List.eq_nil_of_length_eq_zero (by omega)
  refine ⟨run.quitting set, ?_, ?_, ?_, ?_, run.tasks alone, ?_, ?_⟩
  · have most := asked.chances_le
    omega
  · intro hint stage
    exact none (by simp only [Life.chances, stage, Stage.chances, ite_self])
  · intro stage
    exact none (by simp only [Life.chances, stage, Stage.chances, ite_self])
  · intro outside
    exact none (by simp only [Life.chances, outside, Bool.false_eq_true, if_false])
  · intro p member drains
    have step := run.steps p member
    rw [drains] at step
    exact step.nothing_left
  · intro once
    have moves := run.moves set once
    have most := start.scene.stage.ahead_le
    omega

/-- Two tasks wait, and a party asks to quit when the loop has looked at the quit flag and is about
to look for a task. The one task begins, and fails. The other one is dropped. -/
theorem Run.drained_of_two :
    ∃ one two : Executor Code,
      (Executor.empty : Executor Code).post? 50 0 .nothing = some one ∧
      one.post? 50 0 .nothing = some two ∧
      ∃ (asked start last : Life Unit) (later : List (Passage Unit)),
        asked.executor = two ∧ Step asked (.happens (.changes () .quit)) start ∧
        Run start later last ∧ Drained asked start later last ∧
        (later.flatMap Passage.begun).length = 1 ∧ (later.flatMap Passage.dropped).length = 1 := by
  obtain ⟨one, posted⟩ :
      ∃ one, (Executor.empty : Executor Code).post? 50 0 .nothing = some one :=
    Option.isSome_iff_exists.1 (by decide)
  have policy : one.policy = .defaultQueue := (Executor.posted_post? posted).2
  obtain ⟨two, postedToo⟩ : ∃ two, one.post? 50 0 .nothing = some two := by
    refine Option.ne_none_iff_exists'.1 fun none => ?_
    rw [Executor.post?_eq_none_iff, Executor.size_queues_post? posted] at none
    exact absurd none (by decide)
  have works : two.HasWork := Executor.hasWork_of_post? postedToo (.inl policy)
    (policy ▸ Policy.serves_defaultQueue.2 rfl)
  rcases Executor.select_builtIn works.1 with ⟨none, _⟩ | ⟨_, _, task, rest, selected, followed⟩
  · exact absurd works none
  obtain ⟨queue, taken⟩ := Executor.follow_eq_task followed
  have left : rest.tasks.length = 1 := by
    have perm := (Executor.take?_perm taken).1.trans ((Executor.tasks_post? postedToo).trans
      (.cons _ (Executor.tasks_post? posted)))
    exact Nat.succ.inj perm.length_eq
  let asked : Life Unit := ⟨⟨{ executor := two }, .before .execute, fun _ => False⟩, true⟩
  let goes (executor : Executor Code) (wake : Wake) (stage : Stage) : Life Unit :=
    ⟨⟨⟨executor, { quitting := true }, wake⟩, stage, fun p => p = () ∨ False⟩, true⟩
  let start := goes two {} (.before .execute)
  have asks : Step asked (.happens (.changes () .quit)) start := .happens (.changes id rfl) nofun
  have begins : Step start (.happens (.moves (.begins task))) (goes rest {} (.running true)) :=
    .happens (.moves (.begin selected followed)) fun _ => rfl
  have fails : Step (goes rest {} (.running true)) (.happens (.moves .nothing))
      (goes rest {} .failing) := .happens (.moves .failed) fun _ => rfl
  have quits : Step (goes rest {} .failing) (.happens (.moves .nothing))
      (goes rest {} .rousing) := .happens (.moves .quits) fun _ => rfl
  have rouses : Step (goes rest {} .rousing) (.happens (.moves .nothing))
      (goes rest { stored := true } (.before .check)) := .happens (.moves .rouses) fun _ => rfl
  have leaves : Step (goes rest { stored := true } (.before .check)) (.happens (.moves .nothing))
      (goes rest { stored := true } (.before .finished)) :=
    .happens (.moves (.leave rfl)) fun _ => rfl
  have run := ((((((Run.nil start).snoc begins).snoc fails).snoc quits).snoc rouses).snoc
    leaves).snoc (.drains rfl rfl)
  have drained := run.drained asks rfl rfl (by simp [Event.Takes])
  refine ⟨one, two, posted, postedToo, asked, start, _, _, rfl, asks, run, drained, rfl, ?_⟩
  exact (congrArg List.length (List.append_nil rest.tasks)).trans left

end Runs

end Life

end RunLoop

end PluginHost
