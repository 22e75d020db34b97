import PluginHost.Proofs.RunLoop.Carried
import PluginHost.Proofs.RunLoop.HostWork

set_option autoImplicit false

namespace PluginHost

open Act (Leads Keeps)

variable {dispatch : Dispatch}

namespace Host

theorem runDetached_works (works : dispatch.Works) (body : Code) :
    Works (runDetached dispatch body) := by
  intro c h given ended
  have leads := works body c h given
  unfold runDetached at ended ⊢
  generalize dispatch body h = x at ended leads ⊢
  obtain ⟨flow, k⟩ := x
  cases flow with
  | stalled => exact absurd rfl ended
  | returned | unwound => exact leads nofun

theorem worked_tickerTurn (t : Ticker) (body : Code) (h : Host) :
    h.common.Worked (tickerTurn t body h).2.common := by
  unfold tickerTurn
  dsimp only
  split
  · exact .refl
  · split
    · exact .refl
    · split
      · exact .refl
      · have posts := worked_post { h with watches := h.watches.modify t.watch Watch.see }
          priority.medium 0 body
        split <;> rename_i posted <;> rw [posted] at posts <;> exact posts

theorem worked_tickerStep (t : Ticker) (body : Code) (h : Host) :
    h.common.Worked (tickerStep t body h).2.common := by
  unfold tickerStep
  dsimp only
  split
  · exact worked_tickerTurn t body h
  · exact worked_tickerTurn t body (h.tell _ _ _ _)

theorem worked_listenerTurn (received : List Signal) (h : Host) :
    h.common.Worked (listenerTurn received h).2.common := by
  induction received generalizing h with
  | nil => exact .refl
  | cons signal rest ih =>
    cases signal with
    | hangup => exact (worked_requestReload h).trans (ih h.requestReload)
    | interrupt | terminate | quit => exact worked_quit (h.tell _ _ _ _)

theorem turn_works (works : dispatch.Works) (job : Job Code) : Works (turn dispatch job) := by
  cases job with
  | code yields body =>
    cases yields with
    | zero => exact (runDetached_works works body).andThen fun _ => .pure _
    | succ => exact .pure _
  | ticker t body => exact .step (worked_tickerStep t body)
  | listener received => exact .step (worked_listenerTurn received)

theorem common_nextJob (h : Host) : (nextJob h).2.common = h.common := by
  unfold nextJob
  split
  · split <;> rfl
  · rfl

theorem common_putWaiting (job : Job Code) (h : Host) : (putWaiting job h).common = h.common := by
  unfold putWaiting
  split <;> rfl

theorem jobRound_works (works : dispatch.Works) (room : Nat) (yielded : List (Job Code)) :
    Works (jobRound dispatch room yielded) := by
  induction room generalizing yielded with
  | zero => exact Works.andThen (.modify fun _ => .refl) fun _ => .pure _
  | succ room ih =>
    refine Works.andThen (.step fun h => common_nextJob h ▸ .refl) fun next => ?_
    cases next with
    | none => exact Works.andThen (.modify fun _ => .refl) fun _ => .pure _
    | some job =>
      refine (turn_works works job).andThen fun turn => ?_
      cases turn with
      | finished => exact (ih yielded).andThen fun _ => .pure _
      | yielded job => exact (ih _).andThen fun _ => .pure _
      | waiting job =>
        refine Works.andThen (.modify fun h => common_putWaiting job h ▸ .refl) fun _ => ?_
        exact (ih yielded).andThen fun _ => .pure _

theorem pollOnce_works (works : dispatch.Works) : Works (pollOnce dispatch) := by
  intro c h given ended
  unfold pollOnce at ended ⊢
  split at ended
  · exact given
  · exact jobRound_works works _ _ c h given ended
  · exact ((works _).andThen fun _ => .pure _) c _ given ended

theorem pollBatch_works (works : dispatch.Works) (limit : Nat) :
    Works (pollBatch dispatch limit) := by
  induction limit with
  | zero => exact .pure _
  | succ limit ih =>
    refine (pollOnce_works works).andThen fun progressed => ?_
    cases progressed with
    | false => exact .pure _
    | true => exact ih.andThen fun _ => .pure _

theorem common_idle (h : Host) : (idle h).2.common = h.common := by
  unfold idle
  split
  · split
    · split
      · rfl
      · split <;> rfl
    · split <;> rfl
  · rfl

theorem waitRounds_works (works : dispatch.Works) (patience : Nat) :
    Works (waitRounds dispatch patience) := by
  induction patience with
  | zero => exact .stall
  | succ patience ih =>
    refine (Works.look _).andThen fun waiting => ?_
    cases waiting with
    | false => exact .pure _
    | true =>
      refine (jobRound_works works _ _).andThen fun _ => (Works.look _).andThen fun stuck => ?_
      cases stuck with
      | false => exact ih
      | true =>
        refine Works.andThen (.step fun h => common_idle h ▸ .refl) fun happened => ?_
        cases happened with
        | false => exact .stall
        | true => exact ih

end Host

namespace Application

variable {c : Common} {α : Type}

theorem onHost_works {act : Act Host α} (works : Host.Works act) :
    Keeps (fun a : Application => c.Worked a.host.common) (onHost act) :=
  Host.Carried.onApplication (works c)

theorem dispatchReload_works (works : dispatch.Works) :
    Keeps (fun a : Application => c.Worked a.host.common) (dispatchReload dispatch) :=
  Host.Carried.dispatchReload ⟨fun _ _ given => given, fun code => works code c⟩

end Application

namespace Host

/-- A task that ends without failure is followed by a look at whether there is more to do. -/
theorem runTask_returned (works : dispatch.Works) {task : Task Code} {hint : Bool} {h : Host}
    {answer : Except Failure Bool}
    (returned : (runTask dispatch task hint h).1 = .returned answer) :
    h.common.Worked (runTask dispatch task hint h).2.common ∧
      ∀ more, answer = .ok more → more = (runTask dispatch task hint h).2.executor.more hint := by
  have ended : (runTask dispatch task hint h).1 ≠ .stalled := by
    rw [returned]
    exact nofun
  refine ⟨runTask_works works task hint _ h .refl ended, ?_⟩
  rintro more rfl
  unfold runTask at returned ⊢
  obtain ⟨_, _, told⟩ := Act.returned_of_bind returned
  rw [told] at returned ⊢
  obtain ⟨result, _, ran⟩ := Act.returned_of_bind returned
  rw [ran] at returned ⊢
  cases result with
  | error failure => cases returned
  | ok value =>
    cases returned
    rfl

/-- Waiting goes on until somebody wakes the loop. -/
theorem waitRounds_returned {patience : Nat} {h : Host}
    (returned : (waitRounds dispatch patience h).1 = .returned ()) :
    (waitRounds dispatch patience h).2.wake.waiting = false := by
  induction patience generalizing h with
  | zero => cases returned
  | succ patience ih =>
    unfold waitRounds at returned ⊢
    obtain ⟨waiting, looked, next⟩ := Act.returned_of_bind returned
    rw [next] at returned ⊢
    cases waiting with
    | false =>
      cases returned
      exact Flow.returned.inj looked
    | true =>
      obtain ⟨_, _, round⟩ := Act.returned_of_bind returned
      simp only [if_true] at returned ⊢
      rw [round] at returned ⊢
      obtain ⟨stuck, _, next⟩ := Act.returned_of_bind returned
      rw [next] at returned ⊢
      cases stuck with
      | false => exact ih returned
      | true =>
        obtain ⟨happened, _, next⟩ := Act.returned_of_bind returned
        simp only [if_true] at returned ⊢
        rw [next] at returned ⊢
        cases happened with
        | false => cases returned
        | true => exact ih returned

end Host

theorem Control.takeReload_of_unasked {c : Control} (unasked : c.reload = false) :
    c.takeReload.2 = c := by
  obtain ⟨quitting, reload⟩ := c
  cases unasked
  rfl

/-- Asking to quit is a change and the wake-up that goes with it. -/
theorem Host.common_quit (h : Host) :
    h.quit.common = { h.common with control := h.common.control.quit }.rouse := by
  unfold quit
  split <;> rfl

namespace RunLoop

variable {Party : Type} {party : Party} {owes : Party → Prop}

/-- The loop goes on, or a party does something. -/
def Happening.Beside (party : Party) (happening : Happening Party) : Prop :=
  happening.OfLoop ∨ happening.Of party

/-- The same, and the loop does not begin to answer a request to reload. -/
def Happening.Quiet (party : Party) (happening : Happening Party) : Prop :=
  happening.Beside party ∧ happening ≠ .moves .reloads

namespace Reaches

variable {start : Scene Party} {c d : Common} {stage next : Stage}

theorem go {sign : Sign} (reaches : Reaches (Happening.Quiet party) start ⟨c, stage, owes⟩)
    (move : Move c stage sign d next) (quiet : sign ≠ .reloads := by nofun) :
    Reaches (Happening.Quiet party) start ⟨d, next, owes⟩ :=
  reaches.step (.moves move) ⟨.inl trivial, fun same => quiet (Happening.moves.inj same)⟩

theorem work (reaches : Reaches (Happening.Quiet party) start ⟨c, stage, owes⟩)
    (free : ¬ owes party) (worked : c.Worked d) :
    Reaches (Happening.Quiet party) start ⟨d, stage, owes⟩ := by
  refine reaches.trans ((reaches_of_worked worked party stage free).imp fun happening own => ?_)
  refine ⟨.inr own, ?_⟩
  rintro rfl
  exact own

end Reaches

end RunLoop

namespace Host

open RunLoop

variable {Party : Type} {party : Party} {owes : Party → Prop}

/-- The loop runs a task, or there is none to run. If a task fails the loop asks itself to quit. -/
theorem execute_reaches (works : dispatch.Works) (free : ¬ owes party) {h : Host}
    {answer : Except Failure Bool} (returned : (execute dispatch h).1 = .returned answer) :
    (∀ more, answer = .ok more →
      Reaches (Happening.Quiet party) ⟨h.common, .before .execute, owes⟩
        ⟨(execute dispatch h).2.common, .next more, owes⟩) ∧
    ∀ failure, answer = .error failure →
      Reaches (Happening.Quiet party) ⟨h.common, .before .execute, owes⟩
        ⟨(execute dispatch h).2.common, .failing, owes⟩ := by
  rcases execute_cases dispatch h with
    ⟨_, unwound, _⟩ | ⟨selection, selected, ⟨none, ended, same⟩ |
      ⟨task, rest, hint, k, followed, common, runs⟩⟩
  · rw [unwound] at returned
    cases returned
  · rw [ended] at returned
    cases returned
    refine ⟨fun more idle => ?_, nofun⟩
    cases idle
    rw [same]
    exact (Reaches.refl _).go (.idle selected none)
  · rw [runs] at returned ⊢
    obtain ⟨worked, measures⟩ := runTask_returned works returned
    have begun : Reaches (Happening.Quiet party) ⟨h.common, .before .execute, owes⟩
        ⟨(runTask dispatch task hint k).2.common, .running hint, owes⟩ :=
      ((Reaches.refl _).go (.begin selected followed)).work free (common ▸ worked)
    constructor
    · rintro more rfl
      rw [measures more rfl]
      exact (begun.go .ran).go .measured
    · rintro _ rfl
      exact begun.go .failed

/-- The loop waits, unless a wake-up is stored or the reactor need not wait. -/
theorem block_reaches (works : dispatch.Works) (free : ¬ owes party) {patience : Nat} {h : Host}
    (returned : (block dispatch patience h).1 = .returned ()) :
    Reaches (Happening.Quiet party) ⟨h.common, .parking, owes⟩
      ⟨(block dispatch patience h).2.common, .before .check, owes⟩ := by
  have ended : (block dispatch patience h).1 ≠ .stalled := by
    rw [returned]
    exact nofun
  cases reactor : h.reactor with
  | absent =>
    simp only [block, reactor] at returned
    cases returned
  | events loop =>
    have waits : block dispatch patience h =
        waitRounds dispatch patience { h with wake := h.wake.wait } := by
      simp only [block, reactor]
    rw [waits] at returned ended ⊢
    have worked := waitRounds_works works patience _ { h with wake := h.wake.wait } .refl ended
    cases stored : h.wake.stored with
    | true => exact ((Reaches.refl _).go (.pass stored)).work free worked
    | false =>
      have woken := waitRounds_returned returned
      exact (((Reaches.refl _).go (.wait stored)).work free worked).go (.resume woken)
  | planned plan polls blocks =>
    have planned : Works (dispatch (plan.onBlock blocks) >>= fun _ => (pure () : Act Host Unit)) :=
      (works _).andThen fun _ => .pure _
    have runs : block dispatch patience h =
        (dispatch (plan.onBlock blocks) >>= fun _ => (pure () : Act Host Unit))
          { h with reactor := .planned plan polls (blocks + 1) } := by
      simp only [block, reactor]
    rw [runs] at ended ⊢
    exact ((Reaches.refl _).work free (planned _ _ .refl ended)).go .early

end Host

namespace Application

open RunLoop

variable {Party : Type} {party : Party} {owes : Party → Prop}

/-- The next step of the loop answers a request to reload. -/
def Attends (s : RunLoop × Application) : Prop :=
  s.1.phase = .attend ∧ s.2.host.control.reload = true

/-- A step of the loop that answers no request is made of moves that answer none, and of what a party
does in between. -/
theorem loopStep_reaches_quietly (works : dispatch.Works) (free : ¬ owes party) {patience : Nat}
    {loop next : RunLoop} {a : Application} (other : ¬ Attends (loop, a))
    (returned : (loopStep dispatch patience loop a).1 = .returned next) :
    Reaches (Happening.Quiet party) ⟨a.host.common, .before loop.phase, owes⟩
      ⟨(loopStep dispatch patience loop a).2.host.common, .before next.phase, owes⟩ := by
  obtain ⟨phase, failure⟩ := loop
  unfold loopStep at returned ⊢
  cases phase with
  | check =>
    cases returned
    cases quitting : a.host.control.quitting with
    | true => exact (Reaches.refl _).go (.leave quitting)
    | false => exact (Reaches.refl _).go (.stay quitting)
  | attend =>
    have asked : a.host.control.reload = false := Bool.eq_false_iff.2 fun asked => other ⟨rfl, asked⟩
    have took : (onHost (Act.step Host.takeReload) a).1 = .returned false :=
      congrArg Flow.returned asked
    dsimp only at returned ⊢
    rw [Act.bind_of_returned took] at returned ⊢
    cases returned
    have same : (onHost (Act.step Host.takeReload) a).2.host.common = a.host.common :=
      congrArg (fun c => { a.host.common with control := c }) (Control.takeReload_of_unasked asked)
    show Reaches _ _ ⟨(onHost (Act.step Host.takeReload) a).2.host.common, _, _⟩
    rw [same]
    exact (Reaches.refl _).go (.unasked asked)
  | poll =>
    dsimp only at returned ⊢
    obtain ⟨_, got, same⟩ := Act.returned_of_bind returned
    cases got
    rw [same] at returned ⊢
    obtain ⟨_, polled, same⟩ := Act.returned_of_bind returned
    rw [same] at returned ⊢
    cases returned
    have worked := onHost_works (Host.pollBatch_works works _) a Common.Worked.refl
      (Act.ended_of_returned polled)
    exact ((Reaches.refl _).work free worked).go .polled
  | execute =>
    dsimp only at returned ⊢
    obtain ⟨answer, ran, same⟩ := Act.returned_of_bind returned
    rw [same] at returned ⊢
    obtain ⟨goes, fails⟩ := Host.execute_reaches works free ran
    cases answer with
    | ok more =>
      cases returned
      exact goes more rfl
    | error failure =>
      cases returned
      show Reaches _ _ ⟨(Host.quit _).common, _, _⟩
      rw [Host.common_quit]
      exact ((fails failure rfl).go .quits).go .rouses
  | rest =>
    dsimp only at returned ⊢
    obtain ⟨_, got, same⟩ := Act.returned_of_bind returned
    cases got
    rw [same] at returned ⊢
    cases quitting : a.host.control.quitting with
    | true =>
      simp only [quitting, if_true] at returned ⊢
      cases returned
      exact (Reaches.refl _).go (.skip quitting)
    | false =>
      simp only [quitting, if_false, Bool.false_eq_true] at returned ⊢
      obtain ⟨_, waited, same⟩ := Act.returned_of_bind returned
      rw [same] at returned ⊢
      cases returned
      exact ((Reaches.refl _).go (.park quitting)).trans (Host.block_reaches works free waited)
  | finished =>
    cases returned
    exact .refl _

/-- A step that answers a request begins with the answer, and answers no other one. -/
theorem loopStep_reaches_after (works : dispatch.Works) (free : ¬ owes party) {patience : Nat}
    {loop next : RunLoop} {a : Application} (attends : Attends (loop, a))
    (returned : (loopStep dispatch patience loop a).1 = .returned next) :
    Step ⟨a.host.common, .before loop.phase, owes⟩ (.moves .reloads)
      (⟨a.host.takeReload.2.common, .reloading, owes⟩ : Scene Party) ∧
    Reaches (Happening.Quiet party) ⟨a.host.takeReload.2.common, .reloading, owes⟩
      ⟨(loopStep dispatch patience loop a).2.host.common, .before next.phase, owes⟩ := by
  obtain ⟨attends, asked⟩ := attends
  dsimp only at attends asked
  have took : (onHost (Act.step Host.takeReload) a).1 = .returned true :=
    congrArg Flow.returned asked
  unfold loopStep at returned ⊢
  simp only [attends] at returned ⊢
  rw [Act.bind_of_returned took] at returned ⊢
  obtain ⟨_, ran, same⟩ := Act.returned_of_bind returned
  simp only [if_true] at returned ⊢
  rw [same] at returned ⊢
  cases returned
  have worked := dispatchReload_works works _ Common.Worked.refl (Act.ended_of_returned ran)
  exact ⟨.moves (.reload asked), ((Reaches.refl _).work free worked).go .reloaded⟩

/-- A step of the loop is made of moves, and of what a party does in between. -/
theorem loopStep_reaches (works : dispatch.Works) (free : ¬ owes party) {patience : Nat}
    {loop next : RunLoop} {a : Application}
    (returned : (loopStep dispatch patience loop a).1 = .returned next) :
    Reaches (Happening.Beside party) ⟨a.host.common, .before loop.phase, owes⟩
      ⟨(loopStep dispatch patience loop a).2.host.common, .before next.phase, owes⟩ := by
  by_cases attends : Attends (loop, a)
  · obtain ⟨answers, later⟩ := loopStep_reaches_after works free attends returned
    exact ((Reaches.refl _).step answers (.inl trivial)).trans (later.imp fun _ quiet => quiet.1)
  · exact (loopStep_reaches_quietly works free attends returned).imp fun _ quiet => quiet.1

/-- The loop, from any phase to its end, is a run in which nobody but a party takes part. -/
theorem loopSteps_reaches (works : dispatch.Works) (free : ¬ owes party) {patience steps : Nat}
    {loop last : RunLoop} {a : Application}
    (returned : (loopSteps dispatch patience steps loop a).1 = .returned last) :
    Reaches (Happening.Beside party) ⟨a.host.common, .before loop.phase, owes⟩
      ⟨(loopSteps dispatch patience steps loop a).2.host.common, .before .finished, owes⟩ := by
  induction steps generalizing loop a with
  | zero => cases returned
  | succ steps ih =>
    unfold loopSteps at returned ⊢
    split at returned
    · rename_i finished
      simp only [finished, if_true]
      exact .refl _
    · rename_i unfinished
      simp only [unfinished, if_false]
      obtain ⟨next, stepped, same⟩ := Act.returned_of_bind returned
      rw [same] at returned ⊢
      exact (loopStep_reaches works free stepped).trans (ih returned)

end Application

end PluginHost
