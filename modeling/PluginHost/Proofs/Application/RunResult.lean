import PluginHost.Proofs.Application.TearDown

/-!
What a run answers. A task that fails makes the loop quit, so there is one at most among those that
the loop takes, and its failure is the answer; else the first failure of a plugin to stop is. Tasks
that other code takes answer to that code and not to the loop.
-/

set_option autoImplicit false

namespace PluginHost

open Act (Leads Keeps Brings)

variable {dispatch : Dispatch}

namespace Host

/-- The host after the policy of its executor has spoken. -/
def noted (h : Host) : Host :=
  (h.executor.policy.select h.executor.views).notes.foldl note h

/-- The task that the policy picks fails, or it panics. -/
def TaskFails (dispatch : Dispatch) (h : Host) (e : Failure) : Prop :=
  ∃ selection task rest hint,
    (h.executor.policy.select h.executor.views).selection = .ok selection ∧
    h.noted.executor.follow selection = .task task rest hint ∧
    (Act.guarded "task" (dispatch task.body)
      (tell { h.noted with executor := rest } .executor .trace "Running task"
        [("priority", .number task.priority), ("sequence", .number task.sequence)])).1 =
      .returned (.error e)

theorem runTask_error_iff {task : Task Code} {hint : Bool} {h : Host} {e : Failure} :
    (runTask dispatch task hint h).1 = .returned (.error e) ↔
      (Act.guarded "task" (dispatch task.body) (h.tell .executor .trace "Running task"
        [("priority", .number task.priority), ("sequence", .number task.sequence)])).1 =
        .returned (.error e) := by
  rw [runTask, Act.bind_of_returned (a := ()) rfl]
  generalize spoken : (Act.modify _ h).2 = told
  have same : h.tell .executor .trace "Running task"
    [("priority", .number task.priority), ("sequence", .number task.sequence)] = told := spoken
  rw [same]
  rcases Act.guarded_cases "task" (dispatch task.body) told with ⟨result, came⟩ | stalled
  · rw [Act.bind_of_returned came, came]
    cases result <;> simp [Act.bind_apply, Except.map]
  · rw [(Act.bind_stalled stalled _).1, stalled]
    simp

/-- A step of the executor fails exactly if the task that is picked does. -/
theorem execute_error_iff {h : Host} {e : Failure} :
    (execute dispatch h).1 = .returned (.error e) ↔ TaskFails dispatch h e := by
  unfold TaskFails
  cases ruled : (h.executor.policy.select h.executor.views).selection with
  | error payload => simp [execute, ruled]
  | ok selection =>
    have noted : (h.executor.policy.select h.executor.views).notes.foldl note h = h.noted := rfl
    simp only [execute, ruled, noted, Except.ok.injEq]
    cases followed : h.noted.executor.follow selection with
    | idle more => simp [followed]
    | nothing queue more => simp [followed]
    | task task rest hint =>
      dsimp only
      rw [runTask_error_iff]
      constructor
      · intro failed
        exact ⟨selection, task, rest, hint, rfl, followed, failed⟩
      · rintro ⟨_, _, _, _, rfl, same, failed⟩
        rw [followed] at same
        cases same
        exact failed

end Host

namespace Application

/-- The next step of the loop takes a task that fails. -/
def Fails (dispatch : Dispatch) (s : RunLoop × Application) (e : Failure) : Prop :=
  s.1.phase = .execute ∧ Host.TaskFails dispatch s.2.host e

/-- The loop goes from one state to another, and these are the failures of the tasks that it takes
on the way. -/
inductive Loops (dispatch : Dispatch) (patience : Nat) :
    RunLoop × Application → List Failure → RunLoop × Application → Prop
  | here (s : RunLoop × Application) : Loops dispatch patience s [] s
  | fails {s t last : RunLoop × Application} {e : Failure} {failures : List Failure}
      (fails : Fails dispatch s e) (turns : Turns dispatch patience s t)
      (rest : Loops dispatch patience t failures last) :
      Loops dispatch patience s (e :: failures) last
  | goes {s t last : RunLoop × Application} {failures : List Failure}
      (none_ : ∀ e, ¬ Fails dispatch s e) (turns : Turns dispatch patience s t)
      (rest : Loops dispatch patience t failures last) :
      Loops dispatch patience s failures last

/-- A loop that returns has finished. -/
theorem loopSteps_loops {patience limit : Nat} {loop last : RunLoop} {a : Application}
    (returned : (loopSteps dispatch patience limit loop a).1 = .returned last) :
    last.phase = .finished ∧ ∃ failures,
      Loops dispatch patience (loop, a) failures
        (last, (loopSteps dispatch patience limit loop a).2) := by
  induction limit generalizing loop a with
  | zero => cases returned
  | succ limit ih =>
    rw [loopSteps] at returned ⊢
    by_cases finished : loop.phase = .finished
    · rw [if_pos finished] at returned ⊢
      cases returned
      exact ⟨finished, [], .here _⟩
    · rw [if_neg finished] at returned ⊢
      obtain ⟨next, stepped, same⟩ := Act.returned_of_bind returned
      rw [same] at returned ⊢
      have turns : Turns dispatch patience (loop, a)
          (next, (loopStep dispatch patience loop a).2) := ⟨finished, Prod.ext stepped rfl⟩
      obtain ⟨ended, failures, rest⟩ := ih returned
      refine ⟨ended, ?_⟩
      -- whether the task of this step fails is read off the host in front of it
      by_cases failing : ∃ e, Fails dispatch (loop, a) e
      · obtain ⟨e, fails⟩ := failing
        exact ⟨e :: failures, .fails fails turns rest⟩
      · exact ⟨failures, .goes (not_exists.1 failing) turns rest⟩

/-- The loop is about to end with a failure. -/
def Ending (e : Failure) (s : RunLoop × Application) : Prop :=
  s.1.failure = some e ∧
    (s.1.phase = .finished ∨ s.1.phase = .check ∧ s.2.host.control.quitting = true)

/-- A task that fails ends the loop. -/
theorem Turns.ending {patience : Nat} {s t : RunLoop × Application} {e : Failure}
    (turns : Turns dispatch patience s t) (fails : Fails dispatch s e) (fine : s.1.failure = none) :
    Ending e t := by
  obtain ⟨_, stepped⟩ := turns
  obtain ⟨executes, failing⟩ := fails
  have came : (onHost (Host.execute dispatch) s.2).1 = .returned (.error e) :=
    Host.execute_error_iff.2 failing
  simp only [loopStep, executes, fine] at stepped
  rw [Act.bind_of_returned came] at stepped
  dsimp only at stepped
  rw [Act.bind_of_returned (a := ()) rfl, Act.bind_of_returned (a := ()) rfl] at stepped
  obtain ⟨next, after⟩ := Prod.mk.inj stepped
  obtain ⟨_, b⟩ := t
  cases next
  refine ⟨rfl, .inr ⟨rfl, ?_⟩⟩
  rw [← after]
  exact Host.quitting_quit _

/-- Every other step leaves the failure as it is. -/
theorem loopStep_failure {patience : Nat} {loop : RunLoop} {a : Application}
    (none_ : ∀ e, ¬ Fails dispatch (loop, a) e) :
    Brings (fun b => b = a) (fun next _ => next.failure = loop.failure)
      (loopStep dispatch patience loop) := by
  unfold loopStep
  cases phase : loop.phase with
  | check => exact Brings.after fun _ => .pure fun _ _ => rfl
  | attend =>
    refine Brings.after fun pending => ?_
    cases pending with
    | false => exact .pure fun _ _ => rfl
    | true => exact Brings.after fun _ => .pure fun _ _ => rfl
  | poll => exact Brings.after fun _ => .after fun _ => .pure fun _ _ => rfl
  | execute =>
    have fine : Brings (fun b => b = a) (fun result _ => ∀ e, result ≠ .error e)
        (onHost (Host.execute dispatch)) := by
      rintro _ result rfl came e rfl
      exact none_ e ⟨phase, Host.execute_error_iff.1 came⟩
    refine fine.bind fun result => ?_
    cases result with
    | ok more => exact .pure fun _ _ => rfl
    | error e => exact fun _ _ ok _ => absurd rfl (ok e)
  | rest =>
    refine Brings.after fun b => ?_
    split
    · exact .pure fun _ _ => rfl
    · exact Brings.after fun _ => .pure fun _ _ => rfl
  | finished => exact .pure fun _ _ => rfl

theorem Turns.failure {patience : Nat} {s t : RunLoop × Application}
    (turns : Turns dispatch patience s t) (none_ : ∀ e, ¬ Fails dispatch s e) :
    t.1.failure = s.1.failure := by
  have returned : (loopStep dispatch patience s.1 s.2).1 = .returned t.1 := by rw [turns.2]
  exact loopStep_failure none_ s.2 t.1 rfl returned

/-- The loop looks at the quit flag and ends. -/
theorem Ending.turns {patience : Nat} {s t : RunLoop × Application} {e : Failure}
    (ending : Ending e s) (turns : Turns dispatch patience s t) : Ending e t := by
  obtain ⟨failed, finished | ⟨looks, quitting⟩⟩ := ending
  · exact absurd finished turns.1
  · obtain ⟨_, stepped⟩ := turns
    simp only [loopStep, looks] at stepped
    rw [Act.bind_of_returned (a := s.2) rfl, if_pos quitting] at stepped
    obtain ⟨next, _⟩ := Prod.mk.inj stepped
    obtain ⟨_, b⟩ := t
    cases next
    exact ⟨failed, .inl rfl⟩

theorem Ending.not_fails {s : RunLoop × Application} {e other : Failure} (ending : Ending e s) :
    ¬ Fails dispatch s other := by
  rintro ⟨executes, _⟩
  obtain ⟨_, finished | ⟨looks, _⟩⟩ := ending
  · rw [finished] at executes
    cases executes
  · rw [looks] at executes
    cases executes

/-- After a failure no task is taken any more. -/
theorem Loops.of_ending {patience : Nat} {s t : RunLoop × Application} {failures : List Failure}
    {e : Failure} (loops : Loops dispatch patience s failures t) (ending : Ending e s) :
    failures = [] ∧ t.1.failure = some e := by
  induction loops with
  | here s => exact ⟨rfl, ending.1⟩
  | fails fails turns rest ih => exact absurd fails ending.not_fails
  | goes none_ turns rest ih => exact ih (ending.turns turns)

/-- At most one task fails, and the loop remembers its failure. -/
theorem Loops.failure {patience : Nat} {s t : RunLoop × Application} {failures : List Failure}
    (loops : Loops dispatch patience s failures t) (fine : s.1.failure = none) :
    failures = t.1.failure.toList := by
  induction loops with
  | here s => rw [fine]; rfl
  | fails fails turns rest ih =>
    obtain ⟨none_, kept⟩ := rest.of_ending (turns.ending fails fine)
    rw [none_, kept]
    rfl
  | goes none_ turns rest ih =>
    apply ih
    rw [turns.failure none_, fine]

def closing (a : Application) : Application :=
  (onHost (Act.modify Host.clear)
    (tell .info "Run loop stopped" [("pending", .number a.host.executor.pending)] a).2).2

theorem conclude_answers {loop : RunLoop} {a : Application} {result : Except Failure Unit}
    (standing : a.ensemble.Standing []) (returned : (conclude dispatch loop a).1 = .returned result) :
    ∃ stops, TornDown dispatch a.closing stops (conclude dispatch loop a).2 ∧
      result = loop.failure.elim (firstFailure stops) .error := by
  have closed : a.closing.ensemble.Standing [] := standing.congr rfl rfl
  rw [conclude, Act.bind_of_returned (a := a.host.executor.pending) rfl,
    Act.bind_of_returned (a := ()) rfl, Act.bind_of_returned (a := ()) rfl] at returned ⊢
  generalize reached : (onHost (Act.modify Host.clear) _).2 = b at returned ⊢
  have same : a.closing = b := reached
  rw [same] at closed ⊢
  rcases shutDown_answers dispatch closed with ⟨stalled, _⟩ | ⟨stops, came, tornDown⟩
  · rw [(Act.bind_stalled stalled _).1] at returned
    cases returned
  · rw [Act.bind_of_returned came] at returned ⊢
    refine ⟨stops, ?_⟩
    generalize loop.failure = failure at returned ⊢
    cases failure with
    | none =>
      cases returned
      exact ⟨tornDown, rfl⟩
    | some e =>
      generalize firstFailure stops = first at returned ⊢
      cases first with
      | ok _ =>
        cases returned
        exact ⟨tornDown, rfl⟩
      | error later =>
        cases returned
        exact ⟨tornDown.tell _ _ _, rfl⟩

/-- The loop of a run that returns leaves the plugins as they were, and what it ends with is the
answer. -/
theorem run_answers {a : Application} (standing : a.ensemble.Standing []) {patience : Nat}
    {result : Except Failure Unit} (returned : (run dispatch patience a).1 = .returned result) :
    ∃ failures last stops, Loops dispatch patience ({}, (openLoop a).2) failures last ∧
      last.1.phase = .finished ∧ last.2.lifecycle = a.lifecycle ∧
      TornDown dispatch last.2.closing stops (run dispatch patience a).2 ∧
      result = failures.head?.elim (firstFailure stops) .error := by
  have turning : Turning dispatch
      (Of fun e => Ensemble.Standing [] e ∧ Ensemble.Stays a.ensemble e) :=
    standing_lasting.keeping.toTurning.and (stays_turning a.ensemble)
  rw [run, Act.bind_of_returned (a := {}) rfl] at returned ⊢
  obtain ⟨loop, looped, same⟩ := Act.returned_of_bind returned
  rw [same] at returned ⊢
  obtain ⟨finished, failures, loops⟩ := loopSteps_loops looped
  have opened : (openLoop a).2.ensemble.Standing [] := standing.congr rfl rfl
  obtain ⟨stands, stays⟩ := turning.loopSteps patience patience {} (openLoop a).2
    ⟨opened, .refl _⟩ (Act.ended_of_returned looped)
  obtain ⟨stops, tornDown, answer⟩ := conclude_answers stands returned
  have failed : failures = loop.failure.toList := loops.failure rfl
  refine ⟨failures, (loop, _), stops, loops, finished, stays.1, tornDown, ?_⟩
  rw [answer, failed]
  cases loop.failure <;> rfl

/-- A run that returns. At most one of the tasks that its loop takes fails, and then its failure is
the answer; else the first failure is that a plugin answers with when it is stopped. Whoever ran is
called to stop, each once and the last one first, whatever the others answer. Then there are no
plugins, nothing is shared, and the application is to quit. -/
theorem run_result {config : Config} {catalogue : Catalogue} {registered : List String} {h : Host}
    {a : Application} (undergoes : Undergoes dispatch (new config catalogue registered h) a)
    {patience : Nat} {result : Except Failure Unit}
    (returned : (run dispatch patience a).1 = .returned result) :
    ∃ failures last stops,
      Loops dispatch patience ({}, (openLoop a).2) failures last ∧ last.1.phase = .finished ∧
      failures.length ≤ 1 ∧
      TornDown dispatch last.2.closing stops (run dispatch patience a).2 ∧
      List.Forall₂ (Reply.At a.lifecycle.registry) a.lifecycle.running.reverse stops ∧
      result = failures.head?.elim (firstFailure stops) .error ∧
      Ensemble.Stopped a.ensemble (run dispatch patience a).2.ensemble := by
  have standing : a.ensemble.Standing [] := undergoes.standing (.fresh (openHost config h))
  have stopped := run_stopped patience a result ⟨standing, .refl _⟩ returned
  obtain ⟨failures, last, stops, loops, finished, lifecycle, tornDown, answer⟩ :=
    run_answers standing returned
  have failed : failures = last.1.failure.toList := loops.failure rfl
  have few : failures.length ≤ 1 := by
    rw [failed]
    cases last.1.failure <;> simp
  have closed : last.2.closing.lifecycle = a.lifecycle := lifecycle
  have plugins := tornDown.plugins
  rw [closed] at plugins
  exact ⟨failures, last, stops, loops, finished, few, tornDown, plugins, answer, stopped⟩

/-- Both plugins fail to stop, one of them by a panic: both are called, and the answer is that of
the one that was started last. -/
theorem run_result_of_two_stops :
    let base : Plugin := { type := "Base", name := "base", stop := .panic (.text "base") }
    let top : Plugin :=
      { type := "Top", name := "top", stop := .fail (.new .plugin "top")
        requires := fun _ => [.named "base"] }
    let perform := fun (a : Application) (operation : Operation) =>
      (operation.perform (Code.runWithin 2) a).2
    let a := [Operation.register base, .register top, .setUp ["top"] .empty, .start,
      .elsewhere Host.quit].foldl perform (new {} [] [] {})
    (run (Code.runWithin 2) 9 a).1 = .returned (.error (.new .plugin "top")) ∧
      Ensemble.Stopped a.ensemble (run (Code.runWithin 2) 9 a).2.ensemble ∧
      entries .stop (run (Code.runWithin 2) 9 a).2.ensemble.calls = [1, 0] := by
  intro base top perform a
  have undergoes : Undergoes (Code.runWithin 2) (new {} [] [] {}) a := by
    refine .step _ (.step .start (.step (.setUp ["top"] .empty) (.step (.register top)
      (.step (.register base) .refl ?_) ?_) ?_) ?_) ?_
    all_goals decide +kernel
  have returned : (run (Code.runWithin 2) 9 a).1 = .returned (.error (.new .plugin "top")) := by
    decide +kernel
  obtain ⟨_, _, _, _, _, _, _, _, _, stopped⟩ := run_result undergoes returned
  exact ⟨returned, stopped, by decide +kernel⟩

/-- A task that takes the next one and goes on when that one fails: a task has failed, and yet the
run answers without a failure. -/
theorem run_fine_of_nested_failure :
    let lost : Code := .ask (.say (.note "about to fail")) fun _ => .fail (.new .task "lost")
    let outer : Code := .execute fun answer =>
      .ask (.say (.note (if answer.toBool then "went well" else "failed"))) fun _ =>
        .ask .quit fun _ => .nothing
    let perform := fun (a : Application) (operation : Operation) =>
      (operation.perform (Code.runWithin 3) a).2
    let a := [Operation.elsewhere fun h => (h.post 50 0 outer).2,
      .elsewhere fun h => (h.post 25 0 lost).2].foldl perform (new {} [] [] {})
    (run (Code.runWithin 3) 9 a).1 = .returned (.ok ()) ∧
      (run (Code.runWithin 3) 9 a).2.host.journal.toList.filterMap (Entry.shown? .error) =
        ["about to fail", "failed"] := by
  decide +kernel

end Application

end PluginHost
