import Mathlib.Data.List.Nodup
import PluginHost.Proofs.Executor.Calls
import PluginHost.Proofs.RunLoop.HostWork

/-!
What the answer to an attempt to run a task tells about the next attempt. Whether there is more to
do is asked when the task has ended, of the policy that is in force by then; what is run next is
chosen by the policy from the queues. Under a policy that is no rule of the user's own the two agree,
whatever the task did.
-/

set_option autoImplicit false

namespace PluginHost

instance Policy.decidableBuiltIn : DecidablePred Policy.BuiltIn
  | .defaultQueue => .isTrue (.inl rfl)
  | .highestPriority => .isTrue (.inr rfl)
  | .custom _ => .isFalse nofun

namespace Host

variable {dispatch : Dispatch} {h : Host}

/-- The next attempt runs a task, however code behaves: it takes this one out of its queue and gives
it over to be run. -/
def WouldRun (h : Host) (task : Task Code) : Prop :=
  ∃ queue hint rest, h.executor.Takes queue task rest ∧
    ∀ dispatch, execute dispatch h = runTask dispatch task hint { h with executor := rest }

/-- The next attempt runs nothing and says that there is no more to do. -/
def WouldRest (h : Host) : Prop := ∀ dispatch, execute dispatch h = (.returned (.ok false), h)

theorem WouldRest.not_wouldRun (rests : h.WouldRest) (task : Task Code) : ¬ h.WouldRun task := by
  rintro ⟨queue, hint, rest, _, runs⟩
  -- an attempt that runs nothing answers even where whatever is run goes on for ever
  have stalls := runs fun _ => Act.stall
  rw [rests] at stalls
  cases congrArg Prod.fst stalls

/-- The policies that are no rule of the user's own leave no notes. -/
theorem notes_of_builtIn {policy : Policy} (builtIn : policy.BuiltIn) (views : List QueueView) :
    (policy.select views).notes = [] := by
  rcases builtIn with rfl | rfl <;> rfl

/-- A task is run next exactly if there is work. -/
theorem wouldRun_or_wouldRest (builtIn : h.executor.policy.BuiltIn) :
    (h.executor.HasWork ∧ ∃ task, h.WouldRun task) ∨ ¬ h.executor.HasWork ∧ h.WouldRest := by
  have silent := notes_of_builtIn builtIn h.executor.views
  rcases Executor.select_builtIn builtIn with
    ⟨none, selected⟩ | ⟨works, queue, task, rest, selected, follows⟩
  · refine .inr ⟨none, fun dispatch => ?_⟩
    simp only [execute, silent, selected, List.foldl_nil, Executor.follow, Selection.none]
  · obtain ⟨chosen, taken⟩ := Executor.follow_eq_task follows
    refine .inl ⟨works, task, chosen, true, rest, Executor.takes_of_take? taken, fun dispatch => ?_⟩
    simp only [execute, silent, selected, List.foldl_nil, follows]

/-- When a task has ended well, whether there is more to do is asked of the executor as the task left
it. -/
theorem runTask_more {task : Task Code} {hint more : Bool}
    (answered : (runTask dispatch task hint h).1 = .returned (.ok more)) :
    more = (runTask dispatch task hint h).2.executor.more hint := by
  rw [runTask, Act.bind_of_returned (a := ()) rfl] at answered ⊢
  obtain ⟨result, ended, same⟩ := Act.returned_of_bind answered
  rw [same] at answered ⊢
  cases result with
  | ok _ =>
    cases answered
    rfl
  | error _ => cases answered

/-- An attempt that does not fail, on whatever host and whatever the task does meanwhile, leaves a
policy in force. If that is no rule of the user's own, there is said to be more to do exactly if the
next attempt would run a task; else the next attempt would run nothing, and would change nothing. -/
theorem execute_more_exact {more : Bool} (answered : (execute dispatch h).1 = .returned (.ok more))
    (builtIn : (execute dispatch h).2.executor.policy.BuiltIn) :
    (more = true ↔ ∃ task, (execute dispatch h).2.WouldRun task) ∧
      (more = false ↔ (execute dispatch h).2.WouldRest) := by
  have works : (execute dispatch h).2.executor.HasWork ↔ more = true := by
    rcases execute_cases dispatch h with
      ⟨_, unwound, _⟩ | ⟨selection, selected, ⟨untaken, rested, same⟩ | ⟨_, _, hint, _, _, _, runs⟩⟩
    · rw [unwound] at answered
      cases answered
    · have executor : (execute dispatch h).2.executor = h.executor := congrArg Common.executor same
      rw [executor] at builtIn ⊢
      rw [rested] at answered
      cases answered
      rcases Executor.select_builtIn builtIn with ⟨none, chosen⟩ | ⟨_, _, _, _, chosen, follows⟩
      · cases selected.symm.trans chosen
        exact iff_of_false none nofun
      · cases selected.symm.trans chosen
        exact absurd follows (untaken _ _ _)
    · rw [runs] at answered builtIn ⊢
      rw [runTask_more answered]
      exact Executor.hasWork_iff_more builtIn hint
  rcases wouldRun_or_wouldRest builtIn with ⟨some, runs⟩ | ⟨none, rests⟩
  · have yes : more = true := works.1 some
    subst yes
    obtain ⟨task, runs⟩ := runs
    exact ⟨iff_of_true rfl ⟨task, runs⟩, iff_of_false nofun fun rests => rests.not_wouldRun task runs⟩
  · have no : more = false := Bool.eq_false_iff.2 (mt works.2 none)
    subst no
    exact ⟨iff_of_false nofun fun ⟨task, runs⟩ => rests.not_wouldRun task runs, iff_of_true rfl rests⟩

/-- A task of queue 0 posts one to queue 1, which the policy in force does not serve, and replaces
that policy: there is more to do. The next task clears all queues, and then there is not. -/
theorem execute_more_exact_of_two :
    let second : Code := .ask .clear fun _ => .nothing
    let first : Code := .post 50 1 second fun _ => .ask (.setPolicy .highestPriority) fun _ => .nothing
    let h := (({} : Host).addQueue.post 50 0 first).2
    let once := execute (Code.runWithin 1) h
    let twice := execute (Code.runWithin 1) once.2
    once.1 = .returned (.ok true) ∧ (∃ task, once.2.WouldRun task) ∧
      twice.1 = .returned (.ok false) ∧ twice.2.WouldRest := by
  intro second first h once twice
  have more : once.1 = .returned (.ok true) := by decide +kernel
  have noMore : twice.1 = .returned (.ok false) := by decide +kernel
  have replaced : once.2.executor.policy.BuiltIn := by decide +kernel
  have stays : twice.2.executor.policy.BuiltIn := by decide +kernel
  exact ⟨more, (execute_more_exact more replaced).1.1 rfl, noMore,
    (execute_more_exact noMore stays).2.1 rfl⟩

end Host

end PluginHost
