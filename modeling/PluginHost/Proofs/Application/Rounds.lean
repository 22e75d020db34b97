import PluginHost.Proofs.Application.Reloading

set_option autoImplicit false

namespace PluginHost

open Act (Brings)

/-- What the loop does next after it has done something. -/
inductive Phase.Next : Phase → Phase → Prop
  | leaves : Next .check .finished
  | stays : Next .check .attend
  | attended : Next .attend .poll
  | polled : Next .poll .execute
  | hasMore : Next .execute .check
  | hasNoMore : Next .execute .rest
  | rested : Next .rest .check

/-- What the loop may do until it looks at the quit flag again. -/
def Phase.ahead : Phase → List (List Phase)
  | .check => [[]]
  | .attend => [[.attend, .poll, .execute], [.attend, .poll, .execute, .rest]]
  | .poll => [[.poll, .execute], [.poll, .execute, .rest]]
  | .execute => [[.execute], [.execute, .rest]]
  | .rest => [[.rest]]
  | .finished => []

theorem Phase.Next.ahead {first second : Phase} (next : Next first second)
    (other : first ≠ .check) {later : List Phase} (ahead : later ∈ second.ahead) :
    first :: later ∈ first.ahead := by
  cases next with
  | leaves | stays => exact absurd rfl other
  | attended | polled => simpa [Phase.ahead] using ahead
  | hasMore | hasNoMore | rested =>
    cases List.mem_singleton.1 ahead
    simp [Phase.ahead]

namespace Application

variable {dispatch : Dispatch} {patience : Nat} {s t last : RunLoop × Application}
  {passed : List (RunLoop × Application)}

theorem loopStep_next (loop : RunLoop) (unfinished : loop.phase ≠ .finished) :
    Brings (fun _ : Application => True) (fun next _ => loop.phase.Next next.phase)
      (loopStep dispatch patience loop) := by
  unfold loopStep
  cases phase : loop.phase with
  | check =>
    refine Brings.after fun a => .pure fun _ _ => ?_
    dsimp only
    split
    · exact .leaves
    · exact .stays
  | attend =>
    refine Brings.after fun pending => ?_
    cases pending with
    | false => exact .pure fun _ _ => .attended
    | true => exact Brings.after fun _ => .pure fun _ _ => .attended
  | poll => exact Brings.after fun _ => .after fun _ => .pure fun _ _ => .polled
  | execute =>
    refine Brings.after fun result => ?_
    cases result with
    | ok more =>
      refine .pure fun _ _ => ?_
      cases more with
      | true => exact .hasMore
      | false => exact .hasNoMore
    | error e => exact Brings.after fun _ => .after fun _ => .pure fun _ _ => .hasMore
  | rest =>
    refine Brings.after fun a => ?_
    split
    · exact .pure fun _ _ => .rested
    · exact Brings.after fun _ => .pure fun _ _ => .rested
  | finished => exact absurd phase unfinished

theorem Turns.next (turns : Turns dispatch patience s t) : s.1.phase.Next t.1.phase := by
  have returned : (loopStep dispatch patience s.1 s.2).1 = .returned t.1 := by rw [turns.2]
  exact loopStep_next s.1 turns.1 s.2 t.1 trivial returned

theorem config_turning (config : Config) : Turning dispatch fun a => a.config = config where
  onHost _ _ same _ := same
  reload _ same _ := same

theorem Turns.config (turns : Turns dispatch patience s t) : t.2.config = s.2.config :=
  (config_turning s.2.config).turns turns rfl

/-- The loop takes a step from each of some states, and comes to a last one. -/
inductive Passes (dispatch : Dispatch) (patience : Nat) :
    RunLoop × Application → List (RunLoop × Application) → RunLoop × Application → Prop
  | here (s : RunLoop × Application) : Passes dispatch patience s [] s
  | goes {s t last : RunLoop × Application} {passed : List (RunLoop × Application)}
      (turns : Turns dispatch patience s t) (rest : Passes dispatch patience t passed last) :
      Passes dispatch patience s (s :: passed) last

/-- The states that the loop passes in a number of steps, and the one that it comes to; fewer if it
ends before. -/
def course (dispatch : Dispatch) (patience : Nat) :
    Nat → RunLoop × Application → List (RunLoop × Application) × (RunLoop × Application)
  | 0, s => ([], s)
  | steps + 1, s =>
    if s.1.phase = .finished then ([], s)
    else
      match loopStep dispatch patience s.1 s.2 with
      | (.returned next, a) =>
        let later := course dispatch patience steps (next, a)
        (s :: later.1, later.2)
      | _ => ([], s)

theorem passes_course (dispatch : Dispatch) (patience steps : Nat) (s : RunLoop × Application) :
    Passes dispatch patience s (course dispatch patience steps s).1
      (course dispatch patience steps s).2 := by
  induction steps generalizing s with
  | zero => exact .here s
  | succ steps ih =>
    rw [course]
    split
    · exact .here s
    · rename_i unfinished
      split
      · rename_i stepped
        exact .goes ⟨unfinished, stepped⟩ (ih _)
      · exact .here s

theorem Loops.passes {failures : List Failure} (loops : Loops dispatch patience s failures last) :
    ∃ passed, Passes dispatch patience s passed last := by
  induction loops with
  | here => exact ⟨[], .here _⟩
  | fails _ turns _ ih | goes _ turns _ ih =>
    obtain ⟨passed, rest⟩ := ih
    exact ⟨_ :: passed, .goes turns rest⟩

/-- The configuration stays as it is. -/
theorem Passes.config (passes : Passes dispatch patience s passed last) :
    ∀ t ∈ passed ++ [last], t.2.config = s.2.config := by
  induction passes with
  | here s => exact List.forall_mem_singleton.2 rfl
  | goes turns _ ih =>
    exact List.forall_mem_cons.2 ⟨rfl, fun t later => (ih t later).trans turns.config⟩

/-- The loop goes from one look at the quit flag to the next one. -/
structure Round (dispatch : Dispatch) (patience : Nat) (s : RunLoop × Application)
    (passed : List (RunLoop × Application)) (last : RunLoop × Application) : Prop where
  passes : Passes dispatch patience s passed last
  opens : s.1.phase = .check
  closes : last.1.phase = .check
  goes : passed ≠ []
  between : ∀ t ∈ passed.tail, t.1.phase ≠ .check

/-- What the loop does on the way to its next look at the quit flag. -/
theorem Passes.ahead (passes : Passes dispatch patience s passed last)
    (closes : last.1.phase = .check) (between : ∀ t ∈ passed, t.1.phase ≠ .check) :
    passed.map (fun t => t.1.phase) ∈ s.1.phase.ahead := by
  induction passes with
  | here =>
    rw [closes]
    exact List.mem_singleton_self _
  | goes turns _ ih =>
    obtain ⟨other, others⟩ := List.forall_mem_cons.1 between
    exact turns.next.ahead other (ih closes others)

/-- In a round the loop polls once and attempts to run a task once, in this order. -/
theorem Round.phases (round : Round dispatch patience s passed last) :
    passed.map (fun t => t.1.phase) = [.check, .attend, .poll, .execute] ∨
      passed.map (fun t => t.1.phase) = [.check, .attend, .poll, .execute, .rest] := by
  obtain ⟨passes, opens, closes, goes, between⟩ := round
  cases passes with
  | here => exact absurd rfl goes
  | @goes _ t _ passed turns rest =>
    have ahead := rest.ahead closes between
    have next := turns.next
    rw [opens] at next
    generalize t.1.phase = second at next ahead
    cases next with
    | leaves => cases ahead
    | stays =>
      simp only [Phase.ahead, List.mem_cons, List.not_mem_nil, or_false] at ahead
      simpa [opens] using ahead

end Application

end PluginHost
