import PluginHost.Proofs.Application.Rounds
import PluginHost.Proofs.Executor.Continuation
import PluginHost.Proofs.RunLoop.Carried
import PluginHost.Proofs.RunLoop.PlannedPolls

/-!
How much the loop polls between tasks. In each of its rounds the loop polls in one batch and then
attempts to run a task, so however much there is to do for the reactor, no more polls come before a
task than fit into the batches of the rounds so far.
-/

set_option autoImplicit false

namespace PluginHost

open Act (Keeps)

namespace Application

variable {dispatch : Dispatch} {patience : Nat} {s t last : RunLoop × Application}
  {passed : List (RunLoop × Application)}

def pollsAt (dispatch : Dispatch) (s : RunLoop × Application) : Nat :=
  if s.1.phase = .poll then
    Polling.pollsMade (Host.pollOnce dispatch) (max s.2.config.executor.pollBatch 1) s.2.host
  else 0

def polls (dispatch : Dispatch) : List (RunLoop × Application) → Nat
  | [] => 0
  | s :: rest => pollsAt dispatch s + polls dispatch rest

def doesPoll (s : RunLoop × Application) : Bool := s.1.phase = .poll

def attempts (s : RunLoop × Application) : Bool := s.1.phase = .execute

def begins (s : RunLoop × Application) : Bool :=
  attempts s && (Executor.Call.begin.make s.2.host.executor).1.begun?.isSome

theorem doesPoll_iff : doesPoll s = true ↔ s.1.phase = .poll := decide_eq_true_iff

theorem attempts_iff : attempts s = true ↔ s.1.phase = .execute := decide_eq_true_iff

theorem pollsAt_le (dispatch : Dispatch) (s : RunLoop × Application) :
    pollsAt dispatch s ≤ if doesPoll s then max s.2.config.executor.pollBatch 1 else 0 := by
  simp only [pollsAt, doesPoll_iff]
  split
  · exact Polling.pollsMade_le _ _
  · exact Nat.le_refl 0

/-- Each state that the loop polls from adds one batch at most. -/
theorem polls_le (dispatch : Dispatch) {config : Config} (states : List (RunLoop × Application))
    (same : ∀ s ∈ states, s.2.config = config) :
    polls dispatch states ≤ states.countP doesPoll * max config.executor.pollBatch 1 := by
  induction states with
  | nil => exact Nat.zero_le _
  | cons s rest ih =>
    obtain ⟨own, others⟩ := List.forall_mem_cons.1 same
    have first := pollsAt_le dispatch s
    have later := ih others
    rw [own] at first
    rw [polls, List.countP_cons]
    split at first
    · rename_i does
      rw [if_pos does, Nat.add_mul, Nat.one_mul]
      omega
    · rename_i does
      rw [if_neg does, Nat.add_zero]
      omega

theorem not_attempts_of_doesPoll (does : doesPoll s = true) : attempts s = false := by
  rw [attempts, doesPoll_iff.1 does]
  rfl

/-- After a batch of polls the loop attempts to run a task. -/
theorem Turns.attempts_of_doesPoll (turns : Turns dispatch patience s t) (does : doesPoll s = true) :
    attempts t = true := by
  have next := turns.next
  rw [doesPoll_iff.1 does] at next
  rw [attempts_iff]
  generalize t.1.phase = second at next
  cases next
  rfl

/-- There is one batch more at most than attempts to run a task, and none more if an attempt comes
first. -/
theorem Passes.batches_le (passes : Passes dispatch patience s passed last) :
    (passed ++ [last]).countP doesPoll + (attempts s).toNat ≤ passed.countP attempts + 1 := by
  induction passes with
  | here s =>
    rw [List.nil_append, List.countP_singleton]
    cases does : doesPoll s with
    | true => simp [not_attempts_of_doesPoll does]
    | false => simp [Bool.toNat_le]
  | @goes s t last passed turns _ ih =>
    rw [List.cons_append, List.countP_cons, List.countP_cons]
    cases does : doesPoll s with
    | true =>
      -- the attempt after this batch is counted among the later states
      simp only [turns.attempts_of_doesPoll does, not_attempts_of_doesPoll does, Bool.toNat_true,
        Bool.toNat_false, if_true, Bool.false_eq_true, if_false, Nat.add_zero] at ih ⊢
      exact ih
    | false =>
      simp only [Bool.false_eq_true, if_false, Nat.add_zero]
      cases attempts s with
      | true =>
        simp only [if_true, Bool.toNat_true]
        omega
      | false =>
        simp only [Bool.false_eq_true, if_false, Bool.toNat_false]
        omega

theorem Passes.polls_le (passes : Passes dispatch patience s passed last)
    (opens : attempts s = false) :
    polls dispatch (passed ++ [last]) ≤
      (passed.countP attempts + 1) * max s.2.config.executor.pollBatch 1 := by
  have few := passes.batches_le
  rw [opens, Bool.toNat_false, Nat.add_zero] at few
  exact (Application.polls_le dispatch _ passes.config).trans (Nat.mul_le_mul_right _ few)

/-- In a round there are no more polls than fit into one batch. -/
theorem Round.polls_le (round : Round dispatch patience s passed last) :
    polls dispatch passed ≤ max s.2.config.executor.pollBatch 1 := by
  have one : passed.countP doesPoll = 1 := by
    have counts : passed.countP doesPoll =
        (passed.map fun t => t.1.phase).countP fun phase => phase = .poll := by
      rw [List.countP_map]
      rfl
    rw [counts]
    rcases round.phases with phases | phases <;> rw [phases] <;> rfl
  have bound := Application.polls_le dispatch passed fun t member =>
    round.passes.config t (List.mem_append_left _ member)
  rwa [one, Nat.one_mul] at bound

/-- A step that polls makes one batch. -/
theorem loopStep_poll (does : s.1.phase = .poll) :
    loopStep dispatch patience s.1 s.2 =
      (onHost (Host.pollBatch dispatch (max s.2.config.executor.pollBatch 1)) >>= fun _ =>
        pure { s.1 with phase := .execute }) s.2 := by
  unfold loopStep
  simp only [does]
  exact Act.bind_of_returned (a := s.2) rfl

section Planned

variable {plan : Plan Code} {counted depth : Nat}

open Host (Planned)

/-- Every step that does not poll leaves the count of a planned reactor as it is. -/
theorem loopStep_planned {loop : RunLoop} (other : loop.phase ≠ .poll) :
    Keeps (fun a : Application => a.host.Planned plan counted)
      (loopStep (Code.runWithin depth) patience loop) := by
  have carried : Host.Carried (Code.runWithin depth) (Planned plan counted) :=
    ⟨fun _ _ planned => planned, Host.runWithin_planned⟩
  unfold loopStep
  cases phase : loop.phase with
  | check => exact Act.Leads.get.andThen fun _ => .pure _
  | attend =>
    have takes : Keeps (Planned plan counted) (Act.step Host.takeReload) :=
      .step fun _ planned => planned
    refine (Host.Carried.onApplication takes).andThen fun pending => ?_
    cases pending with
    | false => exact .pure _
    | true => exact carried.dispatchReload.andThen fun _ => .pure _
  | poll => exact absurd phase other
  | execute =>
    refine (Host.Carried.onApplication Host.execute_planned).andThen fun result => ?_
    cases result with
    | ok more => exact .pure _
    | error e =>
      have quits : Keeps (Planned plan counted) (Act.modify Host.quit) :=
        .modify fun h planned => planned.spared (h.sparesReactor_answer .quit)
      refine (Host.Carried.onApplication (carried.tell _ _ _ _)).andThen fun _ => ?_
      exact (Host.Carried.onApplication quits).andThen fun _ => .pure _
  | rest =>
    refine Act.Leads.get.andThen fun a => ?_
    split
    · exact .pure _
    · exact (Host.Carried.onApplication (Host.block_planned patience)).andThen fun _ => .pure _
  | finished => exact .pure _

theorem Turns.planned (turns : Turns (Code.runWithin depth) patience s t)
    (planned : s.2.host.Planned plan counted) :
    t.2.host.Planned plan (counted + pollsAt (Code.runWithin depth) s) := by
  have stepped := turns.2
  by_cases does : s.1.phase = .poll
  · rw [loopStep_poll does] at stepped
    obtain ⟨n, batch, same⟩ := Act.returned_of_bind (congrArg Prod.fst stepped)
    rw [same] at stepped
    have after : t.2 = (onHost (Host.pollBatch (Code.runWithin depth)
        (max s.2.config.executor.pollBatch 1)) s.2).2 := (congrArg Prod.snd stepped).symm
    rw [after, pollsAt, if_pos does]
    exact Host.pollBatch_planned planned (Act.ended_of_returned batch)
  · have kept := loopStep_planned does s.2 planned
      (Act.ended_of_returned (congrArg Prod.fst stepped))
    rw [stepped] at kept
    rwa [pollsAt, if_neg does, Nat.add_zero]

/-- Wherever the loop comes to, a planned reactor has counted the polls that were made on the way. -/
theorem Passes.planned (passes : Passes (Code.runWithin depth) patience s passed last)
    (planned : s.2.host.Planned plan counted) :
    last.2.host.Planned plan (counted + polls (Code.runWithin depth) passed) := by
  induction passes generalizing counted with
  | here => exact planned
  | goes turns _ ih =>
    rw [polls, ← Nat.add_assoc]
    exact ih (turns.planned planned)

end Planned

/-- Where a task begins the loop runs it, however code behaves. -/
theorem begins_iff : begins s = true ↔ s.1.phase = .execute ∧ ∃ task hint h,
    ∀ dispatch, Host.execute dispatch s.2.host = Host.runTask dispatch task hint h := by
  rw [begins, Bool.and_eq_true, attempts_iff]
  apply and_congr_right
  intro _
  rcases s.2.host.execute_begin with
    ⟨begun, hint, rest, journal, began, runs⟩ | ⟨none_, flow, journal, passes⟩
  · rw [began]
    exact iff_of_true rfl ⟨_, _, _, runs⟩
  · rw [none_]
    refine iff_of_false nofun ?_
    rintro ⟨task, hint, h, runs⟩
    -- what runs no task ends alike whatever code does, and a task may go on for ever or not
    have stalls := (passes fun _ => Act.stall).symm.trans (runs fun _ => Act.stall)
    have returns := (passes fun _ => pure (.ok .null)).symm.trans (runs fun _ => pure (.ok .null))
    cases (congrArg Prod.fst stalls).symm.trans (congrArg Prod.fst returns)

theorem begins_of_hasWork (execute : s.1.phase = .execute) (works : s.2.host.executor.HasWork) :
    begins s = true := by
  rcases Host.wouldRun_or_wouldRest works.1 with ⟨_, task, queue, hint, rest, _, runs⟩ | ⟨none_, _⟩
  · exact begins_iff.2 ⟨execute, task, hint, _, runs⟩
  · exact absurd works none_

/-- Where polls return and keep a property, the loop attempts to run a task after a batch of them,
whether they make progress or not. -/
theorem turns_of_polls {P : Host → Prop}
    (returns : ∀ h, P h → ∃ progressed, (Host.pollOnce dispatch h).1 = .returned progressed ∧
      P (Host.pollOnce dispatch h).2)
    (does : s.1.phase = .poll) (holds : P s.2.host) :
    ∃ t, Turns dispatch patience s t ∧ t.1.phase = .execute ∧ P t.2.host := by
  obtain ⟨n, returned, kept⟩ :=
    Polling.pollUpTo_returns returns (max s.2.config.executor.pollBatch 1) holds
  rw [← Host.pollBatch_eq_pollUpTo] at returned kept
  have batch : (onHost (Host.pollBatch dispatch (max s.2.config.executor.pollBatch 1)) s.2).1 =
    .returned n := returned
  refine ⟨({ s.1 with phase := .execute }, (onHost (Host.pollBatch dispatch
    (max s.2.config.executor.pollBatch 1)) s.2).2), ⟨by rw [does]; exact nofun, ?_⟩, rfl, kept⟩
  rw [loopStep_poll does, Act.bind_of_returned batch]
  rfl

/-- Polls are bounded. A batch over any reactor answers the smaller one of its limit and the number of
polls in a row that make progress, and makes one poll more if that is below the limit. So does each
batch of a host that answers. In each round of the loop there is one batch, of no more polls than are
configured and of one if none are, and then one attempt to run a task. So wherever the loop of a run
comes to, the polls so far, those of the next step included, fit into one batch more than there were
attempts; and if each of them began a task, then they fit into as many batches as tasks have begun
when the next one begins. A planned reactor has counted just these polls itself. However much there is
to do for the reactor, if its polls return the loop goes on to attempt to run a task, and one begins
if there is work. -/
theorem polls_bounded (depth patience : Nat) (a : Application) :
    let dispatch := Code.runWithin depth
    let batch := max a.config.executor.pollBatch 1
    let start : RunLoop × Application := ({}, (openLoop a).2)
    (∀ (σ : Type) (poll : σ → Bool × σ) (limit : Nat) (s : σ), ∃ n,
      (Polling.pollUpTo (Act.step poll) limit s).1 = .returned n ∧
        Polling.Batch (Act.step poll) limit s n) ∧
    (∀ limit h n, (Host.pollBatch dispatch limit h).1 = .returned n →
      Polling.Batch (Host.pollOnce dispatch) limit h n) ∧
    (∀ before s passed last, Passes dispatch patience start before s →
      Round dispatch patience s passed last →
        polls dispatch passed ≤ batch ∧
        (passed.map (fun t => t.1.phase) = [.check, .attend, .poll, .execute] ∨
          passed.map (fun t => t.1.phase) = [.check, .attend, .poll, .execute, .rest])) ∧
    (∀ passed s, Passes dispatch patience start passed s →
      polls dispatch (passed ++ [s]) ≤ (passed.countP attempts + 1) * batch ∧
      ((∀ t ∈ passed, attempts t = true → begins t = true) →
        polls dispatch (passed ++ [s]) ≤ (passed.countP begins + 1) * batch) ∧
      ∀ plan counted, a.host.Planned plan counted →
        s.2.host.Planned plan (counted + polls dispatch passed)) ∧
    (∀ result, (run dispatch patience a).1 = .returned result →
      ∃ passed ended, loopSteps dispatch patience patience {} (openLoop a).2 =
          (.returned ended.1, ended.2) ∧
        Passes dispatch patience start passed ended ∧ ended.1.phase = .finished) ∧
    ∀ P : Host → Prop,
      (∀ h, P h → ∃ progressed, (Host.pollOnce dispatch h).1 = .returned progressed ∧
        P (Host.pollOnce dispatch h).2) →
      ∀ s, s.1.phase = .poll → P s.2.host →
        ∃ t, Turns dispatch patience s t ∧ t.1.phase = .execute ∧ P t.2.host ∧
          (t.2.host.executor.HasWork → begins t = true) := by
  intro dispatch batch start
  refine ⟨fun σ => Polling.batch_of_step, fun limit h n returned => ?_, ?_, ?_, ?_, ?_⟩
  · rw [Host.pollBatch_eq_pollUpTo] at returned
    exact Polling.batch_of_returned returned
  · intro before s passed last reached round
    have same : s.2.config = a.config :=
      reached.config s (List.mem_append_right _ (List.mem_singleton_self s))
    have few := round.polls_le
    rw [same] at few
    exact ⟨few, round.phases⟩
  · intro passed s passes
    have few : polls dispatch (passed ++ [s]) ≤ (passed.countP attempts + 1) * batch :=
      passes.polls_le rfl
    refine ⟨few, fun all => ?_, fun plan counted planned => passes.planned planned⟩
    have each : passed.countP attempts ≤ passed.countP begins := List.countP_mono_left all
    exact few.trans (Nat.mul_le_mul_right _ (Nat.add_le_add_right each 1))
  · intro result returned
    rw [run, Act.bind_of_returned (a := {}) rfl] at returned
    obtain ⟨loop, looped, _⟩ := Act.returned_of_bind returned
    obtain ⟨finished, failures, loops⟩ := loopSteps_loops looped
    obtain ⟨passed, passes⟩ := loops.passes
    exact ⟨passed, (loop, _), Prod.ext looped rfl, passes, finished⟩
  · intro P returns s does holds
    obtain ⟨t, turns, executes, kept⟩ := turns_of_polls returns does holds
    exact ⟨t, turns, executes, kept, begins_of_hasWork executes⟩

/-- A reactor that is always busy, three tasks and one that quits: three polls come before each of
the four tasks, and no more. -/
theorem polls_bounded_of_busy :
    let busy : Plan Code :=
      { productive := fun _ => true, onPoll := fun _ => .nothing, onBlock := fun _ => .nothing }
    let perform := fun (a : Application) (operation : Operation) =>
      (operation.perform (Code.runWithin 2) a).2
    let high : Operation := .elsewhere fun h => (h.post priority.high 0 .nothing).2
    let quit : Operation :=
      .elsewhere fun h => (h.post priority.lowest 0 (.ask .quit fun _ => .nothing)).2
    let a := [high, high, high, quit].foldl perform
      (new { executor := { pollBatch := 3 } } [] [] { reactor := .planned busy 0 0 })
    let start : RunLoop × Application := ({}, (openLoop a).2)
    let round := course (Code.runWithin 2) 20 4 start
    let fourth := course (Code.runWithin 2) 20 15 start
    Polling.Batch (Host.pollOnce (Code.runWithin 2)) 3 a.host 3 ∧
    (Round (Code.runWithin 2) 20 start round.1 round.2 ∧ polls (Code.runWithin 2) round.1 ≤ 3) ∧
    (begins fourth.2 = true ∧ fourth.1.countP begins = 3 ∧
      polls (Code.runWithin 2) (fourth.1 ++ [fourth.2]) = 12 ∧
      polls (Code.runWithin 2) (fourth.1 ++ [fourth.2]) ≤ (fourth.1.countP begins + 1) * 3) ∧
    (∃ passed ended, Passes (Code.runWithin 2) 20 start passed ended ∧
      ended.1.phase = .finished ∧ polls (Code.runWithin 2) passed = 12) ∧
    ∃ t, Turns (Code.runWithin 2) 20 ({ phase := .poll }, (openLoop a).2) t ∧ begins t = true := by
  intro busy perform high quit a start round fourth
  obtain ⟨_, batches, rounds, bounds, runs, goesOn⟩ := polls_bounded 2 20 a
  refine ⟨batches 3 a.host 3 (by decide +kernel), ?_, ?_, ?_, ?_⟩
  · have goes : Round (Code.runWithin 2) 20 start round.1 round.2 :=
      ⟨passes_course _ _ 4 start, rfl, by decide +kernel, by decide +kernel, by decide +kernel⟩
    exact ⟨goes, (rounds [] start _ _ (.here start) goes).1⟩
  · have each : fourth.1.all (fun t => !attempts t || begins t) = true := by decide +kernel
    refine ⟨by decide +kernel, by decide +kernel, by decide +kernel, ?_⟩
    refine (bounds fourth.1 fourth.2 (passes_course _ _ 15 start)).2.1 fun t member attempting => ?_
    simpa only [attempting, Bool.not_true, Bool.false_or] using List.all_eq_true.1 each t member
  · have returned : (run (Code.runWithin 2) 20 a).1 = .returned (.ok ()) := by decide +kernel
    obtain ⟨passed, ended, looped, passes, finished⟩ := runs _ returned
    have counted : ended.2.host.reactor.polls = 12 := by
      have evaluated : (loopSteps (Code.runWithin 2) 20 20 {} (openLoop a).2).2.host.reactor.polls =
        12 := by decide +kernel
      rwa [looped] at evaluated
    obtain ⟨_, _, counts⟩ := bounds passed ended passes
    rw [(counts busy 0 ⟨0, rfl⟩).polls_eq, Nat.zero_add] at counted
    exact ⟨passed, ended, passes, finished, counted⟩
  · have keeps : ∀ h : Host, (∃ polls, h.Planned busy polls) ∧ h.executor.HasWork →
        ∃ progressed, (Host.pollOnce (Code.runWithin 2) h).1 = .returned progressed ∧
          (∃ polls, (Host.pollOnce (Code.runWithin 2) h).2.Planned busy polls) ∧
          (Host.pollOnce (Code.runWithin 2) h).2.executor.HasWork := by
      rintro h ⟨⟨counted, blocks, reactor⟩, works⟩
      simp only [Host.pollOnce, reactor]
      exact ⟨true, rfl, ⟨counted + 1, blocks, rfl⟩, works⟩
    have works : (openLoop a).2.host.executor.HasWork :=
      ⟨.inl rfl, 0, by decide +kernel, Policy.serves_defaultQueue.2 rfl⟩
    obtain ⟨t, turns, _, ⟨_, works⟩, begins⟩ :=
      goesOn _ keeps ({ phase := .poll }, (openLoop a).2) rfl ⟨⟨0, 0, rfl⟩, works⟩
    exact ⟨t, turns, begins works⟩

end Application

end PluginHost
