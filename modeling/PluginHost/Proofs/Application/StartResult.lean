import PluginHost.Proofs.Application.TearDown
import PluginHost.Proofs.Plugin.Settled

/-!
What starting answers. A plugin that fails to start is the last one that is called to; then all that
ran is stopped, those of earlier starts too, and the failure of that plugin is the answer, whatever
the others answer when they are stopped.
-/

set_option autoImplicit false

namespace PluginHost

variable {dispatch : Dispatch}

/-- The record tells who failed. -/
theorem answer_of_left {hook : Hook} {replies : List Reply} {p : Nat}
    (left : .left p hook false ∈ replies.flatMap (Reply.calls hook)) :
    ∃ r ∈ replies, ¬ r.Fine := by
  obtain ⟨r, member, called⟩ := List.mem_flatMap.1 left
  refine ⟨r, member, ?_⟩
  rintro ⟨value, fine⟩
  simp [Reply.calls, fine, Except.toBool] at called

namespace Ensemble

/-- If no plugin fails to start, and none changes what it needs, all that is set up runs. -/
theorem start_through {e : Ensemble} (settled : e.Settled) (steady : e.lifecycle.registry.Steady)
    {replies : List Reply} {result : Except Failure Unit}
    (returned : (start dispatch e).1 = .returned result)
    (launched : Launched dispatch e replies (start dispatch e).2) (fine : ∀ r ∈ replies, r.Fine) :
    result = .ok () ∧ (start dispatch e).2.lifecycle.initialized = e.lifecycle.initialized ∧
      (start dispatch e).2.lifecycle.running = e.lifecycle.initialized := by
  rcases start_starts dispatch e (settled.sound steady) with
    stalled | ⟨waiting, outcome, calls, waits, came, recorded, starts⟩
  · rw [stalled] at returned
    cases returned
  · rw [came, Flow.returned.injEq] at returned
    subst returned
    have same : calls = replies.flatMap (Reply.calls .start) := by
      rw [launched.calls] at recorded
      exact (List.append_cancel_left recorded).symm
    have ok : outcome = .ok () := by
      cases outcome with
      | ok _ => rfl
      | error failure =>
        obtain ⟨p, left⟩ := starts.left_of_error rfl
        rw [same] at left
        obtain ⟨r, member, failed⟩ := answer_of_left left
        exact absurd (fine r member) failed
    obtain ⟨order, running⟩ := starts.through ok
    exact ⟨ok, order, running.trans waits.symm⟩

end Ensemble

namespace Application

def unwinding (a : Application) (started : Ensemble) (e : Failure) : Application :=
  (tell .error "Startup failed, shutting down" [("error", .text e.display)]
    { a with ensemble := started }).2

theorem settled_lasting : Lasting dispatch Ensemble.Settled where
  hostless := fun _ _ settled => settled.congr rfl rfl
  register _ := Ensemble.register_settled
  registerType _ := Ensemble.registerType_settled
  setUp := Ensemble.setUp_settled
  start := Ensemble.start_settled
  stop := Ensemble.stop_settled
  reload := Ensemble.reload_settled

/-- Starting goes on for ever in the call of a plugin, or what came of starting the plugins is the
answer. Of a start that failed all is torn down. -/
theorem start_answers (dispatch : Dispatch) {a : Application} (settled : a.ensemble.Settled) :
    ((start dispatch a).1 = .stalled ∧
      (Ensemble.Stuck .start a.ensemble (start dispatch a).2.ensemble ∨
        Ensemble.Stuck .stop a.ensemble (start dispatch a).2.ensemble)) ∨
    ∃ starts result, (start dispatch a).1 = .returned result ∧
      (Ensemble.start dispatch a.ensemble).1 = .returned result ∧
      Ensemble.Launched dispatch a.ensemble starts (Ensemble.start dispatch a.ensemble).2 ∧
      Ends starts result ∧
      (result = .ok () →
        (start dispatch a).2.lifecycle = (Ensemble.start dispatch a.ensemble).2.lifecycle ∧
        (start dispatch a).2.ensemble.calls = (Ensemble.start dispatch a.ensemble).2.calls) ∧
      ∀ e, result = .error e → ∃ stops,
        TornDown dispatch (a.unwinding (Ensemble.start dispatch a.ensemble).2 e) stops
          (start dispatch a).2 := by
  rcases Ensemble.start_launches dispatch a.ensemble with
    ⟨stalled, _, endless⟩ | ⟨starts, result, returned, launched, ends⟩
  · have never : (onEnsemble (Ensemble.start dispatch) a).1 = .stalled ∧
        Ensemble.Stuck .start a.ensemble (onEnsemble (Ensemble.start dispatch) a).2.ensemble :=
      ⟨stalled, endless.stuck⟩
    obtain ⟨stalled, stuck⟩ := stuck_bind never _
    exact .inl ⟨stalled, .inl stuck⟩
  · have first : (onEnsemble (Ensemble.start dispatch) a).1 = .returned result := returned
    rw [start, Act.bind_of_returned first]
    cases result with
    | ok _ =>
      exact .inr ⟨starts, .ok (), rfl, returned, launched, ends, fun _ => ⟨rfl, rfl⟩, nofun⟩
    | error e =>
      have through : (Ensemble.start dispatch a.ensemble).2.Settled := by
        apply Ensemble.start_settled a.ensemble settled
        rw [returned]
        exact nofun
      dsimp only
      rw [Act.bind_of_returned (a := ()) rfl]
      generalize told : (tell .error _ _ (onEnsemble (Ensemble.start dispatch) a).2).2 = b
      have same : a.unwinding (Ensemble.start dispatch a.ensemble).2 e = b := told
      have standing : b.ensemble.Standing [] := by
        rw [← same]
        exact through.standing.congr rfl rfl
      have recorded : b.ensemble.calls =
          a.ensemble.calls ++ starts.flatMap (Reply.calls .start) := by
        rw [← same]
        exact launched.calls
      rcases shutDown_answers dispatch standing with
        never | ⟨stops, came, tornDown⟩
      · obtain ⟨stalled, stuck⟩ := stuck_bind never _
        exact .inl ⟨stalled, .inr (stuck.trans recorded)⟩
      · rw [Act.bind_of_returned came]
        generalize firstFailure stops = later
        cases later with
        | ok _ =>
          refine .inr ⟨starts, .error e, rfl, returned, launched, ends, nofun, ?_⟩
          rintro _ ⟨⟩
          exact ⟨stops, same ▸ tornDown⟩
        | error failure =>
          refine .inr ⟨starts, .error e, rfl, returned, launched, ends, nofun, ?_⟩
          rintro _ ⟨⟩
          exact ⟨stops, same ▸ tornDown.tell _ _ _⟩

/-- Starting, whatever came before and however plugins behave. If it does not go on for ever in the
call of one, nobody is called to start after one that failed, and that failure is the answer. When
starting fails, exactly those are stopped that were called to start since plugins were last stopped,
each once and the last one first, and the application is left empty and quitting, whatever they
answer. If nobody fails, and the plugins there are do not change what they need, all that is set up
runs in that order. -/
theorem start_result {config : Config} {catalogue : Catalogue} {registered : List String}
    {h : Host} {a : Application}
    (undergoes : Undergoes dispatch (new config catalogue registered h) a) :
    ((start dispatch a).1 = .stalled ∧
      (Ensemble.Stuck .start a.ensemble (start dispatch a).2.ensemble ∨
        Ensemble.Stuck .stop a.ensemble (start dispatch a).2.ensemble)) ∨
    ∃ starts started result, (start dispatch a).1 = .returned result ∧
      Ensemble.Launched dispatch a.ensemble starts started ∧
      (∀ before r later e, starts = before ++ r :: later → r.answer = .error e →
        later = [] ∧ result = .error e) ∧
      (∀ e, result = .error e → ∃ stops,
        TornDown dispatch (a.unwinding started e) stops (start dispatch a).2 ∧
        stops.map Reply.number = (entries .start (sinceStop started.calls)).reverse ∧
        (stops.map Reply.number).Nodup) ∧
      (a.lifecycle.registry.Steady → (∀ r ∈ starts, r.Fine) →
        result = .ok () ∧ (start dispatch a).2.ensemble.calls = started.calls ∧
        (start dispatch a).2.lifecycle.initialized = a.lifecycle.initialized ∧
        (start dispatch a).2.lifecycle.running = a.lifecycle.initialized) := by
  have settled : a.ensemble.Settled := undergoes.lasting settled_lasting (.fresh (openHost config h))
  rcases start_answers dispatch settled with
    never | ⟨starts, result, returned, came, launched, ends, fine, failed⟩
  · exact .inl never
  · refine .inr ⟨starts, _, result, returned, launched, ?_, ?_, ?_⟩
    · intro before r later e split own
      exact ends.of_failed split own
    · intro e error
      have through : (Ensemble.start dispatch a.ensemble).2.Settled := by
        apply Ensemble.start_settled a.ensemble settled
        rw [came]
        exact nofun
      obtain ⟨stops, tornDown⟩ := failed e error
      have numbers : stops.map Reply.number =
          Ensemble.fallingOrder (Ensemble.start dispatch a.ensemble).2.lifecycle :=
        numbers_eq tornDown.plugins
      refine ⟨stops, tornDown, ?_, ?_⟩
      · rw [numbers, through.since, Ensemble.fallingOrder, List.filterMap_reverse]
      · rw [numbers]
        exact Ensemble.fallingOrder_nodup through.standing
    · intro steady all
      obtain ⟨ok, order, running⟩ := Ensemble.start_through settled steady came launched all
      obtain ⟨lifecycle, calls⟩ := fine ok
      refine ⟨ok, calls, ?_, ?_⟩
      · rw [lifecycle, order]
        rfl
      · rw [lifecycle, running]
        rfl

/-- A plugin fails to start after another one was started before, and that one fails to stop: both
are stopped, and the answer is the failure to start. -/
theorem start_result_of_two :
    let base : Plugin := { type := "Base", name := "base", stop := .panic (.text "base") }
    let top : Plugin :=
      { type := "Top", name := "top", start := .fail (.new .plugin "top")
        requires := fun _ => [.named "base"] }
    let perform := fun (a : Application) (operation : Operation) =>
      (operation.perform (Code.runWithin 1) a).2
    let a := [Operation.register base, .setUp ["base"] .empty, .start, .register top,
      .setUp ["top"] .empty].foldl perform (new {} [] [] {})
    (start (Code.runWithin 1) a).1 = .returned (.error (.new .plugin "top")) ∧
      (start (Code.runWithin 1) a).2.Emptied ∧
      entries .start a.ensemble.calls = [0] ∧
      entries .stop (start (Code.runWithin 1) a).2.ensemble.calls = [1, 0] := by
  intro base top perform a
  have undergoes : Undergoes (Code.runWithin 1) (new {} [] [] {}) a := by
    refine .step _ (.step (.register top) (.step .start (.step (.setUp ["base"] .empty)
      (.step (.register base) .refl ?_) ?_) ?_) ?_) ?_
    all_goals decide +kernel
  have returned : (start (Code.runWithin 1) a).1 = .returned (.error (.new .plugin "top")) := by
    decide +kernel
  rcases start_result undergoes with ⟨stalled, _⟩ | ⟨_, _, result, came, _, _, failed, _⟩
  · rw [stalled] at returned
    cases returned
  · rw [returned, Flow.returned.injEq] at came
    obtain ⟨_, tornDown, _⟩ := failed _ came.symm
    exact ⟨returned, tornDown.emptied, by decide +kernel, by decide +kernel⟩

/-- A plugin that needs more after it was set up than before: nobody is called to start, and yet
starting fails. -/
theorem start_fails_of_changed_needs :
    let base : Plugin :=
      { type := "Base", name := "base"
        requires := fun h => if h.registers.isEmpty then [] else [.named "ghost"]
        setUp := fun _ => .ask (.remember "up" .null) fun _ => .nothing }
    let perform := fun (a : Application) (operation : Operation) =>
      (operation.perform (Code.runWithin 1) a).2
    let a := [Operation.register base, .setUp ["base"] .empty].foldl perform (new {} [] [] {})
    a.lifecycle.initialized = [0] ∧
      (start (Code.runWithin 1) a).1 = .returned (.error (.dependencyMissing "base" "ghost")) ∧
      entries .start (start (Code.runWithin 1) a).2.ensemble.calls = [] ∧
      (start (Code.runWithin 1) a).2.lifecycle.initialized = [] := by
  decide +kernel

end Application

end PluginHost
