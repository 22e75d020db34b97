import PluginHost.Proofs.Application.RunResult
import PluginHost.Proofs.Application.StartResult
import PluginHost.Proofs.BringUp.Application
import PluginHost.Proofs.Plugin.Initializing

/-!
Requests to quit while plugins are brought up. They change nothing about bringing up: the same
plugins are called in the same order and answer the same. Only the run that follows finds the flag
set, and goes straight on to stop what runs, in the same order as it would have been stopped anyway.
-/

set_option autoImplicit false

namespace PluginHost

open Act (Leads Keeps Unbroken)

variable {dispatch : Dispatch}

namespace Ensemble

theorem setUp_unbroken (name : String) (options : Options) :
    Unbroken (setUp dispatch name options) := by
  intro e payload unwound
  rcases setUp_called dispatch name options e with ⟨stalled, _⟩ | ⟨_, _, returned, _⟩
  · rw [stalled] at unwound
    cases unwound
  · rw [returned] at unwound
    cases unwound

end Ensemble

namespace Application

theorem optionsSchema_unbroken : Unbroken optionsSchema := by
  have registered : ∀ types, Unbroken (registerTypes types) := by
    intro types
    induction types with
    | nil => exact .pure _
    | cons type rest ih =>
      exact ((Unbroken.look _).bind fun _ => Unbroken.within (.step _)).bind fun _ => ih
  have applied : Unbroken applyRegistered := by
    refine Unbroken.get.bind fun a => ?_
    split
    · exact .pure _
    · exact (registered _).bind fun _ => .modify _
  refine applied.bind fun _ => (Unbroken.look _).bind fun declared => ?_
  exact (onHost_unbroken (.modify _)).bind fun _ => .pure _

theorem warnOptions_unbroken (message : String) (names : List String) :
    Unbroken (warnOptions message names) := by
  induction names with
  | nil => exact .pure _
  | cons name rest ih => exact (tell_unbroken _ _ _).bind fun _ => ih

theorem setUpAll_unbroken (options : Options) (names : List String) :
    Unbroken (setUpAll dispatch options names) := by
  induction names with
  | nil => exact .pure _
  | cons name rest ih =>
    refine Unbroken.bind (Unbroken.within (Ensemble.setUp_unbroken name options)) fun result => ?_
    cases result with
    | ok _ => exact ih
    | error e => exact (tell_unbroken _ _ _).bind fun _ => .pure _

theorem setUp_unbroken (names : List String) (options : Options) :
    Unbroken (setUp dispatch names options) := by
  refine optionsSchema_unbroken.bind fun schema => ?_
  refine (warnOptions_unbroken _ _).bind fun _ => (warnOptions_unbroken _ _).bind fun _ => ?_
  refine (Unbroken.modify _).bind fun _ => (setUpAll_unbroken _ _).bind fun result => ?_
  cases result with
  | error e => exact .pure _
  | ok _ => exact (Unbroken.look _).bind fun _ => (tell_unbroken _ _ _).bind fun _ => .pure _

theorem setUps_unbroken (requests : List (List String × Options)) :
    Unbroken (setUps dispatch requests) := by
  induction requests with
  | nil => exact .pure _
  | cons request rest ih =>
    exact (setUp_unbroken request.1 request.2).bind fun _ => ih.bind fun _ => .pure _

theorem setUps_standing (requests : List (List String × Options)) :
    Keeps (Of (Ensemble.Standing [])) (setUps dispatch requests) := by
  induction requests with
  | nil => exact .pure _
  | cons request rest ih =>
    exact (standing_lasting.keeping.setUp request.1 request.2).andThen fun _ =>
      ih.andThen fun _ => .pure _

end Application

namespace Ensemble.Agree

variable {e f : Ensemble} (agree : e.Agree f)

include agree

theorem serialAt (index : Nat) :
    f.lifecycle.registry.serialAt index = e.lifecycle.registry.serialAt index := by
  have same := congrArg (fun faces => faces[index]?.map Prod.fst) agree.plugins
  simp only [List.getElem?_map, Option.map_map] at same
  exact same

theorem stateAt (index : Nat) : f.lifecycle.stateAt index = e.lifecycle.stateAt index := by
  have same := congrArg (fun faces => faces[index]?.map fun face => face.2.2.2) agree.plugins
  simp only [List.getElem?_map, Option.map_map] at same
  exact same

theorem nameAt (index : Nat) :
    f.lifecycle.registry.nameAt index = e.lifecycle.registry.nameAt index := by
  have same := congrArg (fun faces => (faces[index]?.map fun face => face.2.2.1).getD "") agree.plugins
  simp only [List.getElem?_map, Option.map_map] at same
  exact same

theorem runningNames : f.lifecycle.runningNames = e.lifecycle.runningNames := by
  rw [Lifecycle.runningNames, agree.running, Lifecycle.runningNames]
  exact List.map_congr_left fun index _ => agree.nameAt index

theorem fallingOrder : Ensemble.fallingOrder f.lifecycle = Ensemble.fallingOrder e.lifecycle := by
  rw [Ensemble.fallingOrder, agree.running, Ensemble.fallingOrder]
  exact List.filterMap_congr fun index _ => agree.serialAt index

theorem standing (standing : e.Standing []) : f.Standing [] := by
  obtain ⟨numbered, once, started, _, stopsOnce, gone⟩ := standing
  constructor
  · constructor
    · intro i s is
      rw [agree.serialAt] at is
      rw [agree.issued]
      exact numbered.issued i s is
    · intro i j s is js
      rw [agree.serialAt] at is js
      exact numbered.distinct i j s is js
  · rwa [agree.running]
  · intro i member
    rw [agree.running] at member
    rw [agree.stateAt]
    exact started i member
  · simp
  · rwa [agree.calls]
  · intro p member
    rw [agree.calls] at member
    obtain ⟨issued, absent⟩ := gone p member
    rw [agree.issued]
    exact ⟨issued, fun i => agree.serialAt i ▸ absent i⟩

end Ensemble.Agree

namespace Application

/-- What becomes of an application that is torn down: it goes on for ever in a call to stop, or
plugins are stopped in an order, and it answers. -/
def Falls (dispatch : Dispatch) (order : List Nat) (answer : List Reply → Except Failure Unit)
    (a : Application) (x : Flow (Except Failure Unit) × Application) : Prop :=
  x.1 = .stalled ∧ Ensemble.Stuck .stop a.ensemble x.2.ensemble ∨
    ∃ stops, x.1 = .returned (answer stops) ∧ TornDown dispatch a stops x.2 ∧
      stops.map Reply.number = order

theorem shutDown_falls (dispatch : Dispatch) {a : Application}
    (standing : a.ensemble.Standing []) :
    Falls dispatch (Ensemble.fallingOrder a.lifecycle) firstFailure a (shutDown dispatch a) := by
  rcases shutDown_answers dispatch standing with stuck | ⟨stops, returned, tornDown⟩
  · exact .inl stuck
  · exact .inr ⟨stops, returned, tornDown, numbers_eq tornDown.plugins⟩

/-- The application after a start that went well. -/
def launched (a : Application) (started : Ensemble) : Application :=
  (tell .info "Plugins started"
    [("plugins", .text (Text.quotedList started.lifecycle.runningNames))]
    { a with ensemble := started }).2

theorem standing_launched (a : Application) {e : Ensemble} (standing : e.Standing []) :
    (a.launched e).ensemble.Standing [] := standing.congr rfl rfl

theorem Agree.launched {a b : Application} {e f : Ensemble} (agree : a.Agree b)
    (started : e.Agree f) : (a.launched e).Agree (b.launched f) := by
  refine ⟨⟨started.plugins, started.issued, started.initialized, started.running, started.calls, ?_⟩,
    agree.options, agree.registeredApplied⟩
  unfold Application.launched
  rw [started.runningNames]
  exact started.host.tell _ _ _ _

theorem start_of_ok {a : Application} {e : Ensemble}
    (started : Ensemble.start dispatch a.ensemble = (.returned (.ok ()), e)) :
    start dispatch a = (.returned (.ok ()), a.launched e) := by
  have first : onEnsemble (Ensemble.start dispatch) a =
      (.returned (.ok ()), { a with ensemble := e }) := by
    simp only [onEnsemble, Act.within, started]
  rw [start, Act.bind_of_returned (a := .ok ()) (by rw [first]), first]
  rfl

theorem start_of_error {a : Application} {e : Ensemble} {failure : Failure}
    (started : Ensemble.start dispatch a.ensemble = (.returned (.error failure), e))
    (standing : e.Standing []) :
    Falls dispatch (Ensemble.fallingOrder e.lifecycle) (fun _ => .error failure)
      (a.unwinding e failure) (start dispatch a) := by
  have first : onEnsemble (Ensemble.start dispatch) a =
      (.returned (.error failure), { a with ensemble := e }) := by
    simp only [onEnsemble, Act.within, started]
  have told : tell .error "Startup failed, shutting down" [("error", .text failure.display)]
      { a with ensemble := e } = (.returned (), a.unwinding e failure) := rfl
  have stands : (a.unwinding e failure).ensemble.Standing [] := standing.congr rfl rfl
  rw [start, Act.bind_of_returned (a := .error failure) (by rw [first]), first]
  dsimp only
  rw [Act.bind_of_returned (a := ()) (by rw [told]), told]
  rcases shutDown_falls dispatch stands with stuck | ⟨stops, returned, tornDown, order⟩
  · exact .inl (stuck_bind stuck _)
  · rw [Act.bind_of_returned returned]
    cases firstFailure stops with
    | ok _ => exact .inr ⟨stops, rfl, tornDown, order⟩
    | error later => exact .inr ⟨stops, rfl, tornDown.tell _ _ _, order⟩

theorem conclude_of_fine {loop : RunLoop} (fine : loop.failure = none) (a : Application) :
    conclude dispatch loop a = shutDown dispatch a.closing := by
  have all : conclude dispatch loop a =
      (shutDown dispatch >>= fun result => pure result : Act Application _) a.closing := by
    rw [conclude, fine]
    rfl
  rw [all, bind_pure]

/-- The loop looks at the quit flag first. If it is set, no task is taken, no plugin is asked to
reload, and nobody is polled. -/
theorem run_of_quitting {a : Application} (quitting : a.host.control.quitting = true)
    (patience : Nat) :
    run dispatch (patience + 2) a = shutDown dispatch (openLoop a).2.closing := by
  have looked : loopStep dispatch (patience + 2) {} (openLoop a).2 =
      (.returned { phase := .finished }, (openLoop a).2) := by
    have set_ : (openLoop a).2.host.control.quitting = true := quitting
    simp only [loopStep, Act.bind_apply, Act.get_apply, set_, if_true, Act.pure_apply]
  have looped : loopSteps dispatch (patience + 2) (patience + 2) {} (openLoop a).2 =
      (.returned { phase := .finished }, (openLoop a).2) := by
    rw [loopSteps, if_neg (by decide), Act.bind_of_returned (by rw [looked]), looked, loopSteps,
      if_pos rfl]
    rfl
  rw [run, Act.bind_of_returned (a := {}) rfl, Act.bind_of_returned (by rw [looped]), looped]
  exact conclude_of_fine rfl _

theorem run_of_quitting_falls {a : Application} (standing : a.ensemble.Standing [])
    (quitting : a.host.control.quitting = true) (patience : Nat) :
    Falls dispatch (Ensemble.fallingOrder a.lifecycle) firstFailure (openLoop a).2.closing
      (run dispatch (patience + 2) a) := by
  have closed : (openLoop a).2.closing.ensemble.Standing [] := standing.congr rfl rfl
  rw [run_of_quitting quitting]
  exact shutDown_falls dispatch closed

/-- Whenever a run returns, those who ran before it are stopped. -/
theorem run_falls {a : Application} (standing : a.ensemble.Standing []) {patience : Nat}
    {result : Except Failure Unit} (returned : (run dispatch patience a).1 = .returned result) :
    ∃ last stops, TornDown dispatch last stops (run dispatch patience a).2 ∧
      stops.map Reply.number = Ensemble.fallingOrder a.lifecycle := by
  obtain ⟨_, last, stops, _, _, lifecycle, tornDown, _⟩ := run_answers standing returned
  have closed : last.2.closing.lifecycle = a.lifecycle := lifecycle
  refine ⟨_, stops, tornDown, ?_⟩
  rw [numbers_eq tornDown.plugins, closed]
  rfl

/-- Plugins are brought up to the end, and nothing that is run for it looks whether somebody asked
to quit. -/
def NeverLooks (depth : Nat) (requests : List (List String × Options)) (a : Application) : Prop :=
  (setUps (Code.unseeing depth) requests a).1 ≠ .stalled ∧
    (Ensemble.start (Code.unseeing depth)
      (setUps (Code.unseeing depth) requests a).2.ensemble).1 ≠ .stalled

/-- Plugins that ask to quit while they are set up and while they start, beside plugins that do the
same without asking; nobody of them looks at the flag. Whatever is asked for, the same plugins are
called in the same order and answer the same, and so do the requests themselves; the same plugins
come up in the same orders. If one fails to start, the same failure is the answer, and those that
ran are stopped in the same order. Else the plugins run, and a run finds the flag set: it takes no
task and asks nobody to reload, and goes straight on to stop those whom every other run that returns
stops too, in the same order. -/
theorem bringUp_of_quits {config : Config} {catalogue : Catalogue} {registered : List String}
    {h : Host} {a b : Application} {depth : Nat} {requests : List (List String × Options)}
    (undergoes : Undergoes (Code.runWithin depth) (new config catalogue registered h) a)
    (adds : a.AddsQuits b) (blind : a.NeverLooks depth requests) :
    ∃ results a₁ b₁ result e f,
      setUps (Code.runWithin depth) requests a = (.returned results, a₁) ∧
      setUps (Code.runWithin depth) requests b = (.returned results, b₁) ∧ a₁.Agree b₁ ∧
      Ensemble.start (Code.runWithin depth) a₁.ensemble = (.returned result, e) ∧
      Ensemble.start (Code.runWithin depth) b₁.ensemble = (.returned result, f) ∧ e.Agree f ∧
      (∀ failure, result = .error failure →
        Falls (Code.runWithin depth) (Ensemble.fallingOrder e.lifecycle) (fun _ => .error failure)
          (a₁.unwinding e failure) (start (Code.runWithin depth) a₁) ∧
        Falls (Code.runWithin depth) (Ensemble.fallingOrder e.lifecycle) (fun _ => .error failure)
          (b₁.unwinding f failure) (start (Code.runWithin depth) b₁)) ∧
      (result = .ok () →
        start (Code.runWithin depth) a₁ = (.returned (.ok ()), a₁.launched e) ∧
        start (Code.runWithin depth) b₁ = (.returned (.ok ()), b₁.launched f) ∧
        (a₁.launched e).Agree (b₁.launched f) ∧
        (∀ patience answer,
          (run (Code.runWithin depth) patience (a₁.launched e)).1 = .returned answer →
          ∃ last stops, TornDown (Code.runWithin depth) last stops
              (run (Code.runWithin depth) patience (a₁.launched e)).2 ∧
            stops.map Reply.number = Ensemble.fallingOrder e.lifecycle) ∧
        ((b₁.launched f).host.control.quitting = true → ∀ patience,
          run (Code.runWithin depth) (patience + 2) (b₁.launched f) =
            shutDown (Code.runWithin depth) (openLoop (b₁.launched f)).2.closing ∧
          Falls (Code.runWithin depth) (Ensemble.fallingOrder e.lifecycle) firstFailure
            (openLoop (b₁.launched f)).2.closing
            (run (Code.runWithin depth) (patience + 2) (b₁.launched f)))) := by
  obtain ⟨setsUp, starts⟩ := blind
  -- both runs follow the one that stops where the flag is looked at
  obtain ⟨sameA, addsA⟩ := setUps_matches requests a a adds.left setsUp
  obtain ⟨sameB, addsB⟩ := setUps_matches requests a b adds setsUp
  obtain ⟨startA, startedA⟩ := Ensemble.start_matches _ _ addsA.ensemble starts
  obtain ⟨startB, startedB⟩ := Ensemble.start_matches _ _ addsB.ensemble starts
  have agree : Agree _ _ := .of_adds addsA addsB
  have agreeStarted : Ensemble.Agree _ _ := .of_adds startedA startedB
  have ended : (setUps (Code.runWithin depth) requests a).1 ≠ .stalled := sameA ▸ setsUp
  have endedStart : (Ensemble.start (Code.runWithin depth)
    (setUps (Code.runWithin depth) requests a).2.ensemble).1 ≠ .stalled := startA ▸ starts
  have standing : (setUps (Code.runWithin depth) requests a).2.ensemble.Standing [] :=
    setUps_standing requests a (undergoes.standing (.fresh (openHost config h))) ended
  have stands := Ensemble.start_standing _ standing endedStart
  obtain ⟨results, returned⟩ : ∃ results,
      (setUps (Code.runWithin depth) requests a).1 = .returned results := by
    cases came : (setUps (Code.runWithin depth) requests a).1 with
    | returned results => exact ⟨results, rfl⟩
    | unwound payload => exact absurd came (setUps_unbroken requests a payload)
    | stalled => exact absurd came ended
  obtain ⟨result, came⟩ : ∃ result, (Ensemble.start (Code.runWithin depth)
      (setUps (Code.runWithin depth) requests a).2.ensemble).1 = .returned result := by
    rcases Ensemble.start_launches (Code.runWithin depth)
        (setUps (Code.runWithin depth) requests a).2.ensemble with
      ⟨stalled, _⟩ | ⟨_, result, came, _⟩
    · exact absurd stalled endedStart
    · exact ⟨result, came⟩
  have first := Prod.fst_eq_iff.1 returned
  have second := Prod.fst_eq_iff.1 (sameB.trans (sameA.symm.trans returned))
  have begun := Prod.fst_eq_iff.1 came
  have begunToo := Prod.fst_eq_iff.1 (startB.trans (startA.symm.trans came))
  refine ⟨results, _, _, result, _, _, first, second, agree, begun, begunToo, agreeStarted, ?_, ?_⟩
  · rintro failure rfl
    refine ⟨start_of_error begun stands, ?_⟩
    rw [← agreeStarted.fallingOrder]
    exact start_of_error begunToo (agreeStarted.standing stands)
  · rintro rfl
    have alike := agree.launched agreeStarted
    refine ⟨start_of_ok begun, start_of_ok begunToo, alike, fun patience answer ran => ?_,
      fun quitting patience => ⟨run_of_quitting quitting patience, ?_⟩⟩
    · exact run_falls (standing_launched _ stands) ran
    · rw [← agreeStarted.fallingOrder]
      exact run_of_quitting_falls (standing_launched _ (agreeStarted.standing stands)) quitting _

/-- A plugin that asks to quit while it is set up, and one that needs it and asks to quit before and
after it posts a task. All the same both come up and are stopped as they are without asking, but the
task is not run. -/
theorem bringUp_of_quits_of_two :
    let task : Code := .ask (.say (.note "task")) fun _ => .ask .quit fun _ => .nothing
    let base := fun ask : Code → Code =>
      { type := "Base", name := "base", setUp := fun _ => ask .nothing : Plugin }
    let top := fun ask : Code → Code =>
      { type := "Top", name := "top", requires := fun _ => [.named "base"]
        start := ask (.post 5 0 task fun _ => ask .nothing) : Plugin }
    let perform := fun (a : Application) (operation : Operation) =>
      (operation.perform (Code.runWithin 2) a).2
    let opened := fun ask : Code → Code =>
      [Operation.register (base ask), .register (top ask)].foldl perform (new {} [] [] {})
    let started := fun ask : Code → Code =>
      (start (Code.runWithin 2) (setUps (Code.runWithin 2) [(["top"], .empty)] (opened ask)).2).2
    let ran := fun ask : Code → Code => (run (Code.runWithin 2) 9 (started ask)).2
    (started id).Agree (started fun code => .ask .quit fun _ => code) ∧
      (started id).ensemble.calls =
        [.entered 0 .setUp, .left 0 .setUp true, .entered 1 .setUp, .left 1 .setUp true,
          .entered 0 .start, .left 0 .start true, .entered 1 .start, .left 1 .start true] ∧
      entries .stop (ran id).ensemble.calls = [1, 0] ∧
      entries .stop (ran fun code => .ask .quit fun _ => code).ensemble.calls = [1, 0] ∧
      .note "task" ∈ (ran id).host.journal.toList ∧
      .note "task" ∉ (ran fun code => .ask .quit fun _ => code).host.journal.toList := by
  intro task base top perform opened started ran
  have undergoes : Undergoes (Code.runWithin 2) (new {} [] [] {}) (opened id) := by
    refine .step (.register (top id)) (.step (.register (base id)) .refl ?_) ?_
    all_goals decide +kernel
  have quits : ∀ code : Code, code.AddsQuits (.ask .quit fun _ => code) := fun code =>
    .quit (.refl code)
  have bases : (base id).AddsQuits (base fun code => .ask .quit fun _ => code) :=
    ⟨rfl, rfl, rfl, rfl, fun _ _ _ => rfl, fun _ => quits _, .refl _, rfl, rfl, rfl⟩
  have tops : (top id).AddsQuits (top fun code => .ask .quit fun _ => code) :=
    ⟨rfl, rfl, rfl, rfl, fun _ _ _ => rfl, fun _ => .refl _, .quit (.post 5 0 task fun _ => quits _),
      rfl, rfl, rfl⟩
  have fresh : (new {} [] [] {}).AddsQuits (new {} [] [] {}) :=
    ⟨rfl, .nil, rfl, ⟨⟨⟨.nil, rfl, rfl⟩, rfl, rfl⟩, .refl _, rfl⟩, rfl, rfl, rfl⟩
  have adds : (opened id).AddsQuits (opened fun code => .ask .quit fun _ => code) :=
    (register_matches tops _ _ (register_matches bases _ _ fresh nofun).2 nofun).2
  have blind : (opened id).NeverLooks 2 [(["top"], .empty)] := by
    constructor <;> decide +kernel
  obtain ⟨results, a₁, b₁, result, e, f, setUp, setUpToo, _, begun, _, _, _, fine⟩ :=
    bringUp_of_quits undergoes adds blind
  have ok : result = .ok () := by
    have came : (Ensemble.start (Code.runWithin 2)
        (setUps (Code.runWithin 2) [(["top"], .empty)] (opened id)).2.ensemble).1 =
      .returned (.ok ()) := by decide +kernel
    rw [setUp, begun, Flow.returned.injEq] at came
    exact came
  obtain ⟨ended, endedToo, agree, _⟩ := fine ok
  refine ⟨?_, by decide +kernel, by decide +kernel, by decide +kernel, by decide +kernel,
    by decide +kernel⟩
  simpa only [started, setUp, setUpToo, ended, endedToo] using agree

end Application

end PluginHost
