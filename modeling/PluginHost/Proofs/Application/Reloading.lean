import PluginHost.Proofs.Application.RunResult
import PluginHost.Proofs.Plugin.Reloading
import PluginHost.Proofs.RunLoop.Followed
import PluginHost.Proofs.RunLoop.Requests

set_option autoImplicit false

namespace PluginHost

open Act (Leads Keeps InSteps)

variable {dispatch : Dispatch}

namespace Application

theorem listed_lasting : Lasting dispatch Ensemble.Listed where
  hostless := fun _ _ listed => listed
  register _ := Ensemble.register_listed
  registerType _ := Ensemble.registerType_listed
  setUp := Ensemble.setUp_listed
  start := Ensemble.start_listed
  stop := Ensemble.stop_listed
  reload := Ensemble.reload_listed

/-- The loop goes from one state to another, and answers so many requests to reload on the way. -/
inductive Attended (dispatch : Dispatch) (patience : Nat) :
    RunLoop × Application → Nat → RunLoop × Application → Prop
  | here (s : RunLoop × Application) : Attended dispatch patience s 0 s
  | attends {s t last : RunLoop × Application} {n : Nat} (attends : Attends s)
      (turns : Turns dispatch patience s t) (rest : Attended dispatch patience t n last) :
      Attended dispatch patience s (n + 1) last
  | goes {s t last : RunLoop × Application} {n : Nat} (other : ¬ Attends s)
      (turns : Turns dispatch patience s t) (rest : Attended dispatch patience t n last) :
      Attended dispatch patience s n last

theorem Loops.attended {patience : Nat} {s last : RunLoop × Application} {failures : List Failure}
    (loops : Loops dispatch patience s failures last) :
    ∃ n, Attended dispatch patience s n last := by
  induction loops with
  | here => exact ⟨0, .here _⟩
  | @fails s _ _ _ _ _ turns _ ih | @goes s _ _ _ _ turns _ ih =>
    obtain ⟨n, rest⟩ := ih
    by_cases attends : Attends s
    · exact ⟨n + 1, .attends attends turns rest⟩
    · exact ⟨n, .goes attends turns rest⟩

theorem Turning.turns {R : Application → Prop} (turning : Turning dispatch R) {patience : Nat}
    {s t : RunLoop × Application} (turns : Turns dispatch patience s t) (holds : R s.2) : R t.2 := by
  obtain ⟨_, stepped⟩ := turns
  have kept := turning.loopStep patience _ _ holds (Act.ended_of_returned (congrArg Prod.fst stepped))
  rwa [stepped] at kept

/-- Whatever the loop keeps in one step holds wherever it comes to. -/
theorem Turning.attended {R : Application → Prop} (turning : Turning dispatch R) {patience n : Nat}
    {s t : RunLoop × Application} (attended : Attended dispatch patience s n t) (holds : R s.2) :
    R t.2 := by
  induction attended with
  | here => exact holds
  | attends _ turns _ ih | goes _ turns _ ih => exact ih (turning.turns turns holds)

/-- No other step calls plugins. -/
theorem Turns.host_only {patience : Nat} {s t : RunLoop × Application}
    (turns : Turns dispatch patience s t) (other : ¬ Attends s) :
    ∃ h, t.2 = { s.2 with ensemble := { s.2.ensemble with host := h } } := by
  obtain ⟨_, stepped⟩ := turns
  by_cases attends : s.1.phase = .attend
  · have unasked : s.2.host.control.reload = false :=
      Bool.eq_false_iff.2 fun asked => other ⟨attends, asked⟩
    have taken : (onHost (Act.step Host.takeReload) s.2).1 = .returned false :=
      congrArg Flow.returned unasked
    simp only [loopStep, attends] at stepped
    rw [Act.bind_of_returned taken] at stepped
    exact ⟨_, (congrArg Prod.snd stepped).symm⟩
  · have keeps : Keeps (fun b => ∃ h, b = { s.2 with ensemble := { s.2.ensemble with host := h } })
        (loopStep dispatch patience s.1) := by
      refine loopStep_of_hosts ?_ patience attends
      rintro α act _ ⟨h, rfl⟩ _
      exact ⟨(act h).2, rfl⟩
    have kept := keeps s.2 ⟨s.2.host, rfl⟩ (Act.ended_of_returned (congrArg Prod.fst stepped))
    rwa [stepped] at kept

/-- The callback of the application, if there is one, has returned and left a host behind. -/
def CalledBack (dispatch : Dispatch) (a : Application) (h : Host) : Prop :=
  match a.reloadCallback with
  | none => h = a.hostOfCallback
  | some callback => ∃ result, dispatch callback a.hostOfCallback = (.returned result, h)

/-- What a step of the loop comes to that answers a request. Whoever is set up is asked to reload on
the host that the callback left, in order and each once, until somebody asks to quit, whatever the
others answer. The loop goes on as if nothing had failed, and only the host and the record change.
If a plugin goes on for ever, so does the step. -/
def Delivers (dispatch : Dispatch) (loop : RunLoop) (a : Application) (h : Host)
    (x : Flow RunLoop × Application) : Prop :=
  x.1 = .stalled ∧ Ensemble.Stuck .reload a.ensemble x.2.ensemble ∧
      x.2.lifecycle = a.lifecycle ∨
    ∃ replies last,
      x = (.returned { loop with phase := .poll },
        { a with ensemble := { a.ensemble with
          host := last
          calls := a.ensemble.calls ++ replies.flatMap (Reply.calls .reload) } }) ∧
      Heard dispatch a.lifecycle.registry h a.lifecycle.initialized replies last ∧
      List.Forall₂ (Reply.At a.lifecycle.registry)
        (a.lifecycle.initialized.take replies.length) replies ∧
      (replies.map Reply.number).Nodup ∧
      (replies.length < a.lifecycle.initialized.length → last.control.quitting = true)

theorem dispatchReload_of_none {a : Application} (known : a.reloadCallback = none) :
    dispatchReload dispatch a =
      onEnsemble (Ensemble.reload dispatch) (tell .info "SIGHUP received" [] a).2 := by
  rw [dispatchReload, Act.bind_of_returned (a := ()) rfl,
    Act.bind_of_returned (a := none) (congrArg Flow.returned known)]
  rfl

theorem dispatchReload_of_some {a : Application} {callback : Code} {result : Except Failure Json}
    (known : a.reloadCallback = some callback)
    (ran : (dispatch callback (a.host.tell .application .info "SIGHUP received" [])).1 =
      .returned result) :
    dispatchReload dispatch a = onEnsemble (Ensemble.reload dispatch)
      (onHost (dispatch callback) (tell .info "SIGHUP received" [] a).2).2 := by
  rw [dispatchReload, Act.bind_of_returned (a := ()) rfl,
    Act.bind_of_returned (a := some callback) (congrArg Flow.returned known)]
  have called : (onHost (dispatch callback) (tell .info "SIGHUP received" [] a).2).1 =
    .returned result := ran
  exact Act.bind_of_returned called

/-- The plugins are asked on the host that the callback left. -/
theorem dispatchReload_calledBack {a : Application} {h : Host} (called : CalledBack dispatch a h) :
    dispatchReload dispatch (onHost (Act.step Host.takeReload) a).2 =
      onEnsemble (Ensemble.reload dispatch)
        { a with ensemble := { a.ensemble with host := h } } := by
  unfold CalledBack at called
  rcases Option.eq_none_or_eq_some a.reloadCallback with known | ⟨callback, known⟩
  · rw [known] at called
    rw [called]
    exact dispatchReload_of_none (a := (onHost (Act.step Host.takeReload) a).2) known
  · rw [known] at called
    obtain ⟨result, ran⟩ := called
    refine (dispatchReload_of_some (a := (onHost (Act.step Host.takeReload) a).2) known
      (congrArg Prod.fst ran)).trans ?_
    exact congrArg (fun x : Flow (Except Failure Json) × Host =>
      onEnsemble (Ensemble.reload dispatch) { a with ensemble := { a.ensemble with host := x.2 } })
      ran

theorem dispatchReload_heard {a : Application} {h : Host} (listed : a.ensemble.Listed)
    (called : CalledBack dispatch a h) :
    ((dispatchReload dispatch (onHost (Act.step Host.takeReload) a).2).1 = .stalled ∧
      Ensemble.Stuck .reload a.ensemble
        (dispatchReload dispatch (onHost (Act.step Host.takeReload) a).2).2.ensemble ∧
      (dispatchReload dispatch (onHost (Act.step Host.takeReload) a).2).2.lifecycle =
        a.lifecycle) ∨
    ∃ replies last, dispatchReload dispatch (onHost (Act.step Host.takeReload) a).2 =
        (.returned (), { a with ensemble := { a.ensemble with
          host := last
          calls := a.ensemble.calls ++ replies.flatMap (Reply.calls .reload) } }) ∧
      Heard dispatch a.lifecycle.registry h a.lifecycle.initialized replies last := by
  rw [dispatchReload_calledBack called]
  rcases Ensemble.reloadAll_heard dispatch a.lifecycle.initialized
    { a.ensemble with host := h } listed.past with
    ⟨stalled, stuck, kept⟩ | ⟨replies, last, ran, heard⟩
  · exact .inl ⟨stalled, stuck, kept⟩
  · refine .inr ⟨replies, last, ?_, heard⟩
    have all : Ensemble.reload dispatch { a.ensemble with host := h } = _ := ran
    simp only [onEnsemble, Act.within, all]

theorem loopStep_delivers {patience : Nat} {loop : RunLoop} {a : Application} {h : Host}
    (standing : a.ensemble.Standing []) (listed : a.ensemble.Listed) (attends : Attends (loop, a))
    (called : CalledBack dispatch a h) :
    Delivers dispatch loop a h (loopStep dispatch patience loop a) := by
  obtain ⟨attends, asked⟩ := attends
  dsimp only at attends asked
  have taken : (onHost (Act.step Host.takeReload) a).1 = .returned true :=
    congrArg Flow.returned asked
  unfold loopStep
  simp only [attends]
  rw [Act.bind_of_returned taken, if_pos rfl]
  rcases dispatchReload_heard listed called with
    ⟨stalled, stuck, kept⟩ | ⟨replies, last, ran, heard⟩
  · obtain ⟨ended, same⟩ := Act.bind_stalled stalled _
    exact .inl ⟨ended, same ▸ stuck, same ▸ kept⟩
  · rw [Act.bind_of_returned (a := ()) (by rw [ran]), ran]
    refine .inr ⟨replies, last, rfl, heard, heard.plugins, ?_, heard.quitting⟩
    rw [numbers_eq heard.plugins]
    apply List.Nodup.filterMap _ (listed.once.sublist (List.take_sublist _ _))
    intro i j p is js
    exact standing.numbered.distinct i j p is js

section Parties

open RunLoop

variable {Party : Type} {owes : Party → Prop}

/-- What the loop does is a life in which one party takes part, that is, all that runs in its steps,
and as many requests are answered in it. -/
theorem Attended.life (works : dispatch.Works) (party : Party) (free : ¬ owes party)
    {patience n : Nat} {s last : RunLoop × Application}
    (attended : Attended dispatch patience s n last) :
    ∃ history, Life.Run ⟨⟨s.2.host.common, .before s.1.phase, owes⟩, true⟩ history
        ⟨⟨last.2.host.common, .before last.1.phase, owes⟩, true⟩ ∧
      history.countP (fun p => p.event.answers) = n := by
  induction attended with
  | here => exact ⟨[], .nil _, rfl⟩
  | attends attends turns _ ih =>
    obtain ⟨later, others, answers⟩ := ih
    obtain ⟨first, reaches⟩ := loopStep_reaches_after works free attends (congrArg Prod.fst turns.2)
    rw [turns.2] at reaches
    obtain ⟨history, run, quiet⟩ := Life.Run.of_reaches (reaches.imp fun _ quiet => quiet.2)
    refine ⟨_, (((Life.Run.nil _).snoc (.happens first fun _ => rfl)).append run).append others, ?_⟩
    rw [List.countP_append, List.countP_append, quiet, answers]
    exact Nat.add_comm 1 _
  | goes other turns _ ih =>
    obtain ⟨later, others, answers⟩ := ih
    have reaches := loopStep_reaches_quietly works free other (congrArg Prod.fst turns.2)
    rw [turns.2] at reaches
    obtain ⟨history, run, quiet⟩ := Life.Run.of_reaches (reaches.imp fun _ quiet => quiet.2)
    refine ⟨_, run.append others, ?_⟩
    rw [List.countP_append, quiet, answers, Nat.zero_add]

/-- The loop is entered at its first look at the quit flag, wherever it was left before. -/
theorem openLoop_enters (a : Application) (stage : Stage) :
    Life.Step ⟨⟨a.host.common, stage, owes⟩, false⟩ .enters
      ⟨⟨(openLoop a).2.host.common, .before .check, owes⟩, true⟩ :=
  .enters rfl

/-- What waits when the loop is over is dropped before anything is torn down. -/
theorem closing_drains (a : Application) :
    Life.Step ⟨⟨a.host.common, .before .finished, owes⟩, true⟩ .drains
      ⟨⟨a.closing.host.common, .before .finished, owes⟩, false⟩ := by
  have cleared : a.closing.host.common = Deed.clear.make a.host.common :=
    Host.common_clear (a.host.tell .application .info "Run loop stopped" _)
  rw [cleared]
  exact .drains rfl rfl

/-- A run that returns is a life in which the loop is entered, goes on, answers requests, and
drains. Plugins are torn down in what is left after that. -/
theorem run_life (works : dispatch.Works) (party : Party) (free : ¬ owes party) {a : Application}
    (standing : a.ensemble.Standing []) {patience : Nat} {result : Except Failure Unit}
    (returned : (run dispatch patience a).1 = .returned result) (stage : Stage) :
    ∃ n ended stops entering passages draining,
      Attended dispatch patience ({}, (openLoop a).2) n ended ∧
      Life.Run ⟨⟨a.host.common, stage, owes⟩, false⟩ (entering :: passages ++ [draining])
        ⟨⟨ended.2.closing.host.common, .before .finished, owes⟩, false⟩ ∧
      entering.event = .enters ∧ draining.event = .drains ∧
      passages.countP (fun p => p.event.answers) = n ∧
      TornDown dispatch ended.2.closing stops (run dispatch patience a).2 := by
  obtain ⟨_, ended, stops, loops, finished, _, tornDown, _⟩ := run_answers standing returned
  obtain ⟨n, attended⟩ := loops.attended
  obtain ⟨passages, inside, answers⟩ := attended.life works party free
  rw [finished] at inside
  have life := (((Life.Run.nil _).snoc (openLoop_enters a stage)).append inside).snoc
    (closing_drains ended.2)
  exact ⟨n, ended, stops, _, passages, ⟨_, .drains, _⟩, attended, life, rfl, rfl, answers, tornDown⟩

end Parties

/-- Requests to reload. Wherever the loop of a run comes to, it answers a request as it should once
the callback of the application has returned: whoever is set up is asked, in order and each once,
until somebody asks to quit. No other step calls plugins. What a run answers does not depend on what
plugins answer to a request. Among any parties and however they interleave, there are no more answers
than requests, and after a request that nobody else takes away the loop begins one task at most until
it begins to answer. -/
theorem reload_delivered {config : Config} {catalogue : Catalogue} {registered : List String}
    {h : Host} {a : Application} {Party : Type} {start last : RunLoop.Life Party}
    {history : List (RunLoop.Life.Passage Party)} (works : dispatch.Works)
    (undergoes : Undergoes dispatch (new config catalogue registered h) a)
    (life : RunLoop.Life.Run start history last) :
    (∀ patience n s, Attended dispatch patience ({}, (openLoop a).2) n s →
      (Attends s → ∀ k, CalledBack dispatch s.2 k →
        Delivers dispatch s.1 s.2 k (loopStep dispatch patience s.1 s.2)) ∧
      (¬ Attends s → ∀ t, Turns dispatch patience s t →
        ∃ k, t.2 = { s.2 with ensemble := { s.2.ensemble with host := k } }) ∧
      ∃ passages, RunLoop.Life.Run ⟨⟨a.host.common, .before .check, fun _ : Unit => False⟩, true⟩
          passages ⟨⟨s.2.host.common, .before s.1.phase, fun _ => False⟩, true⟩ ∧
        passages.countP (fun p => p.event.answers) = n) ∧
    (∀ patience result, (run dispatch patience a).1 = .returned result →
      ∃ n failures ended stops, Attended dispatch patience ({}, (openLoop a).2) n ended ∧
        Loops dispatch patience ({}, (openLoop a).2) failures ended ∧
        TornDown dispatch ended.2.closing stops (run dispatch patience a).2 ∧
        result = failures.head?.elim (firstFailure stops) .error) ∧
    history.countP (fun p => p.event.answers) ≤
      history.countP (fun p => p.event.asksReload) + start.asked.toNat ∧
    ∀ earlier asking later rest, history = earlier ++ [asking] ++ later ++ rest →
      asking.event.asksReload = true → (∀ p ∈ later, p.event.answers = false) →
      (∀ p ∈ later, p.event.takesReload = false) →
      (later.flatMap RunLoop.Life.Passage.begun).length ≤ 1 := by
  have standing : a.ensemble.Standing [] := undergoes.standing (.fresh (openHost config h))
  have listed : a.ensemble.Listed := undergoes.lasting listed_lasting (.of_none rfl)
  refine ⟨fun patience n s attended => ⟨?_, ?_, ?_⟩, fun patience result returned => ?_, ?_, ?_⟩
  · intro attends k called
    have opened : (openLoop a).2.ensemble.Standing [] := standing.congr rfl rfl
    exact loopStep_delivers (standing_lasting.keeping.toTurning.attended attended opened)
      (listed_lasting.keeping.toTurning.attended attended listed) attends called
  · intro other t turns
    exact turns.host_only other
  · exact attended.life works () id
  · obtain ⟨failures, ended, stops, loops, _, _, tornDown, answer⟩ := run_answers standing returned
    obtain ⟨n, attended⟩ := loops.attended
    exact ⟨n, failures, ended, stops, attended, loops, tornDown, answer⟩
  · have answers := life.answers
    omega
  · rintro earlier asking later rest rfl asks unanswered untaken
    exact life.tasks_after_request asks unanswered untaken

/-- The callback runs first, then two plugins are asked, although the first one panics, and the run
answers without a failure. A request that comes when the loop is about to poll the reactor comes too
late for one task. -/
theorem reload_delivered_of_two :
    let base : Plugin := { type := "Base", name := "base", reload := .panic (.text "boom") }
    let top : Plugin :=
      { type := "Top", name := "top", reload := .ask (.say (.note "top")) fun _ => .nothing }
    let callback : Code := .ask (.say (.note "callback")) fun _ => .nothing
    let quit : Code := .ask .quit fun _ => .nothing
    let perform := fun (a : Application) (operation : Operation) =>
      (operation.perform (Code.runWithin 2) a).2
    let a := [Operation.register base, .register top, .setUp ["base", "top"] .empty,
      .onReload (some callback), .elsewhere fun h => (h.requestReload.post 50 0 quit).2].foldl
        perform (new {} [] [] {})
    let s : RunLoop × Application := ({ phase := .attend }, (openLoop a).2)
    (∃ k, Delivers (Code.runWithin 2) s.1 s.2 k (loopStep (Code.runWithin 2) 9 s.1 s.2)) ∧
      entries .reload (run (Code.runWithin 2) 9 a).2.ensemble.calls = [0, 1] ∧
      (run (Code.runWithin 2) 9 a).2.host.journal.toList.filterMap (Entry.shown? .warn) =
        ["callback", "WARN Plugin SIGHUP handler failed plugin=base " ++
          "error=PANIC: plugin 'base' handle_sighup panicked: boom", "top"] ∧
      (run (Code.runWithin 2) 9 a).1 = .returned (.ok ()) ∧
      (∃ ended stops, TornDown (Code.runWithin 2) ended stops (run (Code.runWithin 2) 9 a).2) ∧
      ∃ (start last : RunLoop.Life Unit) (history : List (RunLoop.Life.Passage Unit)),
        RunLoop.Life.Run start history last ∧
        history.countP (fun p => p.event.answers) ≤
          history.countP (fun p => p.event.asksReload) ∧
        (history.tail.flatMap RunLoop.Life.Passage.begun).length = 1 := by
  intro base top callback quit perform a s
  have undergoes : Undergoes (Code.runWithin 2) (new {} [] [] {}) a := by
    refine .step (.elsewhere _) (.step (.onReload (some callback))
      (.step (.setUp ["base", "top"] .empty) (.step (.register top)
        (.step (.register base) .refl ?_) ?_) ?_) ?_) ?_
    all_goals decide +kernel
  obtain ⟨_, _, asking, later, life, none, asks, unanswered, untaken, began⟩ :=
    RunLoop.Life.Run.task_after_request
  obtain ⟨steps, runs, answers, few⟩ := reload_delivered (Code.runWithin_works 2) undergoes life
  rw [none] at answers
  have unasked : (openLoop a).2.host.control.quitting = false := by decide +kernel
  have turns : Turns (Code.runWithin 2) 9 ({}, (openLoop a).2) s := by
    refine ⟨fun ended => ?_, ?_⟩
    · cases ended
    · simp only [loopStep, Act.bind_apply, Act.get_apply, Act.pure_apply, unasked, s]
      rfl
  have attended : Attended (Code.runWithin 2) 9 ({}, (openLoop a).2) 0 s :=
    .goes (fun attends => by cases attends.1) turns (.here s)
  have called : CalledBack (Code.runWithin 2) s.2
      (Code.runWithin 2 callback s.2.hostOfCallback).2 := ⟨_, rfl⟩
  have attends : Attends s := ⟨rfl, by decide +kernel⟩
  have returned : (run (Code.runWithin 2) 9 a).1 = .returned (.ok ()) := by decide +kernel
  obtain ⟨_, _, _, _, _, _, tornDown, _⟩ := runs 9 _ returned
  exact ⟨⟨_, (steps 9 0 s attended).1 attends _ called⟩, by decide +kernel, by decide +kernel,
    returned, ⟨_, _, tornDown⟩, _, _, _, life, answers,
    Nat.le_antisymm (few [] asking later [] (by simp) asks unanswered untaken) began.ge⟩

/-- Two tasks run between a request and its answer, because the task that asks takes them itself.
And if it takes the request away they run without any answer. -/
theorem tasks_before_reload :
    let say := fun (text : String) (next : Code) => Code.ask (.say (.note text)) fun _ => next
    let takes : Code := say "asks" (.ask .requestReload fun _ =>
      .execute fun _ => .execute fun _ => .nothing)
    let retracts : Code := say "asks" (.ask .requestReload fun _ =>
      .ask .takeReload fun _ => .nothing)
    let quit : Code := say "quits" (.ask .quit fun _ => .nothing)
    let base : Plugin := { type := "Base", name := "base", reload := say "reloads" .nothing }
    let perform := fun (a : Application) (operation : Operation) =>
      (operation.perform (Code.runWithin 3) a).2
    let ran := fun asks : Code => (run (Code.runWithin 3) 30 ([Operation.register base,
      .setUp ["base"] .empty, .elsewhere fun h => (h.post 90 0 asks).2,
      .elsewhere fun h => (h.post 50 0 (say "first" .nothing)).2,
      .elsewhere fun h => (h.post 50 0 (say "second" .nothing)).2,
      .elsewhere fun h => (h.post 10 0 quit).2].foldl perform (new {} [] [] {}))).2
    (ran takes).host.journal.toList.filterMap (Entry.shown? .warn) =
        ["asks", "first", "second", "reloads", "quits"] ∧
      (ran retracts).host.journal.toList.filterMap (Entry.shown? .warn) =
        ["asks", "first", "second", "quits"] := by
  decide +kernel

end Application

end PluginHost
