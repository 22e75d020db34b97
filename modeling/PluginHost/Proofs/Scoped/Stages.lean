import PluginHost.Application.ScopedApp
import PluginHost.Proofs.Application.Unwinding

/-!
Scoped applications in a process with any number of threads. Somebody who makes one, or drops one,
does so in stages, and everybody else may go on in between. What is done at once, the claim and the
giving back, is done to the place that all of them share.
-/

set_option autoImplicit false

namespace PluginHost

open Application (Operation Undergoes)

namespace Scoped

/-- What it comes to when somebody asks for a scoped application. -/
inductive End where
  /-- The place was taken. -/
  | refused (failure : Failure)
  /-- The application could not be built. -/
  | failed (failure : Failure)
  | unwound (payload : PanicPayload)
  /-- An application was dropped, and this is what became of it. -/
  | dropped (before after : Application)

/-- How far somebody is who asks for a scoped application. -/
inductive Stage where
  | asking (config : Config)
  | building (config : Config)
  | living (application : Application)
  /-- The application is being torn down. -/
  | leaving (application : Application)
  /-- The place is about to be given back. -/
  | freeing (ending : End)
  | gone (ending : End)

/-- Who holds the place. -/
def Stage.holds : Stage → Bool
  | building _ | living _ | leaving _ | freeing _ => true
  | asking _ | gone _ => false

/-- What somebody does next. -/
inductive Doing where
  | claim
  | build (runtime : Runtime)
  | operate (operation : Operation)
  | leave
  | tearDown
  | free

/-- Somebody asks for a scoped application, or one of those who do goes on. -/
inductive Move where
  | call (config : Config)
  | go (party : Nat) (doing : Doing)

/-- The place, and everybody who ever asked for a scoped application. -/
structure World where
  scope : Scope := {}
  parties : Array Stage := #[]

/-- The stage after the application was built, or could not be. What goes on for ever changes
nothing. -/
def Stage.built (config : Config) : Flow (Except Failure Application) → Stage
  | .returned (.ok a) => living a
  | .returned (.error e) => freeing (.failed e)
  | .unwound payload => freeing (.unwound payload)
  | .stalled => building config

def Stage.operated (a : Application) : Flow Unit × Application → Stage
  | (.stalled, _) => living a
  | (_, b) => living b

def Stage.tornDown (a : Application) : Flow Unit × Application → Stage
  | (.stalled, _) => leaving a
  | (_, b) => freeing (.dropped a b)

variable (dispatch : Dispatch) (catalogue : Catalogue) (registered : List String)

/-- What becomes of a stage and of the place. What cannot be done at a stage changes nothing. -/
def Doing.make : Doing → Stage → Scope → Stage × Scope
  | .claim, .asking config, s =>
    match s.claim with
    | (.error e, s) => (.gone (.refused e), s)
    | (.ok _, s) => (.building config, s)
  | .build runtime, .building config, s =>
    (.built config (Application.withConfig catalogue registered config runtime), s)
  | .operate operation, .living a, s => (.operated a (operation.perform dispatch a), s)
  | .leave, .living a, s => (.leaving a, s)
  | .tearDown, .leaving a, s => (.tornDown a (Application.drop dispatch a), s)
  | .free, .freeing ending, s => (.gone ending, s.release)
  | _, stage, s => (stage, s)

def perform (move : Move) (w : World) : World :=
  match move with
  | .call config => { w with parties := w.parties.push (.asking config) }
  | .go party doing =>
    match w.parties[party]? with
    | none => w
    | some stage =>
      let (next, scope) := doing.make dispatch catalogue registered stage w.scope
      { scope := scope, parties := w.parties.setIfInBounds party next }

def performAll (moves : List Move) (w : World) : World :=
  moves.foldl (fun w move => perform dispatch catalogue registered move w) w

/-- An application of the process, whatever was done with it. -/
def Own (a : Application) : Prop :=
  ∃ config h, Undergoes dispatch (.new config catalogue registered h) a

namespace End

def failure? : End → Option Failure
  | refused failure | failed failure => some failure
  | unwound _ | dropped _ _ => none

/-- Somebody was told that another scoped application is alive. -/
def Conflict (ending : End) : Prop :=
  ∃ failure, ending.failure? = some failure ∧ failure.kind = .conflict

/-- What ran in an application that was dropped was stopped. -/
def Fits : End → Prop
  | refused failure => failure = .scopeTaken
  | failed failure => ∃ cause, failure = .reactorNotBuilt cause
  | unwound _ => True
  | dropped a b =>
    Application.drop dispatch a = (.returned (), b) ∧ Ensemble.Stopped a.ensemble b.ensemble

end End

def Stage.Fits : Stage → Prop
  | asking _ | building _ => True
  | living a | leaving a => Own dispatch catalogue registered a
  | freeing ending => ending.Fits dispatch ∧ ¬ ending.Conflict
  | gone ending => ending.Fits dispatch

variable {dispatch catalogue registered}

/-- What is done to the place, and by whom. -/
inductive Doing.Turns (s : Scope) (stage next : Stage) (after : Scope) : Doing → Prop
  | keeps {doing : Doing} (same : after = s) (holds : next.holds = stage.holds)
      (ending : ∀ e, next = .gone e → stage = .gone e ∨ e = .refused .scopeTaken ∧ s.live = true) :
      Turns s stage next after doing
  | claims (free : s.live = false) (held : after.live = true) (holder : stage.holds = false)
      (holds : next.holds = true) : Turns s stage next after .claim
  | frees (given : after.live = false) (ending : End) (before : stage = .freeing ending)
      (gone : next = .gone ending) : Turns s stage next after .free

theorem Stage.holds_built (config : Config) (flow : Flow (Except Failure Application)) :
    (built config flow).holds = true := by
  rcases flow with (_ | _) | _ | _ <;> rfl

theorem Stage.holds_operated (a : Application) (ended : Flow Unit × Application) :
    (operated a ended).holds = true := by
  rcases ended with ⟨_ | _ | _, b⟩ <;> rfl

theorem Stage.holds_tornDown (a : Application) (ended : Flow Unit × Application) :
    (tornDown a ended).holds = true := by
  rcases ended with ⟨_ | _ | _, b⟩ <;> rfl

/-- From one stage of those who hold the place to another one. -/
theorem Doing.Turns.holding {s : Scope} {stage next : Stage} {doing : Doing}
    (before : stage.holds = true) (holds : next.holds = true) :
    Doing.Turns s stage next s doing := by
  refine .keeps rfl (holds.trans before.symm) fun e gone => ?_
  rw [gone] at holds
  cases holds

theorem Doing.make_turns (doing : Doing) (stage : Stage) (s : Scope) :
    Doing.Turns s stage (doing.make dispatch catalogue registered stage s).1
      (doing.make dispatch catalogue registered stage s).2 doing := by
  have same {doing : Doing} : Doing.Turns s stage stage s doing :=
    .keeps rfl rfl fun _ gone => .inl gone
  cases doing with
  | claim =>
    cases stage with
    | asking config =>
      simp only [make, Scope.claim]
      cases live : s.live with
      | true => exact .keeps rfl rfl fun e gone => .inr ⟨(Stage.gone.inj gone).symm, live⟩
      | false => exact .claims live rfl rfl rfl
    | _ => exact same
  | build runtime =>
    cases stage with
    | building config => exact .holding rfl (Stage.holds_built _ _)
    | _ => exact same
  | operate operation =>
    cases stage with
    | living a => exact .holding rfl (Stage.holds_operated _ _)
    | _ => exact same
  | leave =>
    cases stage with
    | living a => exact .holding rfl rfl
    | _ => exact same
  | tearDown =>
    cases stage with
    | leaving a => exact .holding rfl (Stage.holds_tornDown _ _)
    | _ => exact same
  | free =>
    cases stage with
    | freeing ending => exact .frees rfl ending rfl rfl
    | _ => exact same

theorem Own.standing {a : Application} (own : Own dispatch catalogue registered a) :
    a.ensemble.Standing [] := by
  obtain ⟨config, h, undergoes⟩ := own
  exact undergoes.standing (.fresh (Application.openHost config h))

theorem Own.operated {a : Application} (own : Own dispatch catalogue registered a)
    (operation : Operation) :
    (Stage.operated a (operation.perform dispatch a)).Fits dispatch catalogue registered := by
  obtain ⟨config, h, undergoes⟩ := own
  have further := undergoes.step operation
  generalize operation.perform dispatch a = ended at further
  rcases ended with ⟨_ | _ | _, b⟩
  · exact ⟨config, h, further nofun⟩
  · exact ⟨config, h, further nofun⟩
  · exact ⟨config, h, undergoes⟩

/-- No panic comes out of a tear-down, and if it ends, what ran is stopped. -/
theorem Own.tornDown {a : Application} (own : Own dispatch catalogue registered a) :
    (Stage.tornDown a (Application.drop dispatch a)).Fits dispatch catalogue registered := by
  have stopped : (Application.drop dispatch a).1 = .returned () → Ensemble.Stopped _ _ :=
    Application.drop_stopped own.standing
  have unbroken : Act.Unbroken (Application.drop dispatch) := Application.drop_unbroken
  cases dropped : Application.drop dispatch a with
  | mk flow b =>
    rw [dropped] at stopped
    cases flow with
    | returned value => exact ⟨⟨dropped, stopped rfl⟩, nofun⟩
    | unwound payload => exact absurd (congrArg Prod.fst dropped) (unbroken a payload)
    | stalled => exact own

theorem Stage.built_fits (config : Config) (runtime : Runtime) :
    (built config (Application.withConfig catalogue registered config runtime)).Fits dispatch
      catalogue registered := by
  cases runtime with
  | built journal cues => exact ⟨config, _, .refl⟩
  | failed cause =>
    refine ⟨⟨cause, rfl⟩, ?_⟩
    rintro ⟨_, told, conflict⟩
    cases told
    cases conflict
  | unwound payload => exact ⟨trivial, nofun⟩

/-- What is known at a stage is known at the next one. -/
theorem Doing.make_fits (doing : Doing) {stage : Stage} (s : Scope)
    (fits : stage.Fits dispatch catalogue registered) :
    (doing.make dispatch catalogue registered stage s).1.Fits dispatch catalogue registered := by
  cases doing with
  | claim =>
    cases stage with
    | asking config =>
      simp only [make, Scope.claim]
      cases s.live with
      | true => exact rfl
      | false => trivial
    | _ => exact fits
  | build runtime =>
    cases stage with
    | building config => exact Stage.built_fits config runtime
    | _ => exact fits
  | operate operation =>
    cases stage with
    | living a => exact Own.operated fits operation
    | _ => exact fits
  | leave => cases stage <;> exact fits
  | tearDown =>
    cases stage with
    | leaving a => exact Own.tornDown fits
    | _ => exact fits
  | free =>
    cases stage with
    | freeing ending => exact fits.1
    | _ => exact fits

end Scoped

end PluginHost
