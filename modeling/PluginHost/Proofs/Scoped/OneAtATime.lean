import PluginHost.Proofs.Scoped.Stages

set_option autoImplicit false

namespace PluginHost

namespace Scoped

variable {dispatch : Dispatch} {catalogue : Catalogue} {registered : List String}

namespace World

/-- Somebody has got through the claim and has not given the place back. -/
def Holds (w : World) (party : Nat) : Prop :=
  ∃ stage, w.parties[party]? = some stage ∧ stage.holds = true

/-- Somebody has a scoped application, which may be being torn down. -/
def Alive (w : World) (party : Nat) : Prop :=
  ∃ a, w.parties[party]? = some (.living a) ∨ w.parties[party]? = some (.leaving a)

theorem Alive.holds {w : World} {party : Nat} (alive : w.Alive party) : w.Holds party := by
  obtain ⟨a, living | leaving⟩ := alive
  · exact ⟨_, living, rfl⟩
  · exact ⟨_, leaving, rfl⟩

variable (dispatch catalogue registered) in
/-- The place is taken exactly if somebody holds it, and then nobody else does. -/
structure Sound (w : World) : Prop where
  live : w.scope.live = true ↔ ∃ party, w.Holds party
  one : ∀ party other, w.Holds party → w.Holds other → party = other
  fits : ∀ (party : Nat) (stage : Stage), w.parties[party]? = some stage →
    stage.Fits dispatch catalogue registered

def put (w : World) (party : Nat) (next : Stage) (scope : Scope) : World :=
  { scope := scope, parties := w.parties.setIfInBounds party next }

section Put

variable {w : World} {party : Nat} {stage : Stage} (there : w.parties[party]? = some stage)
  (next : Stage) (scope : Scope)

include there

theorem parties_put (other : Nat) :
    (w.put party next scope).parties[other]? =
      if party = other then some next else w.parties[other]? := by
  obtain ⟨inside, _⟩ := Array.getElem?_eq_some_iff.1 there
  rw [put, Array.getElem?_setIfInBounds]
  split <;> rfl

theorem holds_put (other : Nat) :
    (w.put party next scope).Holds other ↔
      if party = other then next.holds = true else w.Holds other := by
  unfold Holds
  rw [parties_put there]
  split
  · exact ⟨fun ⟨_, same, holds⟩ => Option.some.inj same ▸ holds, fun holds => ⟨next, rfl, holds⟩⟩
  · rfl

theorem holds_self : w.Holds party ↔ stage.holds = true := by
  unfold Holds
  rw [there]
  exact ⟨fun ⟨_, same, holds⟩ => Option.some.inj same ▸ holds, fun holds => ⟨stage, rfl, holds⟩⟩

end Put

end World

theorem perform_go {w : World} {party : Nat} {stage : Stage}
    (there : w.parties[party]? = some stage) (doing : Doing) :
    perform dispatch catalogue registered (.go party doing) w =
      w.put party (doing.make dispatch catalogue registered stage w.scope).1
        (doing.make dispatch catalogue registered stage w.scope).2 := by
  simp only [perform, there]
  rfl

theorem perform_absent {w : World} {party : Nat} (absent : w.parties[party]? = none)
    (doing : Doing) : perform dispatch catalogue registered (.go party doing) w = w := by
  simp only [perform, absent]

theorem parties_call {w : World} (config : Config) (party : Nat) :
    (perform dispatch catalogue registered (.call config) w).parties[party]? =
      if party = w.parties.size then some (.asking config) else w.parties[party]? := by
  rw [perform, Array.getElem?_push]

/-- Whoever asks does not hold the place yet. -/
theorem holds_call {w : World} (config : Config) (party : Nat) :
    (perform dispatch catalogue registered (.call config) w).Holds party ↔ w.Holds party := by
  unfold World.Holds
  rw [parties_call]
  split
  · rename_i new
    rw [new, Array.getElem?_size]
    constructor
    · rintro ⟨_, same, holds⟩
      cases same
      cases holds
    · rintro ⟨_, same, _⟩
      cases same
  · rfl

namespace World.Sound

variable {w : World} (sound : w.Sound dispatch catalogue registered)

include sound

theorem call (config : Config) :
    (perform dispatch catalogue registered (.call config) w).Sound dispatch catalogue
      registered where
  live := by
    simp only [holds_call]
    exact sound.live
  one party other holds holdsToo :=
    sound.one party other ((holds_call config party).1 holds) ((holds_call config other).1 holdsToo)
  fits party stage found := by
    rw [parties_call] at found
    split at found
    · cases found
      trivial
    · exact sound.fits party stage found

theorem put {party : Nat} {stage next : Stage} {scope : Scope} {doing : Doing}
    (there : w.parties[party]? = some stage)
    (turns : Doing.Turns w.scope stage next scope doing)
    (fits : next.Fits dispatch catalogue registered) :
    (w.put party next scope).Sound dispatch catalogue registered := by
  have self := World.holds_self there
  have after := World.holds_put there next scope
  have known : ∀ (other : Nat) (stage : Stage),
      (w.put party next scope).parties[other]? = some stage →
        stage.Fits dispatch catalogue registered := by
    intro other stage found
    rw [World.parties_put there] at found
    split at found
    · cases found
      exact fits
    · exact sound.fits other stage found
  cases turns with
  | keeps same holds _ =>
    have alike (other : Nat) : (w.put party next scope).Holds other ↔ w.Holds other := by
      rw [after]
      split
      · rename_i here
        rw [← here, self, holds]
      · rfl
    refine ⟨?_, fun one other => ?_, known⟩
    · simp only [alike]
      rw [← sound.live, ← same]
      rfl
    · rw [alike, alike]
      exact sound.one one other
  | claims free held holder holds =>
    have alone (other : Nat) : (w.put party next scope).Holds other ↔ party = other := by
      have nobody : ¬ w.Holds other := fun holds => by
        have live := sound.live.2 ⟨other, holds⟩
        rw [free] at live
        cases live
      rw [after]
      split
      · rename_i here
        exact iff_of_true holds here
      · rename_i apart
        exact iff_of_false nobody apart
    refine ⟨?_, fun one other => ?_, known⟩
    · simp only [alone]
      exact iff_of_true held ⟨party, rfl⟩
    · rw [alone, alone]
      exact fun here there => here.symm.trans there
  | frees given ending before gone =>
    have nobody (other : Nat) : ¬ (w.put party next scope).Holds other := by
      rw [after]
      split
      · rw [gone]
        exact nofun
      · rename_i apart
        exact fun holds => apart (sound.one party other (self.2 (by rw [before]; rfl)) holds)
    refine ⟨?_, fun one other holds => absurd holds (nobody one), known⟩
    refine iff_of_false ?_ fun ⟨other, holds⟩ => nobody other holds
    exact fun live => Bool.false_ne_true (given.symm.trans live)

theorem moved (move : Move) :
    (perform dispatch catalogue registered move w).Sound dispatch catalogue registered := by
  cases move with
  | call config => exact sound.call config
  | go party doing =>
    cases found : w.parties[party]? with
    | none => rwa [perform_absent found]
    | some stage =>
      rw [perform_go found]
      exact sound.put found (doing.make_turns stage w.scope)
        (doing.make_fits w.scope (sound.fits party stage found))

end World.Sound

theorem sound_empty : ({} : World).Sound dispatch catalogue registered where
  live := ⟨nofun, fun ⟨_, _, found, _⟩ => by cases found⟩
  one := fun _ _ ⟨_, found, _⟩ => by cases found
  fits _ _ found := by cases found

theorem performAll_sound (moves : List Move) :
    (performAll dispatch catalogue registered moves {}).Sound dispatch catalogue registered := by
  suffices all : ∀ w : World, w.Sound dispatch catalogue registered →
      (performAll dispatch catalogue registered moves w).Sound dispatch catalogue registered from
    all {} sound_empty
  induction moves with
  | nil => exact fun _ sound => sound
  | cons move later ih => exact fun w sound => ih _ (sound.moved move)

variable (dispatch catalogue registered) in
/-- What becomes of a stage and of the place when one goes on alone. -/
def makeAll (doings : List Doing) (stage : Stage) (s : Scope) : Stage × Scope :=
  doings.foldl (fun now doing => doing.make dispatch catalogue registered now.1 now.2) (stage, s)

theorem performAll_go {w : World} {party : Nat} {stage : Stage}
    (there : w.parties[party]? = some stage) (doings : List Doing) :
    let after := performAll dispatch catalogue registered (doings.map (.go party)) w
    let made := makeAll dispatch catalogue registered doings stage w.scope
    after.parties[party]? = some made.1 ∧ after.scope = made.2 := by
  induction doings generalizing w stage with
  | nil => exact ⟨there, rfl⟩
  | cons doing later ih =>
    have next := World.parties_put there (doing.make dispatch catalogue registered stage w.scope).1
      (doing.make dispatch catalogue registered stage w.scope).2 party
    rw [if_pos rfl, ← perform_go there] at next
    have rest := ih next
    rw [perform_go there] at rest
    simp only [List.map_cons, performAll, List.foldl_cons, makeAll] at rest ⊢
    rw [perform_go there]
    exact rest

def Stage.result? : Stage → Option (Flow (Except Failure Application))
  | living a => some (.returned (.ok a))
  | gone (.refused e) | gone (.failed e) => some (.returned (.error e))
  | gone (.unwound payload) => some (.unwound payload)
  | asking _ | building _ | leaving _ | freeing _ | gone (.dropped _ _) => none

theorem makeAll_create (config : Config) (runtime : Runtime) (s : Scope) :
    let made := makeAll dispatch catalogue registered [.claim, .build runtime, .free]
      (.asking config) s
    let created := Application.createScoped catalogue registered config runtime s
    made.1.result? = some created.1 ∧ made.2 = created.2 := by
  obtain ⟨live⟩ := s
  cases live with
  | true => exact ⟨rfl, rfl⟩
  | false => cases runtime <;> exact ⟨rfl, rfl⟩

theorem makeAll_drop {a : Application} (s : Scope)
    (ended : (Application.dropScoped dispatch (a, s)).1 ≠ .stalled) :
    makeAll dispatch catalogue registered [.leave, .tearDown, .free] (.living a) s =
      (.gone (.dropped a (Application.dropScoped dispatch (a, s)).2.1),
        (Application.dropScoped dispatch (a, s)).2.2) := by
  simp only [makeAll, List.foldl_cons, List.foldl_nil, Doing.make, Application.dropScoped]
    at ended ⊢
  generalize Application.drop dispatch a = dropped at ended
  rcases dropped with ⟨_ | _ | _, b⟩
  · rfl
  · rfl
  · exact absurd rfl ended

variable (dispatch catalogue registered) in
/-- What holds of the place and of those who ask for it, and of any move that comes next. -/
structure OneAtATime (w : World) : Prop where
  /-- One scoped application is alive at most. -/
  alone : ∀ party other, w.Alive party → w.Alive other → party = other
  /-- The place is taken exactly while somebody holds it, as everybody does whose application is
  alive. -/
  taken : w.scope.live = true ↔ ∃ party, w.Holds party
  /-- A conflict is told only while somebody else holds the place. -/
  conflict : ∀ (move : Move) (party : Nat) (ending : End),
    (perform dispatch catalogue registered move w).parties[party]? = some (.gone ending) →
      w.parties[party]? ≠ some (.gone ending) → ending.Conflict →
        w.scope.live = true ∧ ∃ other, other ≠ party ∧ w.Holds other
  /-- Nobody loses the place by what another one does. -/
  spares : ∀ (move : Move) (party : Nat), w.Holds party → move ≠ .go party .free →
    (perform dispatch catalogue registered move w).Holds party ∧
      (perform dispatch catalogue registered move w).scope.live = true
  /-- The place is given back by one who holds it and has no application any more: either none was
  built, or what ran in it was stopped. -/
  released : ∀ move : Move, w.scope.live = true →
    (perform dispatch catalogue registered move w).scope.live = false →
      ∃ (party : Nat) (ending : End), move = .go party .free ∧
        w.parties[party]? = some (.freeing ending) ∧ ending.Fits dispatch
  /-- Whoever did not get an application, or dropped one, leaves the place free. -/
  freed : ∀ (party : Nat) (ending : End), w.parties[party]? = some (.freeing ending) →
    (perform dispatch catalogue registered (.go party .free) w).scope.live = false
  /-- What ran in an application that was dropped was stopped. -/
  stopped : ∀ (party : Nat) (before after : Application),
    w.parties[party]? = some (.freeing (.dropped before after)) ∨
      w.parties[party]? = some (.gone (.dropped before after)) →
        Application.drop dispatch before = (.returned (), after) ∧
          Ensemble.Stopped before.ensemble after.ensemble
  /-- With nobody about, the place is free, and who asks next is not told of a conflict. -/
  idle : (∀ (party : Nat) (stage : Stage), w.parties[party]? = some stage →
    ∃ ending, stage = .gone ending) → w.scope.live = false ∧
      ∀ config runtime e,
        (Application.createScoped catalogue registered config runtime w.scope).1 =
          .returned (.error e) → e.kind ≠ .conflict
  /-- Whoever is not interrupted makes a scoped application at once. -/
  creates : ∀ config runtime,
    let called := perform dispatch catalogue registered (.call config) w
    let after := performAll dispatch catalogue registered
      ([.claim, .build runtime, .free].map (.go w.parties.size)) called
    let created := Application.createScoped catalogue registered config runtime w.scope
    after.parties[w.parties.size]?.bind Stage.result? = some created.1 ∧ after.scope = created.2
  /-- And drops it at once. -/
  drops : ∀ (party : Nat) (a : Application), w.parties[party]? = some (.living a) →
    let after := performAll dispatch catalogue registered
      ([.leave, .tearDown, .free].map (.go party)) w
    let dropped := Application.dropScoped dispatch (a, w.scope)
    dropped.1 ≠ .stalled →
      after.parties[party]? = some (.gone (.dropped a dropped.2.1)) ∧ after.scope = dropped.2.2

section Next

/-- Whoever gets to the end was refused while the place was taken, or has just given it back. -/
theorem Doing.Turns.of_gone {s after : Scope} {stage : Stage} {doing : Doing} {ending : End}
    (turns : Doing.Turns s stage (.gone ending) after doing) :
    stage = .gone ending ∨ stage.holds = false ∧ s.live = true ∨ stage = .freeing ending := by
  cases turns with
  | keeps same holds comes =>
    rcases comes ending rfl with already | ⟨_, live⟩
    · exact .inl already
    · exact .inr (.inl ⟨holds.symm, live⟩)
  | claims free held holder holds => cases holds
  | frees given other before gone =>
    cases gone
    exact .inr (.inr before)

variable {w : World} (sound : w.Sound dispatch catalogue registered)

include sound

theorem World.Sound.conflict {move : Move} {party : Nat} {ending : End}
    (gone : (perform dispatch catalogue registered move w).parties[party]? = some (.gone ending))
    (new : w.parties[party]? ≠ some (.gone ending)) (conflict : ending.Conflict) :
    w.scope.live = true ∧ ∃ other, other ≠ party ∧ w.Holds other := by
  cases move with
  | call config =>
    rw [parties_call] at gone
    split at gone
    · cases gone
    · exact absurd gone new
  | go mover doing =>
    cases found : w.parties[mover]? with
    | none =>
      rw [perform_absent found] at gone
      exact absurd gone new
    | some stage =>
      rw [perform_go found, World.parties_put found] at gone
      split at gone
      · rename_i here
        subst here
        have turns : Doing.Turns w.scope stage
          (doing.make dispatch catalogue registered stage w.scope).1 _ doing :=
          doing.make_turns stage w.scope
        rw [Option.some.inj gone] at turns
        rcases turns.of_gone with rfl | ⟨holder, live⟩ | rfl
        · exact absurd found new
        · obtain ⟨other, holds⟩ := sound.live.1 live
          refine ⟨live, other, ?_, holds⟩
          rintro rfl
          rw [World.holds_self found, holder] at holds
          cases holds
        · exact absurd conflict (sound.fits _ _ found).2
      · exact absurd gone new

/-- A place that was taken and is free now was given back by its holder. -/
theorem World.Sound.released {move : Move} (live : w.scope.live = true)
    (free : (perform dispatch catalogue registered move w).scope.live = false) :
    ∃ (party : Nat) (ending : End), move = .go party .free ∧
      w.parties[party]? = some (.freeing ending) ∧ ending.Fits dispatch := by
  have unlike : (perform dispatch catalogue registered move w).scope ≠ w.scope := fun same => by
    rw [same, live] at free
    cases free
  cases move with
  | call config => exact absurd rfl unlike
  | go party doing =>
    cases found : w.parties[party]? with
    | none =>
      rw [perform_absent found] at unlike
      exact absurd rfl unlike
    | some stage =>
      rw [perform_go found] at unlike free
      have turns : Doing.Turns w.scope stage
        (doing.make dispatch catalogue registered stage w.scope).1
          (doing.make dispatch catalogue registered stage w.scope).2 doing :=
        doing.make_turns stage w.scope
      cases turns with
      | keeps same _ _ => exact absurd same unlike
      | claims _ held _ _ => exact absurd (held.symm.trans free) Bool.true_eq_false.mp
      | frees _ ending before _ =>
        exact ⟨party, ending, rfl, before ▸ found, (before ▸ sound.fits _ _ found).1⟩

end Next

/-- Nobody loses the place by what others do. -/
theorem World.Holds.spared {w : World} {move : Move} {party : Nat} (holds : w.Holds party)
    (other : move ≠ .go party .free) :
    (perform dispatch catalogue registered move w).Holds party := by
  cases move with
  | call config => exact (holds_call config party).2 holds
  | go mover doing =>
    cases found : w.parties[mover]? with
    | none => rwa [perform_absent found]
    | some stage =>
      rw [perform_go found, World.holds_put found]
      split
      · rename_i here
        subst here
        have turns : Doing.Turns w.scope stage
          (doing.make dispatch catalogue registered stage w.scope).1 _ doing :=
          doing.make_turns stage w.scope
        cases turns with
        | keeps _ same _ => rwa [same, ← World.holds_self found]
        | claims _ _ _ next => exact next
        | frees _ _ _ _ => exact absurd rfl other
      · exact holds

/-- Whoever gives the place back leaves it free. -/
theorem World.freed {w : World} {party : Nat} {ending : End}
    (there : w.parties[party]? = some (.freeing ending)) :
    (perform dispatch catalogue registered (.go party .free) w).scope.live = false := by
  rw [perform_go there]
  rfl

/-- Where nobody is about, the place is free. -/
theorem World.Sound.idle {w : World} (sound : w.Sound dispatch catalogue registered)
    (gone : ∀ (party : Nat) (stage : Stage), w.parties[party]? = some stage →
      ∃ ending, stage = .gone ending) : w.scope.live = false := by
  refine Bool.eq_false_iff.2 fun live => ?_
  obtain ⟨party, stage, found, holds⟩ := sound.live.1 live
  obtain ⟨ending, rfl⟩ := gone party stage found
  cases holds

/-- Where the place is free, making a scoped application comes to no conflict. -/
theorem createScoped_of_free {s : Scope} (free : s.live = false) (config : Config)
    (runtime : Runtime) (e : Failure)
    (failed : (Application.createScoped catalogue registered config runtime s).1 =
      .returned (.error e)) : e.kind ≠ .conflict := by
  obtain ⟨live⟩ := s
  cases free
  cases runtime with
  | built journal cues => cases failed
  | failed cause =>
    cases failed
    exact nofun
  | unwound payload => cases failed

/-- However those who make and drop scoped applications come between each other, one of them is
alive at most, and the place is theirs from the claim until they give it back: after the tear-down,
or when no application could be built. -/
theorem one_at_a_time (dispatch : Dispatch) (catalogue : Catalogue) (registered : List String)
    (moves : List Move) :
    OneAtATime dispatch catalogue registered
      (performAll dispatch catalogue registered moves {}) := by
  have sound : (performAll dispatch catalogue registered moves {}).Sound dispatch catalogue
    registered := performAll_sound moves
  generalize performAll dispatch catalogue registered moves {} = w at sound
  constructor
  case alone => exact fun party other alive too => sound.one party other alive.holds too.holds
  case taken => exact sound.live
  case conflict => exact fun move party ending gone new conflict => sound.conflict gone new conflict
  case spares =>
    intro move party holds other
    have still : (perform dispatch catalogue registered move w).Holds party := holds.spared other
    exact ⟨still, (sound.moved move).live.2 ⟨party, still⟩⟩
  case released => exact fun move live free => sound.released live free
  case freed => exact fun party ending there => World.freed there
  case stopped =>
    rintro party before after (found | found)
    · exact (sound.fits party _ found).1
    · exact sound.fits party _ found
  case idle =>
    intro gone
    have free := sound.idle gone
    exact ⟨free, createScoped_of_free free⟩
  case creates =>
    intro config runtime called after created
    have there : called.parties[w.parties.size]? = some (.asking config) := by
      rw [parties_call, if_pos rfl]
    obtain ⟨stage, scope⟩ := performAll_go there [.claim, .build runtime, .free]
    rw [stage, scope]
    exact makeAll_create config runtime w.scope
  case drops =>
    intro party a there after dropped ended
    obtain ⟨stage, scope⟩ := performAll_go there [.leave, .tearDown, .free]
    rw [stage, scope, makeAll_drop w.scope ended]
    exact ⟨rfl, rfl⟩

/-- What somebody was told, and which plugins were stopped when an application was dropped. -/
def Stage.report : Stage → Option Failure × List Nat
  | gone (.dropped _ after) => (none, entries .stop after.ensemble.calls)
  | gone ending => (ending.failure?, [])
  | asking _ | building _ | living _ | leaving _ | freeing _ => (none, [])

/-- Of three who come between each other, the first one cannot build an application, the second one
is refused, and the third one gets an application in which a plugin runs. The place is free again
only after the plugin was stopped, and a fourth one is refused until then. -/
theorem one_at_a_time_of_four :
    let base : Plugin := { type := "Base", name := "base" }
    let after (moves : List Move) : World := performAll (Code.runWithin 1) [] [] moves {}
    let starts : List Move := [.call {}, .call {}, .go 0 .claim, .go 1 .claim,
      .go 0 (.build (.failed "no memory")), .call {}, .go 0 .free, .go 2 .claim,
      .go 2 (.build (.built #[] [])), .go 2 (.operate (.register base)),
      .go 2 (.operate (.setUp ["base"] .empty)), .go 2 (.operate .start)]
    let drops : List Move := [.go 2 .leave, .call {}, .go 2 .tearDown, .go 3 .claim, .go 2 .free]
    let last := after (starts ++ drops)
    OneAtATime (Code.runWithin 1) [] [] last ∧
      (after starts).scope.live = true ∧ last.scope.live = false ∧
      last.parties.toList.map Stage.report =
        [(some (.reactorNotBuilt "no memory"), []), (some .scopeTaken, []), (none, [0]),
          (some .scopeTaken, [])] := by
  intro base after starts drops last
  exact ⟨one_at_a_time _ _ _ _, by decide +kernel, by decide +kernel, by decide +kernel⟩

end Scoped

end PluginHost
