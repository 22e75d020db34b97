import PluginHost.Proofs.Sharing.Histories

set_option autoImplicit false

namespace PluginHost

namespace Sharing

variable {ν σ : Type} (announce : String → σ → σ)

/-- What concerns a type in a registry. -/
def Deed.Concerns (registry : Nat) (type : String) : Deed → Prop
  | .got r t _ _ | .refused r t _ | .brokeOff r t _ | .looked r t _ => r = registry ∧ t = type
  | .cleared _ | .aside => False

/-- Before there is an instance nobody sees one, and whoever begins to make one breaks off. -/
def Deed.Waits (registry : Nat) (type : String) (deed : Deed) : Prop :=
  deed.Concerns registry type →
    deed = .looked registry type none ∨ deed = .brokeOff registry type 1

/-- From when there is an instance on, everybody gets that one, and none is begun to be made. -/
def Deed.Shares (registry : Nat) (type : String) (number : Nat) (deed : Deed) : Prop :=
  deed.Concerns registry type →
    deed = .looked registry type (some number) ∨ deed = .got registry type number 0

/-- Deeds with one instance of a type at most, made by the first who gets it. -/
def OneInstance (registry : Nat) (type : String) (deeds : List Deed) : Prop :=
  (∀ deed ∈ deeds, deed.Waits registry type) ∨
    ∃ waits number rest, deeds = waits ++ .got registry type number 1 :: rest ∧
      (∀ deed ∈ waits, deed.Waits registry type) ∧
      ∀ deed ∈ rest, deed.Shares registry type number

section One

variable {registry : Nat} {type : String} {deeds : List Deed}

theorem OneInstance.cons {deed : Deed} (waits : deed.Waits registry type)
    (one : OneInstance registry type deeds) : OneInstance registry type (deed :: deeds) := by
  rcases one with all | ⟨before, number, rest, rfl, waiting, shares⟩
  · exact .inl (List.forall_mem_cons.2 ⟨waits, all⟩)
  · exact .inr ⟨deed :: before, number, rest, rfl, List.forall_mem_cons.2 ⟨waits, waiting⟩, shares⟩

/-- Deeds that neither clear the registry nor concern the type leave what there is for it. -/
theorem Deed.leaves_of_unconcerned {deed : Deed} {current : Option Nat}
    (uncleared : deed ≠ .cleared registry) (unconcerned : ¬ deed.Concerns registry type) :
    deed.leaves registry type current = current := by
  cases deed with
  | got r t number inits => exact if_neg unconcerned
  | cleared r => exact if_neg fun same => uncleared (congrArg Deed.cleared same)
  | _ => rfl

theorem shares_of_fits {number : Nat} (fits : FitsAll registry type (some number) deeds)
    (uncleared : .cleared registry ∉ deeds) : ∀ deed ∈ deeds, deed.Shares registry type number := by
  induction deeds with
  | nil => exact fun _ none => absurd none List.not_mem_nil
  | cons deed later ih =>
    obtain ⟨fit, rest⟩ := fits
    obtain ⟨unlike, others⟩ := not_or.1 (mt List.mem_cons.2 uncleared)
    by_cases concerns : deed.Concerns registry type
    · cases deed with
      | got r t n inits =>
        obtain ⟨rfl, rfl⟩ := concerns
        rcases fit rfl rfl with ⟨same, rfl⟩ | ⟨none, _⟩
        · cases same
          rw [Deed.leaves, if_pos ⟨rfl, rfl⟩] at rest
          exact List.forall_mem_cons.2 ⟨fun _ => .inr rfl, ih rest others⟩
        · cases none
      | refused r t failure => exact fit.elim
      | brokeOff r t inits => cases (fit concerns.1 concerns.2).1
      | looked r t found =>
        obtain ⟨rfl, rfl⟩ := concerns
        cases fit rfl rfl
        exact List.forall_mem_cons.2 ⟨fun _ => .inl rfl, ih rest others⟩
      | cleared r | aside => exact concerns.elim
    · rw [Deed.leaves_of_unconcerned (Ne.symm unlike) concerns] at rest
      exact List.forall_mem_cons.2 ⟨fun does => absurd does concerns, ih rest others⟩

theorem oneInstance_of_fits (fits : FitsAll registry type none deeds)
    (uncleared : .cleared registry ∉ deeds) : OneInstance registry type deeds := by
  induction deeds with
  | nil => exact .inl fun _ none => absurd none List.not_mem_nil
  | cons deed later ih =>
    obtain ⟨fit, rest⟩ := fits
    obtain ⟨unlike, others⟩ := not_or.1 (mt List.mem_cons.2 uncleared)
    by_cases concerns : deed.Concerns registry type
    · cases deed with
      | got r t number inits =>
        obtain ⟨rfl, rfl⟩ := concerns
        rcases fit rfl rfl with ⟨some, _⟩ | ⟨_, rfl⟩
        · cases some
        · rw [Deed.leaves, if_pos ⟨rfl, rfl⟩] at rest
          exact .inr ⟨[], number, later, rfl, fun _ none => absurd none List.not_mem_nil,
            shares_of_fits rest others⟩
      | refused r t failure => exact fit.elim
      | brokeOff r t inits =>
        obtain ⟨rfl, rfl⟩ := concerns
        obtain ⟨_, rfl⟩ := fit rfl rfl
        exact (ih rest others).cons fun _ => .inr rfl
      | looked r t found =>
        obtain ⟨rfl, rfl⟩ := concerns
        cases fit rfl rfl
        exact (ih rest others).cons fun _ => .inl rfl
      | cleared r | aside => exact concerns.elim
    · rw [Deed.leaves_of_unconcerned (Ne.symm unlike) concerns] at rest
      exact (ih rest others).cons fun does => absurd does concerns

/-- Whoever gets an instance gets the one that was got before, if no clearing came between. -/
theorem same_of_fits {current : Option Nat} {before between after : List Deed}
    {number same inits more : Nat}
    (fits : FitsAll registry type current (before ++ .got registry type number inits ::
      (between ++ .got registry type same more :: after)))
    (uncleared : .cleared registry ∉ between) : same = number := by
  have rest := fits.split.2.2
  rw [Deed.leaves, if_pos ⟨rfl, rfl⟩, List.append_cons] at rest
  have others : Deed.cleared registry ∉ between ++ [.got registry type same more] := by
    simpa using uncleared
  rcases shares_of_fits rest.split.1 others _ List.mem_concat_self ⟨rfl, rfl⟩ with looked | got
  · cases looked
  · cases got
    rfl

end One

section Kept

variable {s : Sharing ν} {number : Nat} {i : Instance ν}

/-- What holds of what is shared, and after any use, holds after a use through a context. -/
theorem through_keeps (Holds : Sharing ν → Prop) (holds : Holds s) (w : σ) (context : Nat)
    {make : Nat → Deed × (Sharing ν × σ)} (after : ∀ registry, Holds (make registry).2.1) :
    Holds (s.through w context make).2.1 := by
  unfold through
  split
  · exact after _
  · exact holds

/-- An instance stays as it is until somebody who holds it changes it. -/
theorem perform_kept (sound : s.Sound) (there : s.instances[number]? = some i) {use : Use ν σ}
    (unaltered : ∀ change, use ≠ .alter number change) (w : σ) :
    (perform announce use s w).2.1.instances[number]? = some i := by
  cases use with
  | getOrInit context type init =>
    refine through_keeps (fun s => s.instances[number]? = some i) there w context
      fun registry => ?_
    rcases ask_cases sound announce registry type init w with
      ⟨_, _, asked⟩ | ⟨_, ⟨value, _, _, asked⟩ | ⟨_, _, asked⟩⟩ <;> rw [asked]
    · exact there
    · exact instances_enter s there value
    · exact there
  | get context type | clear context | clone context =>
    exact through_keeps (fun s => s.instances[number]? = some i) there w context
      fun _ => there
  | found | meanwhile change => exact there
  | alter other change =>
    have apart : other ≠ number := fun same => unaltered change (by rw [same])
    exact (instances_alter s apart change).trans there

theorem performAll_kept (uses : List (Use ν σ)) (sound : s.Sound)
    (there : s.instances[number]? = some i) (unaltered : ∀ change, .alter number change ∉ uses)
    (w : σ) : (performAll announce uses s w).2.1.instances[number]? = some i := by
  induction uses generalizing s w with
  | nil => exact there
  | cons use later ih =>
    have now := perform_kept announce sound there
      (fun change same => unaltered change (same ▸ List.mem_cons_self)) w
    exact ih (perform_comes announce sound use w).sound now
      (fun change member => unaltered change (List.mem_cons_of_mem _ member)) _

/-- A context goes on to refer to what it refers to. -/
theorem perform_contexts (sound : s.Sound) {context : Nat} {c : PluginContext}
    (there : s.contexts[context]? = some c) (use : Use ν σ) (w : σ) :
    (perform announce use s w).2.1.contexts[context]? = some c := by
  have kept (other : Nat) {make : Nat → Deed × (Sharing ν × σ)}
      (after : ∀ registry, (make registry).2.1.contexts[context]? = some c) :
      (s.through w other make).2.1.contexts[context]? = some c :=
    through_keeps (fun s => s.contexts[context]? = some c) there w other after
  cases use with
  | getOrInit other type init =>
    refine kept other fun registry => ?_
    rcases ask_cases sound announce registry type init w with
      ⟨_, _, asked⟩ | ⟨_, ⟨_, _, _, asked⟩ | ⟨_, _, asked⟩⟩ <;> rw [asked] <;> exact there
  | get other type | clear other => exact kept other fun _ => there
  | clone other => exact kept other fun _ => getElem?_push_of_some there _
  | found => exact getElem?_push_of_some there _
  | alter number change | meanwhile change => exact there

theorem performAll_contexts (uses : List (Use ν σ)) (sound : s.Sound) {context : Nat}
    {c : PluginContext} (there : s.contexts[context]? = some c) (w : σ) :
    (performAll announce uses s w).2.1.contexts[context]? = some c := by
  induction uses generalizing s w with
  | nil => exact there
  | cons use later ih =>
    have now := perform_contexts announce sound there use w
    exact ih (perform_comes announce sound use w).sound now _

/-- A clone refers to what its context refers to. -/
theorem perform_clone {context : Nat} {c : PluginContext} (there : s.contexts[context]? = some c)
    (w : σ) : perform announce (.clone context) s w = (.aside, (s.clone c, w)) := by
  simp only [perform, through, there]

end Kept

/-- What a history that began with nothing comes to. -/
structure Singletons (announce : String → σ → σ) (uses : List (Use ν σ)) (world : σ) : Prop where
  /-- An instance is always of the type that it is asked for by. -/
  expected : ∀ registry type failure,
    .refused registry type failure ∉ (performAll announce uses {} world).1
  /-- From the beginning, or a clearing of a registry, to its next clearing. -/
  once : ∀ before stretch after registry,
    (performAll announce uses {} world).1 = before ++ stretch ++ after →
      before = [] ∨ (∃ earlier, before = earlier ++ [.cleared registry]) →
        .cleared registry ∉ stretch → ∀ type, OneInstance registry type stretch
  /-- Who gets an instance of a type gets the same one as who got one before, but for a clearing. -/
  same : ∀ before between after registry type number same inits more,
    (performAll announce uses {} world).1 = before ++ .got registry type number inits ::
      (between ++ .got registry type same more :: after) →
      .cleared registry ∉ between → same = number
  /-- What is of different types is different. -/
  apart : ∀ {registry other type another number same inits more},
    .got registry type number inits ∈ (performAll announce uses {} world).1 →
      .got other another same more ∈ (performAll announce uses {} world).1 →
        type ≠ another → number ≠ same
  /-- An instance stays as it is but for what those do to it who hold it. -/
  undisturbed : ∀ earlier later number i, uses = earlier ++ later →
    (∀ change, .alter number change ∉ later) →
      (performAll announce earlier {} world).2.1.instances[number]? = some i →
        (performAll announce uses {} world).2.1.instances[number]? = some i
  /-- A context and its clones refer to the same registry for good. -/
  clones : ∀ earlier context later c, uses = earlier ++ .clone context :: later →
    (performAll announce earlier {} world).2.1.contexts[context]? = some c →
      (performAll announce uses {} world).2.1.contexts[context]? = some c ∧
        (performAll announce uses {} world).2.1.contexts[
          (performAll announce earlier {} world).2.1.contexts.size]? = some c

theorem FitsAll.expected {registry : Nat} {type : String} {current : Option Nat} {deeds : List Deed}
    (fits : FitsAll registry type current deeds) {other : Nat} {another : String}
    {failure : Failure} : .refused other another failure ∉ deeds := by
  induction deeds generalizing current with
  | nil => exact List.not_mem_nil
  | cons deed later ih =>
    intro member
    rcases List.mem_cons.1 member with rfl | after
    · exact fits.1
    · exact ih fits.2 after

/-- A registry that was just cleared, or was never used, has nothing. -/
theorem leavesAll_of_cleared {registry : Nat} {type : String} {before : List Deed}
    (begins : before = [] ∨ ∃ earlier, before = earlier ++ [.cleared registry]) :
    leavesAll registry type none before = none := by
  rcases begins with rfl | ⟨earlier, rfl⟩
  · rfl
  · rw [leavesAll, List.foldl_append, List.foldl_cons, List.foldl_nil, Deed.leaves, if_pos rfl]

theorem singletons (announce : String → σ → σ) (uses : List (Use ν σ)) (world : σ) :
    Singletons announce uses world := by
  have comes := performAll_comes announce uses sound_empty world
  constructor
  case expected => exact fun registry type failure => (comes.fits registry type).expected
  case once =>
    intro before stretch after registry split begins uncleared type
    have fits : FitsAll registry type none _ := comes.fits registry type
    rw [split, List.append_assoc] at fits
    have rest := fits.split.2
    rw [leavesAll_of_cleared begins] at rest
    exact oneInstance_of_fits rest.split.1 uncleared
  case same =>
    intro before between after registry type number same inits more split uncleared
    have fits := comes.fits registry type
    rw [split] at fits
    exact same_of_fits fits uncleared
  case apart =>
    intro registry other type another number same inits more got gotToo unlike equal
    have typed : _ = some type := comes.typed _ got
    have typedToo : _ = some another := comes.typed _ gotToo
    rw [← equal, typed] at typedToo
    exact unlike (Option.some.inj typedToo)
  case undisturbed =>
    rintro earlier later number i rfl unaltered there
    rw [performAll_append]
    exact performAll_kept announce later (performAll_comes announce earlier sound_empty world).sound
      there unaltered _
  case clones =>
    rintro earlier context later c rfl there
    have sound := (performAll_comes announce earlier sound_empty world).sound
    rw [performAll_append]
    simp only [performAll, perform_clone announce there]
    have cloned := sound.clone (sound.registered there)
    refine ⟨performAll_contexts announce later cloned (getElem?_push_of_some there c) _,
      performAll_contexts announce later cloned ?_ _⟩
    rw [Sharing.clone, Array.getElem?_push, if_pos rfl]

end Sharing

end PluginHost
