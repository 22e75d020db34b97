import PluginHost.Host.Sharing
import PluginHost.Proofs.Messaging.Course

set_option autoImplicit false

namespace PluginHost

namespace Sharing

variable {ν σ : Type}

/-- What is done with what is shared, through a context where one is needed. -/
inductive Use (ν σ : Type) where
  | getOrInit (context : Nat) (type : String) (init : Act σ ν)
  | get (context : Nat) (type : String)
  | clear (context : Nat)
  | clone (context : Nat)
  | found
  | alter (number : Nat) (change : ν → ν)
  /-- Something that has nothing to do with what is shared. -/
  | meanwhile (change : σ → σ)

/-- What comes of a use. Where an instance is asked for, it is told how many times one was begun to
be made. -/
inductive Deed where
  | got (registry : Nat) (type : String) (number inits : Nat)
  | refused (registry : Nat) (type : String) (failure : Failure)
  /-- The making of an instance did not come to its end. -/
  | brokeOff (registry : Nat) (type : String) (inits : Nat)
  | looked (registry : Nat) (type : String) (number : Option Nat)
  | cleared (registry : Nat)
  | aside
deriving DecidableEq, Repr

def Deed.ofFlow (registry : Nat) (type : String) (inits : Nat) : Flow (Except Failure Nat) → Deed
  | .returned (.ok number) => .got registry type number inits
  | .returned (.error failure) => .refused registry type failure
  | .unwound _ | .stalled => .brokeOff registry type inits

def counted {α : Type} (act : Act σ α) : Act (σ × Nat) α := fun w =>
  ((act w.1).1, ((act w.1).2, w.2 + 1))

/-- Makes a use through a context, and passes where there is no such context. -/
def through (s : Sharing ν) (w : σ) (context : Nat)
    (make : Nat → Deed × (Sharing ν × σ)) : Deed × (Sharing ν × σ) :=
  match s.contexts[context]? with
  | some ⟨registry⟩ => make registry
  | none => (.aside, (s, w))

variable (announce : String → σ → σ)

def ask (registry : Nat) (type : String) (init : Act σ ν) (s : Sharing ν) (w : σ) :
    Deed × (Sharing ν × σ) :=
  let ended := getOrInit (fun type w => (announce type w.1, w.2)) registry type (counted init)
    (s, (w, 0))
  (.ofFlow registry type ended.2.2.2 ended.1, (ended.2.1, ended.2.2.1))

def perform (use : Use ν σ) (s : Sharing ν) (w : σ) : Deed × (Sharing ν × σ) :=
  match use with
  | .getOrInit context type init => s.through w context fun registry =>
    ask announce registry type init s w
  | .get context type => s.through w context fun registry =>
    (.looked registry type (s.get registry type), (s, w))
  | .clear context => s.through w context fun registry => (.cleared registry, (s.clear registry, w))
  | .clone context => s.through w context fun registry => (.aside, (s.clone ⟨registry⟩, w))
  | .found => (.aside, (s.found, w))
  | .alter number change => (.aside, (s.alter number change, w))
  | .meanwhile change => (.aside, (s, change w))

def performAll : List (Use ν σ) → Sharing ν → σ → List Deed × (Sharing ν × σ)
  | [], s, w => ([], (s, w))
  | use :: later, s, w =>
    let made := perform announce use s w
    let rest := performAll later made.2.1 made.2.2
    (made.1 :: rest.1, rest.2)

theorem performAll_append (earlier later : List (Use ν σ)) (s : Sharing ν) (w : σ) :
    performAll announce (earlier ++ later) s w =
      let before := performAll announce earlier s w
      let after := performAll announce later before.2.1 before.2.2
      (before.1 ++ after.1, after.2) := by
  induction earlier generalizing s w with
  | nil => rfl
  | cons use rest ih => simp only [List.cons_append, performAll, ih]

section Changes

variable (s : Sharing ν) {registry number : Nat} {type : String}

theorem find?_enter (registered : registry < s.registries.size) (value : ν) (other : Nat)
    (wanted : String) :
    (s.enter registry type value).find? other wanted =
      if registry = other ∧ type = wanted then some s.instances.size else s.find? other wanted := by
  have there : s.registries[registry]? = some s.registries[registry] :=
    Array.getElem?_eq_getElem registered
  simp only [find?, enter, Array.getElem?_modify]
  by_cases same : registry = other
  · subst same
    simp only [there, if_true, Option.map_some, Option.bind_some, Members.find?_insert, true_and]
  · simp only [same, if_false, false_and]

theorem find?_clear (other : Nat) (wanted : String) :
    (s.clear registry).find? other wanted =
      if registry = other then none else s.find? other wanted := by
  simp only [find?, clear, Array.getElem?_modify]
  split
  · cases s.registries[other]? <;> rfl
  · rfl

theorem find?_found (other : Nat) (wanted : String) :
    s.found.find? other wanted = s.find? other wanted := by
  simp only [find?, found, Array.getElem?_push]
  split
  · rename_i new
    rw [new, Array.getElem?_size]
    rfl
  · rfl

theorem instances_enter {i : Instance ν} (there : s.instances[number]? = some i) (value : ν) :
    (s.enter registry type value).instances[number]? = some i :=
  getElem?_push_of_some there _

theorem instances_enter_size (value : ν) :
    (s.enter registry type value).instances[s.instances.size]? = some ⟨type, value⟩ := by
  rw [enter, Array.getElem?_push, if_pos rfl]

/-- An instance keeps its type whatever is made of it. -/
theorem type?_alter (altered : Nat) (change : ν → ν) (number : Nat) :
    (s.alter altered change).type? number = s.type? number := by
  simp only [type?, alter, Array.getElem?_modify]
  split
  · rw [Option.map_map]
    rfl
  · rfl

theorem instances_alter {altered : Nat} (other : altered ≠ number) (change : ν → ν) :
    (s.alter altered change).instances[number]? = s.instances[number]? := by
  rw [alter, Array.getElem?_modify, if_neg other]

end Changes

section Asking

variable {announce} {s : Sharing ν} {w : σ} {registry number : Nat} {type : String} {init : Act σ ν}

theorem expect_of_type (typed : s.type? number = some type) :
    s.expect type number = .ok number := by
  simp only [expect, downcast, typed, if_true]

theorem getOrInit_of_found (found : s.find? registry type = some number)
    (typed : s.type? number = some type) :
    getOrInit announce registry type init (s, w) = (.returned (.ok number), (s, w)) := by
  unfold getOrInit
  rw [Act.bind_of_returned (a := s) rfl]
  simp only [Act.look_apply, found, pure_bind, expect_of_type typed]

theorem getOrInit_of_absent (absent : s.find? registry type = none) :
    getOrInit announce registry type init (s, w) =
      match init (announce type w) with
      | (.returned value, w) =>
        (.returned (.ok s.instances.size), (s.enter registry type value, w))
      | (.unwound payload, w) => (.unwound payload, (s, w))
      | (.stalled, w) => (.stalled, (s, w)) := by
  unfold getOrInit
  rw [Act.bind_of_returned (a := s) rfl]
  simp only [Act.look_apply, absent, Act.bind_apply, Act.within, Act.modify_apply]
  rcases init (announce type w) with ⟨_ | _ | _, w⟩
  · rename_i value
    have typed : (s.enter registry type value).type? s.instances.size = some type := by
      rw [type?, instances_enter_size]
      rfl
    simp only [Act.step_apply, expect_of_type typed]
  · rfl
  · rfl

end Asking

/-- A registry has instances under their types, and every context refers to a registry. -/
structure Sound (s : Sharing ν) : Prop where
  typed : ∀ {registry number : Nat} {type : String},
    s.find? registry type = some number → s.type? number = some type
  registered : ∀ {context : Nat} {c : PluginContext},
    s.contexts[context]? = some c → c.registry < s.registries.size

theorem sound_empty : ({} : Sharing ν).Sound where
  typed found := by cases found
  registered found := by cases found

/-- What a registry has for a type after something has come of a use. -/
def Deed.leaves (registry : Nat) (type : String) (current : Option Nat) : Deed → Option Nat
  | .got r t number _ => if r = registry ∧ t = type then some number else current
  | .cleared r => if r = registry then none else current
  | _ => current

/-- What comes of a use is what has to come of it, with what a registry has for a type. -/
def Deed.Fits (registry : Nat) (type : String) (current : Option Nat) : Deed → Prop
  | .got r t number inits => r = registry → t = type →
    current = some number ∧ inits = 0 ∨ current = none ∧ inits = 1
  | .refused _ _ _ => False
  | .brokeOff r t inits => r = registry → t = type → current = none ∧ inits = 1
  | .looked r t number => r = registry → t = type → number = current
  | .cleared _ | .aside => True

/-- What was got is of the type that it was asked for by. -/
def Deed.Typed (s : Sharing ν) : Deed → Prop
  | .got _ type number _ => s.type? number = some type
  | _ => True

/-- A use makes of what is shared what comes of it. -/
structure Comes (s : Sharing ν) (deed : Deed) (after : Sharing ν) : Prop where
  sound : after.Sound
  types : ∀ {number : Nat} {type : String},
    s.type? number = some type → after.type? number = some type
  fits : ∀ registry type, deed.Fits registry type (s.find? registry type)
  leaves : ∀ registry type,
    after.find? registry type = deed.leaves registry type (s.find? registry type)
  typed : deed.Typed after

section Step

variable {announce : String → σ → σ} {s : Sharing ν} {w : σ} {registry : Nat} {type : String}

theorem type?_enter {number : Nat} {known : String} (there : s.type? number = some known)
    (value : ν) : (s.enter registry type value).type? number = some known := by
  obtain ⟨i, found, same⟩ := Option.map_eq_some_iff.1 there
  rw [Sharing.type?, instances_enter s found, Option.map_some, same]

theorem Sound.enter (sound : s.Sound) (registered : registry < s.registries.size) (value : ν) :
    (s.enter registry type value).Sound where
  typed {other number wanted} found := by
    rw [find?_enter s registered] at found
    split at found
    · rename_i same
      cases found
      rw [Sharing.type?, instances_enter_size, ← same.2]
      rfl
    · exact type?_enter (sound.typed found) value
  registered found := by
    rw [Sharing.enter, Array.size_modify]
    exact sound.registered found

theorem Sound.clear (sound : s.Sound) (registry : Nat) : (s.clear registry).Sound where
  typed found := by
    rw [find?_clear] at found
    split at found
    · cases found
    · exact sound.typed found
  registered found := by
    rw [Sharing.clear, Array.size_modify]
    exact sound.registered found

theorem Sound.clone (sound : s.Sound) {c : PluginContext}
    (registered : c.registry < s.registries.size) : (s.clone c).Sound where
  typed found := sound.typed found
  registered found := by
    rw [Sharing.clone, Array.getElem?_push] at found
    split at found
    · cases found
      exact registered
    · exact sound.registered found

theorem Sound.found (sound : s.Sound) : s.found.Sound where
  typed found := by
    rw [find?_found] at found
    exact sound.typed found
  registered found := by
    rw [Sharing.found, Array.getElem?_push] at found
    rw [Sharing.found, Array.size_push]
    split at found
    · cases found
      exact Nat.lt_succ_self _
    · exact Nat.lt_succ_of_lt (sound.registered found)

theorem Sound.alter (sound : s.Sound) (number : Nat) (change : ν → ν) :
    (s.alter number change).Sound where
  typed found := by
    rw [type?_alter]
    exact sound.typed found
  registered found := sound.registered found

/-- What comes of asking for an instance: the one that is there, one that is made, or none where its
making breaks off. -/
theorem ask_cases (sound : s.Sound) (announce : String → σ → σ) (registry : Nat) (type : String)
    (init : Act σ ν) (w : σ) :
    (∃ number, s.find? registry type = some number ∧
      ask announce registry type init s w = (.got registry type number 0, (s, w))) ∨
    s.find? registry type = none ∧
      ((∃ value last, init (announce type w) = (.returned value, last) ∧
        ask announce registry type init s w =
          (.got registry type s.instances.size 1, (s.enter registry type value, last))) ∨
      ∃ last, (∀ value, (init (announce type w)).1 ≠ .returned value) ∧
        ask announce registry type init s w = (.brokeOff registry type 1, (s, last))) := by
  unfold ask
  cases found : s.find? registry type with
  | some number =>
    simp only [getOrInit_of_found found (sound.typed found)]
    exact .inl ⟨number, rfl, rfl⟩
  | none =>
    simp only [getOrInit_of_absent found, counted]
    refine .inr ⟨trivial, ?_⟩
    rcases init (announce type w) with ⟨value | _ | _, last⟩
    · exact .inl ⟨value, last, rfl, rfl⟩
    · exact .inr ⟨last, nofun, rfl⟩
    · exact .inr ⟨last, nofun, rfl⟩

theorem Comes.refl (sound : s.Sound) {deed : Deed}
    (fits : ∀ registry type, deed.Fits registry type (s.find? registry type))
    (leaves : ∀ registry type current, deed.leaves registry type current = current)
    (typed : deed.Typed s) : Comes s deed s where
  sound := sound
  types there := there
  fits := fits
  leaves registry type := (leaves registry type _).symm
  typed := typed

theorem Comes.aside (sound : s.Sound) : Comes s .aside s :=
  .refl sound (fun _ _ => trivial) (fun _ _ _ => rfl) trivial

theorem ask_comes (sound : s.Sound) (registered : registry < s.registries.size) (init : Act σ ν)
    (w : σ) :
    Comes s (ask announce registry type init s w).1 (ask announce registry type init s w).2.1 := by
  rcases ask_cases sound announce registry type init w with
    ⟨number, found, asked⟩ | ⟨absent, ⟨value, last, _, asked⟩ | ⟨last, _, asked⟩⟩ <;> rw [asked]
  · constructor
    case sound => exact sound
    case types => exact fun there => there
    case fits =>
      rintro _ _ rfl rfl
      exact .inl ⟨found, rfl⟩
    case leaves =>
      intro other wanted
      rw [Deed.leaves]
      split
      · rename_i same
        rw [← same.1, ← same.2]
        exact found
      · rfl
    case typed => exact sound.typed found
  · constructor
    case sound => exact sound.enter registered value
    case types => exact fun there => type?_enter there value
    case fits =>
      rintro _ _ rfl rfl
      exact .inr ⟨absent, rfl⟩
    case leaves => exact find?_enter s registered value
    case typed =>
      rw [Deed.Typed, Sharing.type?, instances_enter_size]
      rfl
  · refine .refl sound ?_ (fun _ _ _ => rfl) trivial
    rintro _ _ rfl rfl
    exact ⟨absent, rfl⟩

/-- Through a context a registry is used that there is. -/
theorem through_comes (sound : s.Sound) (context : Nat) {make : Nat → Deed × (Sharing ν × σ)}
    (comes : ∀ registry, registry < s.registries.size →
      Comes s (make registry).1 (make registry).2.1) :
    Comes s (s.through w context make).1 (s.through w context make).2.1 := by
  unfold through
  split
  · rename_i found
    exact comes _ (sound.registered found)
  · exact .aside sound

variable (announce) in
theorem perform_comes (sound : s.Sound) (use : Use ν σ) (w : σ) :
    Comes s (perform announce use s w).1 (perform announce use s w).2.1 := by
  cases use with
  | getOrInit context type init =>
    exact through_comes sound context fun _ registered => ask_comes sound registered init w
  | get context type =>
    refine through_comes sound context fun registry _ => .refl sound ?_ (fun _ _ _ => rfl) trivial
    rintro _ _ rfl rfl
    cases found : s.find? registry type with
    | none => rw [Sharing.get, found, Option.bind_none]
    | some number =>
      rw [Sharing.get, found, Option.bind_some, downcast, if_pos (sound.typed found)]
  | clear context =>
    refine through_comes sound context fun registry _ => ?_
    exact ⟨sound.clear registry, fun there => there, fun _ _ => trivial, find?_clear s, trivial⟩
  | clone context =>
    refine through_comes sound context fun registry registered => ?_
    exact ⟨sound.clone registered, fun there => there, fun _ _ => trivial, fun _ _ => rfl, trivial⟩
  | found =>
    exact ⟨sound.found, fun there => there, fun _ _ => trivial, find?_found s, trivial⟩
  | alter number change =>
    exact ⟨sound.alter number change, (type?_alter s number change _).trans, fun _ _ => trivial,
      fun _ _ => rfl, trivial⟩
  | meanwhile change => exact .aside sound

end Step

def leavesAll (registry : Nat) (type : String) (current : Option Nat) (deeds : List Deed) :
    Option Nat := deeds.foldl (fun current deed => deed.leaves registry type current) current

def FitsAll (registry : Nat) (type : String) : Option Nat → List Deed → Prop
  | _, [] => True
  | current, deed :: later =>
    deed.Fits registry type current ∧
      FitsAll registry type (deed.leaves registry type current) later

theorem FitsAll.split {registry : Nat} {type : String} {current : Option Nat}
    {before after : List Deed} (fits : FitsAll registry type current (before ++ after)) :
    FitsAll registry type current before ∧
      FitsAll registry type (leavesAll registry type current before) after := by
  induction before generalizing current with
  | nil => exact ⟨trivial, fits⟩
  | cons deed later ih =>
    obtain ⟨first, rest⟩ := fits
    exact ⟨⟨first, (ih rest).1⟩, (ih rest).2⟩

/-- What uses one after the other make of what is shared. -/
structure ComesAll (s : Sharing ν) (deeds : List Deed) (last : Sharing ν) : Prop where
  sound : last.Sound
  types : ∀ {number : Nat} {type : String},
    s.type? number = some type → last.type? number = some type
  fits : ∀ registry type, FitsAll registry type (s.find? registry type) deeds
  leaves : ∀ registry type,
    last.find? registry type = leavesAll registry type (s.find? registry type) deeds
  typed : ∀ deed ∈ deeds, deed.Typed last

theorem Deed.Typed.later {s last : Sharing ν} {deed : Deed} (typed : deed.Typed s)
    (types : ∀ {number : Nat} {type : String},
      s.type? number = some type → last.type? number = some type) : deed.Typed last := by
  cases deed with
  | got registry type number inits => exact types typed
  | _ => trivial

theorem performAll_comes (announce : String → σ → σ) (uses : List (Use ν σ)) {s : Sharing ν}
    (sound : s.Sound) (w : σ) :
    ComesAll s (performAll announce uses s w).1 (performAll announce uses s w).2.1 := by
  induction uses generalizing s w with
  | nil =>
    exact ⟨sound, fun there => there, fun _ _ => trivial, fun _ _ => rfl,
      fun _ none => absurd none List.not_mem_nil⟩
  | cons use later ih =>
    obtain ⟨between, types, fits, leaves, typed⟩ := perform_comes announce sound use w
    have rest := ih between (perform announce use s w).2.2
    constructor
    case sound => exact rest.sound
    case types => exact fun there => rest.types (types there)
    case fits =>
      intro registry type
      exact ⟨fits registry type, leaves registry type ▸ rest.fits registry type⟩
    case leaves =>
      intro registry type
      refine (rest.leaves registry type).trans ?_
      rw [leaves]
      rfl
    case typed =>
      refine List.forall_mem_cons.2 ⟨typed.later rest.types, rest.typed⟩

end Sharing

end PluginHost
