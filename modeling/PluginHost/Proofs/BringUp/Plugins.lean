import Mathlib.Data.List.Forall2
import PluginHost.Plugin.Registry
import PluginHost.Proofs.BringUp.Unseeing

set_option autoImplicit false

namespace PluginHost

/-- The second plugin does what the first does, and may ask to quit when it is set up and when it
starts. What they need does not depend on whether somebody asked to quit. -/
structure Plugin.AddsQuits (p q : Plugin) : Prop where
  type : q.type = p.type
  name : q.name = p.name
  cells : q.cells = p.cells
  options : q.options = p.options
  requires : ∀ h k : Host, h.Agree k → q.requires k = p.requires h
  setUp : ∀ options, (p.setUp options).AddsQuits (q.setUp options)
  start : p.start.AddsQuits q.start
  stop : q.stop = p.stop
  reload : q.reload = p.reload
  release : q.release = p.release

/-- The second type makes the plugins that the first makes, which may also ask to quit. What is made
does not depend on whether somebody asked to quit. -/
structure PluginType.AddsQuits (t u : PluginType) : Prop where
  name : u.name = t.name
  steady : ∀ h k : Host, h.Agree k → (t.create k).1 = (t.create h).1
  plugin : ∀ h, (t.create h).1.AddsQuits (u.create h).1
  host : ∀ h k : Host, h.Agree k → (t.create h).2.Agree (u.create k).2

structure Slot.AddsQuits (s t : Slot) : Prop where
  serial : t.serial = s.serial
  plugin : s.plugin.AddsQuits t.plugin
  state : t.state = s.state

structure Registry.AddsQuits (r q : Registry) : Prop where
  slots : List.Forall₂ Slot.AddsQuits r.slots q.slots
  byName : q.byName = r.byName
  issued : q.issued = r.issued

def Catalogue.AddsQuits (catalogue other : Catalogue) : Prop :=
  List.Forall₂ PluginType.AddsQuits catalogue other

/-- Nobody of the first plugins looks at the flag, so they are like themselves. -/
theorem Plugin.AddsQuits.left {p q : Plugin} (adds : p.AddsQuits q) : p.AddsQuits p where
  type := rfl
  name := rfl
  cells := rfl
  options := rfl
  requires h k agree := (adds.requires k k (.refl k)).symm.trans (adds.requires h k agree)
  setUp _ := .refl _
  start := .refl _
  stop := rfl
  reload := rfl
  release := rfl

theorem PluginType.AddsQuits.left {t u : PluginType} (adds : t.AddsQuits u) : t.AddsQuits t where
  name := rfl
  steady := adds.steady
  plugin h := (adds.plugin h).left
  host h k agree := (adds.host k k (.refl k)).symm.trans (adds.host h k agree)

theorem Slot.AddsQuits.left {s t : Slot} (adds : s.AddsQuits t) : s.AddsQuits s :=
  ⟨rfl, adds.plugin.left, rfl⟩

section

variable {α β γ : Type} {R : α → β → Prop} {xs : List α} {ys : List β}

theorem forall₂_left {S : α → α → Prop} (alike : List.Forall₂ R xs ys)
    (left : ∀ x y, R x y → S x x) : List.Forall₂ S xs xs := by
  induction alike with
  | nil => exact .nil
  | cons first _ ih => exact .cons (left _ _ first) ih

theorem findIdx?_of_forall₂ {f : α → Bool} {g : β → Bool} (alike : List.Forall₂ R xs ys)
    (same : ∀ x y, R x y → g y = f x) : ys.findIdx? g = xs.findIdx? f := by
  induction alike with
  | nil => rfl
  | cons first _ ih => rw [List.findIdx?_cons, List.findIdx?_cons, same _ _ first, ih]

theorem find?_of_forall₂ {f : α → Bool} {g : β → Bool} (alike : List.Forall₂ R xs ys)
    (same : ∀ x y, R x y → g y = f x) :
    xs.find? f = none ∧ ys.find? g = none ∨
      ∃ x y, xs.find? f = some x ∧ ys.find? g = some y ∧ R x y := by
  induction alike with
  | nil => exact .inl ⟨rfl, rfl⟩
  | @cons x y _ _ first _ ih =>
    rw [List.find?_cons, List.find?_cons, same x y first]
    cases f x with
    | true => exact .inr ⟨x, y, rfl, rfl, first⟩
    | false => exact ih

theorem getElem?_of_forall₂ (alike : List.Forall₂ R xs ys) (i : Nat) :
    xs[i]? = none ∧ ys[i]? = none ∨ ∃ x y, xs[i]? = some x ∧ ys[i]? = some y ∧ R x y := by
  induction alike generalizing i with
  | nil => exact .inl ⟨rfl, rfl⟩
  | @cons x y _ _ first _ ih =>
    cases i with
    | zero => exact .inr ⟨x, y, rfl, rfl, first⟩
    | succ i => exact ih i

theorem modify_of_forall₂ {f : α → α} {g : β → β} (alike : List.Forall₂ R xs ys)
    (both : ∀ x y, R x y → R (f x) (g y)) (i : Nat) :
    List.Forall₂ R (xs.modify i f) (ys.modify i g) := by
  induction alike generalizing i with
  | nil => simp
  | cons first rest ih =>
    cases i with
    | zero => exact .cons (both _ _ first) rest
    | succ i => exact .cons first (ih i)

theorem map_of_forall₂ {f : α → γ} {g : β → γ} (alike : List.Forall₂ R xs ys)
    (same : ∀ x y, R x y → g y = f x) : ys.map g = xs.map f := by
  induction alike with
  | nil => rfl
  | cons first _ ih => rw [List.map_cons, List.map_cons, same _ _ first, ih]

theorem foldl_of_forall₂ {f : γ → α → γ} {g : γ → β → γ} (alike : List.Forall₂ R xs ys)
    (same : ∀ c x y, R x y → g c y = f c x) (c : γ) : ys.foldl g c = xs.foldl f c := by
  induction alike generalizing c with
  | nil => rfl
  | cons first _ ih => rw [List.foldl_cons, List.foldl_cons, same _ _ _ first, ih]

end

namespace Registry.AddsQuits

variable {r q : Registry} (adds : r.AddsQuits q)

include adds

theorem left : r.AddsQuits r := ⟨forall₂_left adds.slots fun _ _ own => own.left, rfl, rfl⟩

theorem indexOf (name : String) : q.indexOf name = r.indexOf name := by
  rw [Registry.indexOf, adds.byName, Registry.indexOf]

theorem indexOfType (type : String) : q.indexOfType type = r.indexOfType type :=
  findIdx?_of_forall₂ adds.slots fun s t own => by rw [own.plugin.type]

theorem slotAt (index : Nat) :
    r.slots[index]? = none ∧ q.slots[index]? = none ∨
      ∃ s t, r.slots[index]? = some s ∧ q.slots[index]? = some t ∧ s.AddsQuits t :=
  getElem?_of_forall₂ adds.slots index

theorem length : q.slots.length = r.slots.length := adds.slots.length_eq.symm

theorem resolve (name : String) : q.resolve name = r.resolve name := by
  rw [Registry.resolve, adds.indexOf, Registry.resolve]

theorem nameAt (index : Nat) : q.nameAt index = r.nameAt index := by
  rcases adds.slotAt index with ⟨none_, other⟩ | ⟨s, t, found, other, own⟩
  · simp only [Registry.nameAt, none_, other]
  · simp only [Registry.nameAt, found, other, Option.map_some, own.plugin.name]

theorem typeAt (index : Nat) : q.typeAt index = r.typeAt index := by
  rcases adds.slotAt index with ⟨none_, other⟩ | ⟨s, t, found, other, own⟩
  · simp only [Registry.typeAt, none_, other]
  · simp only [Registry.typeAt, found, other, Option.map_some, own.plugin.type]

theorem locateAll (plugin : String) (needed : List Dependency) :
    q.locateAll plugin needed = r.locateAll plugin needed := by
  have located : ∀ d, q.locate d = r.locate d := by
    intro d
    cases d with
    | typed type => exact adds.indexOfType type
    | named name => exact adds.indexOf name
  induction needed with
  | nil => rfl
  | cons d rest ih => rw [Registry.locateAll, located, ih, Registry.locateAll]

theorem dependencies {h k : Host} (agree : h.Agree k) (index : Nat) :
    q.dependencies k index = r.dependencies h index := by
  rcases adds.slotAt index with ⟨none_, other⟩ | ⟨s, t, found, other, own⟩
  · simp only [Registry.dependencies, none_, other]
  · simp only [Registry.dependencies, found, other, adds.locateAll, own.plugin.name,
      own.plugin.requires h k agree]

theorem declareOptions (schema : Schema) : q.declareOptions schema = r.declareOptions schema := by
  unfold Registry.declareOptions
  dsimp only
  rw [foldl_of_forall₂ adds.slots fun c s t own => by rw [own.plugin.name, own.plugin.options]]

theorem setState (index : Nat) (state : PluginState) :
    (r.setState index state).AddsQuits (q.setState index state) := by
  refine ⟨modify_of_forall₂ adds.slots (fun s t own => ?_) index, adds.byName, adds.issued⟩
  exact ⟨own.serial, own.plugin, rfl⟩

theorem push {p p' : Plugin} (plugin : p.AddsQuits p') : (r.push p).AddsQuits (q.push p') := by
  refine ⟨List.rel_append adds.slots (.cons ⟨adds.issued, plugin, rfl⟩ .nil), ?_,
    congrArg (· + 1) adds.issued⟩
  simp only [Registry.push, adds.byName, adds.length, plugin.name]

end Registry.AddsQuits

namespace Registry

/-- Alike plugins on hosts that agree. -/
def Placed (s t : Registry × Host) : Prop := s.1.AddsQuits t.1 ∧ s.2.Agree t.2

/-- Registering answers alike and enrols alike plugins. -/
def EnrolsAlike (f g : Registry × Host → Bool × Registry × Host) : Prop :=
  ∀ s t, Placed s t → (g t).1 = (f s).1 ∧ Placed (f s).2 (g t).2

variable {first second : String → Registry × Host → Bool × Registry × Host}
  (same : ∀ type, EnrolsAlike (first type) (second type))

include same in
theorem registerDependencies_alike (needed : List Dependency) {s t : Registry × Host}
    (placed : Placed s t) :
    Placed (registerDependencies first needed s) (registerDependencies second needed t) := by
  induction needed generalizing s t with
  | nil => exact placed
  | cons d rest ih =>
    cases d with
    | named name => exact ih placed
    | typed type =>
      obtain ⟨answer, after⟩ := same type s t placed
      unfold registerDependencies
      generalize first type s = x at answer after ⊢
      generalize second type t = y at answer after ⊢
      obtain ⟨enrolled, r, h⟩ := x
      obtain ⟨_, q, k⟩ := y
      cases answer
      cases enrolled with
      | true => exact ih ⟨after.1, after.2.tell _ _ _ _⟩
      | false => exact ih after

include same in
theorem registerWith_alike {p q : Plugin} (adds : p.AddsQuits q) :
    EnrolsAlike (registerWith first p) (registerWith second q) := by
  rintro ⟨r, h⟩ ⟨r', k⟩ ⟨registries, agree⟩
  unfold registerWith
  dsimp only at registries ⊢
  rw [adds.requires h k agree, adds.type, adds.name, registries.indexOf]
  cases r.indexOf p.name with
  | none =>
    exact ⟨rfl, registerDependencies_alike same _ ⟨registries.push adds, agree.tell _ _ _ _⟩⟩
  | some index =>
    dsimp only
    rw [registries.typeAt]
    split
    · exact ⟨rfl, registries, agree⟩
    · exact ⟨rfl, registries, agree.tell _ _ _ _⟩

variable {catalogue other : Catalogue} (types : catalogue.AddsQuits other)

include types

theorem registerTypeWithin_alike (depth : Nat) (type : String) :
    EnrolsAlike (registerTypeWithin catalogue depth type) (registerTypeWithin other depth type) := by
  induction depth generalizing type with
  | zero => exact fun s t placed => ⟨rfl, placed⟩
  | succ depth ih =>
    rintro ⟨r, h⟩ ⟨r', k⟩ ⟨registries, agree⟩
    have named : ∀ t u : PluginType, t.AddsQuits u →
        decide (u.name = type) = decide (t.name = type) := fun t u own => by rw [own.name]
    unfold registerTypeWithin Catalogue.find?
    rw [registries.indexOfType]
    split
    · exact ⟨rfl, registries, agree⟩
    · rcases find?_of_forall₂ types named with ⟨none_, absent⟩ | ⟨t, u, found, present, own⟩
      · rw [none_, absent]
        exact ⟨rfl, registries, agree⟩
      · rw [found, present]
        have plugin : (t.create h).1.AddsQuits (u.create k).1 := by
          rw [← own.steady h k agree]
          exact own.plugin k
        exact registerWith_alike ih plugin _ _ ⟨registries, own.host h k agree⟩

theorem registerType_alike (type : String) :
    EnrolsAlike (registerType catalogue type) (registerType other type) := by
  unfold registerType
  rw [← types.length_eq]
  exact registerTypeWithin_alike types _ type

end Registry

end PluginHost
