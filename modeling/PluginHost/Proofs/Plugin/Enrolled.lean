import PluginHost.Proofs.Plugin.Enrolment
import PluginHost.Proofs.Plugin.Registration
import Mathlib.Data.List.Induction

set_option autoImplicit false

namespace PluginHost

namespace Registry

variable {catalogue : Catalogue}

/-- What may be done with a registry. -/
inductive Operation where
  | registerType (type : String)
  | register (plugin : Plugin)
  | clear

namespace Operation

def perform (catalogue : Catalogue) : Operation → Registry × Host → Registry
  | registerType type, s => (Registry.registerType catalogue type s).2.1
  | register plugin, s => (Registry.register catalogue plugin s).2.1
  | clear, s => s.1.clear

/-- All types that an operation brings up are in the catalogue. -/
def Within (catalogue : Catalogue) : Operation → Prop
  | registerType type => (catalogue.find? type).isSome
  | register plugin => plugin.AsksWithin catalogue
  | clear => True

end Operation

def performAll (catalogue : Catalogue) (history : List (Operation × Host)) : Registry :=
  history.foldl (fun r step => step.1.perform catalogue (r, step.2)) {}

theorem performAll_append (past later : List (Operation × Host)) :
    performAll catalogue (past ++ later) =
      later.foldl (fun r step => step.1.perform catalogue (r, step.2))
        (performAll catalogue past) :=
  List.foldl_append

/-- Who joins and who is refused in a registration. -/
inductive Enrols (catalogue : Catalogue) :
    Operation → Registry × Host → List Enrolment → Registry → Prop
  | type {type : String} {s t : Registry × Host} {es : List Enrolment}
      (brings : Brings catalogue [.typed type] s es t) :
      Enrols catalogue (.registerType type) s es t.1
  | refused {plugin : Plugin} {index : Nat} {r : Registry} {h : Host}
      (taken : r.indexOf plugin.name = some index) :
      Enrols catalogue (.register plugin) (r, h) [.refused plugin] r
  | joined {plugin : Plugin} {r : Registry} {h : Host} {t : Registry × Host}
      {es : List Enrolment} (free : r.indexOf plugin.name = none)
      (along : Brings catalogue (plugin.requires h) (r.push plugin, h.enrolling plugin) es t) :
      Enrols catalogue (.register plugin) (r, h) (.joined plugin (plugin.requires h) :: es) t.1

/-- A history, the registry after it, and who joined or was refused since the registry was last
cleared. -/
inductive Recorded (catalogue : Catalogue) :
    List (Operation × Host) → Registry → List Enrolment → Prop
  | start : Recorded catalogue [] {} []
  | enrols {past : List (Operation × Host)} {r s : Registry} {h : Host} {operation : Operation}
      {book es : List Enrolment} (before : Recorded catalogue past r book)
      (now : Enrols catalogue operation (r, h) es s) :
      Recorded catalogue (past ++ [(operation, h)]) s (book ++ es)
  | cleared {past : List (Operation × Host)} {r : Registry} {h : Host} {book : List Enrolment}
      (before : Recorded catalogue past r book) :
      Recorded catalogue (past ++ [(.clear, h)]) r.clear []

theorem missing_lt_depth (r : Registry) : missing catalogue r < catalogue.length + 1 :=
  Nat.lt_succ_of_le List.countP_le_length

theorem perform_registerType_enrols (whole : catalogue.Whole) {type : String}
    (listed : (catalogue.find? type).isSome) (r : Registry) (h : Host) :
    ∃ es, Enrols catalogue (.registerType type) (r, h) es
      ((Operation.registerType type).perform catalogue (r, h)) := by
  have only : ∀ wanted, .typed wanted ∈ [Dependency.typed type] →
      (catalogue.find? wanted).isSome := by
    intro wanted asked
    cases asked with
    | head => exact listed
    | tail _ asked => cases asked
  obtain ⟨es, brings⟩ := registerDependencies_brings whole h (missing_lt_depth r) only
  have same : (registerDependencies (registerTypeWithin catalogue (catalogue.length + 1))
      [.typed type] (r, h)).1 = (Operation.registerType type).perform catalogue (r, h) := by
    rw [registerDependencies_typed, registerDependencies, Operation.perform, registerType]
    split <;> rfl
  exact ⟨es, same ▸ .type brings⟩

theorem perform_register_enrols (whole : catalogue.Whole) {plugin : Plugin}
    (asks : plugin.AsksWithin catalogue) (r : Registry) (h : Host) :
    ∃ es, Enrols catalogue (.register plugin) (r, h) es
      ((Operation.register plugin).perform catalogue (r, h)) := by
  rw [Operation.perform, Registry.register]
  cases taken : r.indexOf plugin.name with
  | some index =>
    rw [registerWith_of_taken taken]
    exact ⟨_, .refused taken⟩
  | none =>
    rw [registerWith_of_free taken]
    obtain ⟨es, along⟩ := registerDependencies_brings whole (h.enrolling plugin)
      (missing_lt_depth (r.push plugin)) (asks h)
    exact ⟨_, .joined taken along⟩

theorem Enrols.slots_isPrefix {operation : Operation} {s : Registry × Host} {t : Registry}
    {es : List Enrolment} (enrols : Enrols catalogue operation s es t) :
    s.1.slots <+: t.slots := by
  cases enrols with
  | type brings => exact brings.slots_isPrefix
  | refused _ => exact List.prefix_refl _
  | joined _ along => exact (slots_isPrefix_push _ _).trans along.slots_isPrefix

/-- Where a registry and the record of who joined it agree. -/
structure Sound (catalogue : Catalogue) (r : Registry) (book : List Enrolment) : Prop where
  indexed : r.Indexed
  enrolled : r.plugins = book.filterMap Enrolment.joined?
  settled : AllSettled catalogue r book book

theorem Sound.clear (r : Registry) : Sound catalogue r.clear [] where
  indexed := .clear r
  enrolled := rfl
  settled := by
    intro plugin needs member
    cases member

/-- A registration settles what its own plugins need and takes nothing back. -/
theorem Enrols.settled (whole : catalogue.Whole) {operation : Operation} {s : Registry × Host}
    {t : Registry} {es : List Enrolment} (indexed : s.1.Indexed)
    (enrols : Enrols catalogue operation s es t) : AllSettled catalogue t es es := by
  cases enrols with
  | type brings => exact (brings.settled whole indexed).2
  | refused _ =>
    intro plugin needs member
    cases member with
    | tail _ member => cases member
  | joined free along =>
    obtain ⟨own, others⟩ := along.settled whole (indexed.push free)
    intro plugin needs member type asked
    cases member with
    | head => exact (own type asked).later (List.prefix_refl _) (List.subset_cons_self _ _)
    | tail _ member =>
      exact (others plugin needs member type asked).later (List.prefix_refl _)
        (List.subset_cons_self _ _)

theorem Enrols.sound (whole : catalogue.Whole) {operation : Operation} {r t : Registry} {h : Host}
    {book es : List Enrolment} (sound : Sound catalogue r book)
    (enrols : Enrols catalogue operation (r, h) es t) : Sound catalogue t (book ++ es) where
  indexed := by
    cases enrols with
    | type brings => exact brings.indexed sound.indexed
    | refused _ => exact sound.indexed
    | joined free along => exact along.indexed (sound.indexed.push free)
  enrolled := by
    rw [List.filterMap_append, ← sound.enrolled]
    cases enrols with
    | type brings => exact brings.plugins
    | refused _ => simp [Enrolment.joined?]
    | joined free along =>
      rw [along.plugins, plugins_push]
      simp [Enrolment.joined?]
  settled := by
    intro plugin needs member type asked
    obtain earlier | new := List.mem_append.1 member
    · exact (sound.settled plugin needs earlier type asked).later enrols.slots_isPrefix
        (List.subset_append_left _ _)
    · exact (enrols.settled whole sound.indexed plugin needs new type asked).later (List.prefix_refl _)
        (List.subset_append_right _ _)

theorem Recorded.sound (whole : catalogue.Whole) {history : List (Operation × Host)} {r : Registry}
    {book : List Enrolment} (recorded : Recorded catalogue history r book) :
    Sound catalogue r book := by
  induction recorded with
  | start => exact .clear {}
  | enrols _ now sound => exact now.sound whole sound
  | cleared _ _ => exact .clear _

theorem performAll_recorded (whole : catalogue.Whole) {history : List (Operation × Host)}
    (within : ∀ step ∈ history, step.1.Within catalogue) :
    ∃ book, Recorded catalogue history (performAll catalogue history) book := by
  induction history using List.reverseRecOn with
  | nil => exact ⟨[], .start⟩
  | append_singleton past step ih =>
    obtain ⟨book, before⟩ := ih fun step member => within step (List.mem_append_left _ member)
    have now := within step (by simp)
    obtain ⟨operation, h⟩ := step
    rw [performAll_append]
    simp only [List.foldl_cons, List.foldl_nil]
    cases operation with
    | registerType type =>
      obtain ⟨es, enrols⟩ := perform_registerType_enrols whole now (performAll catalogue past) h
      exact ⟨_, .enrols before enrols⟩
    | register plugin =>
      obtain ⟨es, enrols⟩ := perform_register_enrols whole now (performAll catalogue past) h
      exact ⟨_, .enrols before enrols⟩
    | clear => exact ⟨_, .cleared before⟩

theorem perform_slots_isPrefix (whole : catalogue.Whole) {operation : Operation}
    (within : operation.Within catalogue) (kept : operation ≠ .clear) (r : Registry) (h : Host) :
    r.slots <+: (operation.perform catalogue (r, h)).slots := by
  cases operation with
  | registerType type =>
    obtain ⟨es, enrols⟩ := perform_registerType_enrols whole within r h
    exact enrols.slots_isPrefix
  | register plugin =>
    obtain ⟨es, enrols⟩ := perform_register_enrols whole within r h
    exact enrols.slots_isPrefix
  | clear => exact absurd rfl kept

/-- Slots stay as they are as long as the registry is not cleared. -/
theorem performAll_slots_isPrefix (whole : catalogue.Whole) {past later : List (Operation × Host)}
    (within : ∀ step ∈ later, step.1.Within catalogue) (kept : ∀ step ∈ later, step.1 ≠ .clear) :
    (performAll catalogue past).slots <+: (performAll catalogue (past ++ later)).slots := by
  rw [performAll_append]
  generalize performAll catalogue past = r
  induction later generalizing r with
  | nil => exact List.prefix_refl _
  | cons step rest ih =>
    have first := perform_slots_isPrefix whole (within step List.mem_cons_self)
      (kept step List.mem_cons_self) r step.2
    exact first.trans (ih (fun step member => within step (List.mem_cons_of_mem _ member))
      (fun step member => kept step (List.mem_cons_of_mem _ member)) _)

theorem perform_extends {operation : Operation} (kept : operation ≠ .clear) (r : Registry)
    (h : Host) : r.Extends (operation.perform catalogue (r, h)) := by
  have pushed : ∀ s plugin, r.Extends s → True → s.indexOf plugin.name = none →
      r.Extends (s.push plugin) := fun s plugin longer _ free => longer.trans (.push free)
  cases operation with
  | registerType type =>
    exact registerType_keeps pushed (fun _ _ _ => trivial) type r h (.refl r)
  | register plugin =>
    exact register_keeps pushed (fun _ _ _ => trivial) trivial r h (.refl r)
  | clear => exact absurd rfl kept

/-- Names keep their indices as long as the registry is not cleared. -/
theorem performAll_extends {past later : List (Operation × Host)}
    (kept : ∀ step ∈ later, step.1 ≠ .clear) :
    (performAll catalogue past).Extends (performAll catalogue (past ++ later)) := by
  rw [performAll_append]
  generalize performAll catalogue past = r
  induction later generalizing r with
  | nil => exact .refl r
  | cons step rest ih =>
    have first : r.Extends (step.1.perform catalogue (r, step.2)) :=
      perform_extends (kept step List.mem_cons_self) r step.2
    exact first.trans (ih (fun step member => kept step (List.mem_cons_of_mem _ member)) _)

/-- After any history names are distinct, and the map that grew with the slots gives every name the
index of its own slot, which is where a search would find it. Slots and what met a dependency stay
until the registry is cleared. All that a plugin needed by type when it joined is there, or the name
of that type's fresh plugin is held by a plugin of another type. -/
theorem performAll_coherent (whole : catalogue.Whole) (history : List (Operation × Host))
    (within : ∀ step ∈ history, step.1.Within catalogue) :
    (performAll catalogue history).names.Nodup ∧
    (∀ name index, (performAll catalogue history).byName.find? name = some index ↔
      (performAll catalogue history).names[index]? = some name) ∧
    (∀ name, (performAll catalogue history).byName.find? name =
      (performAll catalogue history).slots.findIdx? fun slot => slot.plugin.name = name) ∧
    (∀ past later, history = past ++ later → (∀ step ∈ later, step.1 ≠ .clear) →
      (performAll catalogue past).slots <+: (performAll catalogue history).slots ∧
      ∀ d index, (performAll catalogue past).locate d = some index →
        (performAll catalogue history).locate d = some index) ∧
    ∃ book, Recorded catalogue history (performAll catalogue history) book ∧
      (performAll catalogue history).plugins = book.filterMap Enrolment.joined? ∧
      ∀ plugin needs, .joined plugin needs ∈ book → ∀ type, .typed type ∈ needs →
        Settled catalogue (performAll catalogue history) book type := by
  obtain ⟨book, recorded⟩ := performAll_recorded whole within
  have sound := recorded.sound whole
  refine ⟨sound.indexed.nodup, sound.indexed, sound.indexed.indexOf_eq_findIdx?, ?_, book, recorded,
    sound.enrolled, sound.settled⟩
  intro past later split kept
  subst split
  have longer :
      (performAll catalogue past).slots <+: (performAll catalogue (past ++ later)).slots :=
    performAll_slots_isPrefix whole
      (fun step member => within step (List.mem_append_right _ member)) kept
  exact ⟨longer, fun d index => locate_of_extends (performAll_extends kept)⟩

/-- A store and its index need each other, and the index needs a log whose name the store has. A
second store joins under a name of its own. -/
theorem performAll_coherent_of_three :
    let store (name : String) : Plugin :=
      { type := "kit::Store", name, requires := fun _ => [.typed "kit::Index"] }
    let index : Plugin :=
      { type := "kit::Index", name := "Index"
        requires := fun _ => [.named "Mill", .typed "kit::Store", .typed "kit::Log"] }
    let catalogue : Catalogue :=
      [⟨"kit::Store", fun h => (store "Store", h)⟩, ⟨"kit::Index", fun h => (index, h)⟩,
        ⟨"kit::Log", fun h => ({ type := "kit::Log", name := "Store" }, h)⟩]
    let history : List (Operation × Host) :=
      [(.register (store "Early"), {}), (.clear, {}), (.registerType "kit::Store", {}),
        (.register (store "Second"), {}), (.registerType "kit::Index", {})]
    (performAll catalogue history).names = ["Store", "Index", "Second"] ∧
      (performAll catalogue history).byName.find? "Second" = some 2 ∧
      ∃ book, Recorded catalogue history (performAll catalogue history) book ∧
        (performAll catalogue history).plugins = book.filterMap Enrolment.joined? ∧
        ∀ plugin needs, .joined plugin needs ∈ book → ∀ type, .typed type ∈ needs →
          Settled catalogue (performAll catalogue history) book type := by
  intro store index catalogue history
  have storeAsks : ∀ name, (store name).AsksWithin catalogue := by
    intro name h type asked
    cases asked with
    | head => decide
    | tail _ asked => cases asked
  have indexAsks : index.AsksWithin catalogue := by
    intro h type asked
    simp only [index, List.mem_cons, Dependency.typed.injEq, reduceCtorEq, false_or,
      List.not_mem_nil, or_false] at asked
    rcases asked with rfl | rfl <;> decide
  have whole : catalogue.Whole := by
    constructor
    · intro t member h
      simp only [catalogue, List.mem_cons, List.not_mem_nil, or_false] at member
      rcases member with rfl | rfl | rfl <;> rfl
    · intro t member h
      simp only [catalogue, List.mem_cons, List.not_mem_nil, or_false] at member
      rcases member with rfl | rfl | rfl
      · exact storeAsks "Store"
      · exact indexAsks
      · intro g type asked
        cases asked
  have within : ∀ step ∈ history, step.1.Within catalogue := by
    intro step member
    simp only [history, List.mem_cons, List.not_mem_nil, or_false] at member
    rcases member with rfl | rfl | rfl | rfl | rfl
    · exact storeAsks "Early"
    · exact trivial
    · exact rfl
    · exact storeAsks "Second"
    · exact rfl
  have names : (performAll catalogue history).names = ["Store", "Index", "Second"] := by
    decide +kernel
  obtain ⟨_, mapped, _, _, settled⟩ := performAll_coherent whole history within
  exact ⟨names, (mapped "Second" 2).2 (by rw [names]; rfl), settled⟩

end Registry

end PluginHost
