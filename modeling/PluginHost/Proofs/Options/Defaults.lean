import PluginHost.Proofs.Json.Parts
import PluginHost.Proofs.Members
import PluginHost.Proofs.Options.Declared

set_option autoImplicit false

namespace PluginHost

namespace Members

variable {α : Type}

/-- Putting something under a key that is not looked for leaves the keys that are. -/
theorem filter_keys_insert {wanted : String → Bool} {key : String} (unwanted : wanted key = false)
    (value : α) (members : Members α) :
    (insert key value members).keys.filter wanted = members.keys.filter wanted := by
  induction members with
  | nil => simp [insert, keys, unwanted]
  | cons m rest ih =>
    simp only [keys] at ih ⊢
    rw [insert]
    split
    · simp [unwanted]
    · split
      next same => simp [← same]
      · simp only [List.map_cons, List.filter_cons, ih]

end Members

namespace Options

theorem contains_iff {o : Options} {key : String} : o.contains key = true ↔ key ∈ o.keys :=
  Members.find?_isSome_iff

end Options

namespace Schema

/-- What can be done to a schema that is being built. -/
inductive Step where
  /-- Says who declares the options that follow. -/
  | setOwner (owner : Option String)
  | declare (d : Declaration)

def after (s : Schema) : Step → Schema
  | .setOwner owner => s.setOwner owner
  | .declare d => (s.declare d).1

def build (steps : List Step) : Schema := steps.foldl after .empty

/-- Of each name one declaration counts, however a schema was built. -/
theorem build_resolves (steps : List Step) :
    ∃ declared late, Resolves declared (build steps).specs late := by
  have from_ : ∀ s : Schema, (∃ declared late, Resolves declared s.specs late) →
      ∃ declared late, Resolves declared (steps.foldl after s).specs late := by
    induction steps with
    | nil => exact fun _ resolves => resolves
    | cons step rest ih =>
      rintro s ⟨declared, late, resolves⟩
      refine ih (s.after step) ?_
      cases step with
      | setOwner owner => exact ⟨declared, late, resolves⟩
      | declare d =>
        obtain ⟨-, more, next, -⟩ := declare_continues resolves d
        exact ⟨_, _, next⟩
  exact from_ .empty ⟨[], [], .nil⟩

variable {s : Schema} {o : Options} {specs : List OptionSpec}

theorem firstNamed_of_mem (once : (specs.map OptionSpec.name).Nodup) {spec : OptionSpec}
    (member : spec ∈ specs) : firstNamed spec.name specs = some spec := by
  induction specs with
  | nil => cases member
  | cons first rest ih =>
    rw [List.map_cons, List.nodup_cons] at once
    obtain rfl | later := List.mem_cons.1 member
    · simp [firstNamed]
    · have other : first.name ≠ spec.name := fun same =>
        once.1 (same ▸ List.mem_map_of_mem later)
      rw [firstNamed, List.find?_cons_of_neg (by simpa using other)]
      exact ih once.2 later

theorem firstNamed_some {name : String} {spec : OptionSpec}
    (found : firstNamed name specs = some spec) : spec ∈ specs ∧ spec.name = name := by
  rw [firstNamed] at found
  have named := List.find?_some found
  exact ⟨List.mem_of_find?_eq_some found, of_decide_eq_true named⟩

/-- What a declared option is after defaults came in. -/
theorem applyDefaults_spec (once : (s.specs.map OptionSpec.name).Nodup) (o : Options)
    {spec : OptionSpec} (member : spec ∈ s.specs) :
    (s.applyDefaults o).value? spec.name = (o.value? spec.name).or spec.default := by
  rw [applyDefaults_value? once, firstNamed_of_mem once member]
  rfl

/-- An option that is set already stays as it is. -/
theorem foldl_applyDefault_of_some {key : String} {value : Json}
    (given : o.value? key = some value) :
    (specs.foldl applyDefault o).value? key = some value := by
  induction specs generalizing o with
  | nil => exact given
  | cons spec rest ih => exact ih (by rw [applyDefault_value?, given, Option.some_or])

/-- Where everything with a default is set there is nothing to fill in. -/
theorem foldl_applyDefault_of_full
    (full : ∀ spec ∈ specs, spec.default.isSome → o.contains spec.name = true) :
    specs.foldl applyDefault o = o := by
  induction specs with
  | nil => rfl
  | cons spec rest ih =>
    have unchanged : applyDefault o spec = o := by
      rw [applyDefault]
      split
      next value own => rw [if_pos (full spec List.mem_cons_self (by rw [own]; rfl))]
      · rfl
    rw [List.foldl_cons, unchanged]
    exact ih fun other member => full other (List.mem_cons_of_mem _ member)

/-- Only names of declared options come in. -/
theorem filter_keys_foldl_applyDefault {wanted : String → Bool} (o : Options)
    (unwanted : ∀ spec ∈ specs, wanted spec.name = false) :
    (specs.foldl applyDefault o).keys.filter wanted = o.keys.filter wanted := by
  induction specs generalizing o with
  | nil => rfl
  | cons spec rest ih =>
    rw [List.foldl_cons, ih _ fun other member => unwanted other (List.mem_cons_of_mem _ member)]
    rw [applyDefault]
    split
    · split
      · rfl
      · exact Members.filter_keys_insert (unwanted spec List.mem_cons_self) _ _
    · rfl

theorem mem_redundantDefaults_iff {name : String} :
    name ∈ s.redundantDefaults o ↔ ∃ spec ∈ s.specs, spec.name = name ∧ isRedundant o spec = true := by
  rw [redundantDefaults, List.mem_map]
  constructor
  · rintro ⟨spec, member, named⟩
    obtain ⟨declared, redundant⟩ := List.mem_filter.1 member
    exact ⟨spec, declared, named, redundant⟩
  · rintro ⟨spec, declared, named, redundant⟩
    exact ⟨spec, List.mem_filter.2 ⟨declared, redundant⟩, named⟩

/-- With one declaration for each name, a name is told of just if its declaration is. -/
theorem contains_redundantDefaults (once : (s.specs.map OptionSpec.name).Nodup) (o : Options)
    {spec : OptionSpec} (member : spec ∈ s.specs) :
    (s.redundantDefaults o).contains spec.name = isRedundant o spec := by
  rw [Bool.eq_iff_iff, List.contains_iff_mem, mem_redundantDefaults_iff]
  constructor
  · rintro ⟨other, declared, named, redundant⟩
    have found := firstNamed_of_mem once declared
    rw [named, firstNamed_of_mem once member, Option.some.injEq] at found
    exact found ▸ redundant
  · exact fun redundant => ⟨spec, member, rfl, redundant⟩

theorem not_declared_of_mem_undeclared {key : String} (member : key ∈ s.undeclared o) :
    ∀ spec ∈ s.specs, spec.name ≠ key := by
  obtain ⟨-, nobody⟩ := List.mem_filter.1 member
  rw [Bool.not_eq_true', List.any_eq_false] at nobody
  exact fun spec declared same => nobody spec declared (decide_eq_true same)

/-- An option is at its default after defaults came in just if it was before, or came in. -/
theorem isRedundant_applyDefaults (once : (s.specs.map OptionSpec.name).Nodup) (o : Options)
    {spec : OptionSpec} (member : spec ∈ s.specs) :
    isRedundant (s.applyDefaults o) spec =
      (isRedundant o spec || (s.applyDefaults o).contains spec.name && !o.contains spec.name) := by
  have filled := applyDefaults_spec once o member
  unfold isRedundant Options.contains
  rw [filled]
  cases given : o.value? spec.name with
  | some value => simp
  | none =>
    cases own : spec.default with
    | some default => simp [Json.same_refl]
    | none => simp

/-- How options with defaults filled in stand to the options themselves. -/
structure FillsIn (s : Schema) (o filled : Options) : Prop where
  explicit : ∀ key value, o.value? key = some value → filled.value? key = some value
  keys : ∀ key, key ∈ filled.keys ↔
    key ∈ o.keys ∨ ∃ spec ∈ s.specs, spec.name = key ∧ spec.default.isSome
  again : s.applyDefaults filled = filled
  undeclared : s.undeclared filled = s.undeclared o
  /-- In the order of their declarations, what was set to its default and what came in. -/
  redundant : s.redundantDefaults filled = (s.specs.map OptionSpec.name).filter fun name =>
    (s.redundantDefaults o).contains name || filled.contains name && !o.contains name
  /-- Nothing is both undeclared and set to its default. -/
  apart : ∀ key, ¬ (key ∈ s.undeclared o ∧ key ∈ s.redundantDefaults o)

/-- Filling in the defaults of any schema that can be built obeys the laws, whatever is set. -/
theorem build_fillsIn (steps : List Step) (o : Options) :
    FillsIn (build steps) o ((build steps).applyDefaults o) := by
  obtain ⟨declared, late, resolves⟩ := build_resolves steps
  have once := resolves.once
  generalize build steps = s at once
  have keys : ∀ key, key ∈ (s.applyDefaults o).keys ↔
      key ∈ o.keys ∨ ∃ spec ∈ s.specs, spec.name = key ∧ spec.default.isSome := by
    intro key
    rw [← Options.contains_iff, ← Options.contains_iff, Options.contains, Options.contains,
      applyDefaults_value? once, Option.isSome_or, Bool.or_eq_true]
    refine or_congr_right ⟨fun came => ?_, ?_⟩
    · obtain ⟨value, came⟩ := Option.isSome_iff_exists.1 came
      obtain ⟨spec, found, own⟩ := Option.bind_eq_some_iff.1 came
      obtain ⟨member, named⟩ := firstNamed_some found
      exact ⟨spec, member, named, by rw [own]; rfl⟩
    · rintro ⟨spec, member, rfl, own⟩
      rwa [firstNamed_of_mem once member, Option.bind_some]
  refine ⟨fun key value given => ?_, keys, ?_, ?_, ?_, ?_⟩
  · rw [applyDefaults_value? once, given, Option.some_or]
  · exact foldl_applyDefault_of_full fun spec member own =>
      Options.contains_iff.2 ((keys spec.name).2 (.inr ⟨spec, member, rfl, own⟩))
  · refine filter_keys_foldl_applyDefault o fun spec member => ?_
    rw [Bool.not_eq_false', List.any_eq_true]
    exact ⟨spec, member, decide_eq_true rfl⟩
  · rw [redundantDefaults, List.filter_map]
    refine congrArg _ (List.filter_congr fun spec member => ?_)
    rw [isRedundant_applyDefaults once o member, Function.comp_apply,
      contains_redundantDefaults once o member]
  · rintro key ⟨unknown, redundant⟩
    obtain ⟨spec, member, named, -⟩ := mem_redundantDefaults_iff.1 redundant
    exact not_declared_of_mem_undeclared unknown spec member named

end Schema

end PluginHost
