import PluginHost.Plugin.Registry
import Mathlib.Data.List.Nodup

set_option autoImplicit false

namespace PluginHost

/-- A declaration in the name of whoever makes it. -/
def Declaration.ownedBy (d : Declaration) (owner : Option String) : OptionSpec :=
  ⟨d.name, d.description, d.default, owner⟩

def OptionSpec.repetition (spec : OptionSpec) : RepeatedDeclaration := ⟨spec.name, spec.owner⟩

def Slot.declared (slot : Slot) : List OptionSpec :=
  slot.plugin.options.map fun d => d.ownedBy (some slot.plugin.name)

/-- Everything that plugins declare, in the order of their registration. -/
def Registry.declared (r : Registry) : List OptionSpec := r.slots.flatMap Slot.declared

def firstNamed (name : String) (declared : List OptionSpec) : Option OptionSpec :=
  declared.find? fun spec => spec.name = name

/-- Declarations fall into those that count and those that came too late: of each name the first
one counts, and both lists keep the order. -/
structure Resolves (declared specs late : List OptionSpec) : Prop where
  once : (specs.map OptionSpec.name).Nodup
  first : ∀ name, firstNamed name specs = firstNamed name declared
  kept : specs.Sublist declared
  rest : late.Sublist declared
  whole : (specs ++ late).Perm declared

namespace Resolves

variable {declared specs late : List OptionSpec} {spec : OptionSpec}

theorem nil : Resolves [] [] [] where
  once := List.nodup_nil
  first _ := rfl
  kept := List.nil_sublist _
  rest := List.nil_sublist _
  whole := .refl _

/-- A declaration of a new name counts. -/
theorem keep (resolves : Resolves declared specs late) (free : ∀ s ∈ specs, s.name ≠ spec.name) :
    Resolves (declared ++ [spec]) (specs ++ [spec]) late where
  once := by
    rw [List.map_append, List.nodup_append]
    refine ⟨resolves.once, List.nodup_singleton _, fun name taken own new => ?_⟩
    obtain ⟨s, member, rfl⟩ := List.mem_map.1 taken
    rw [List.map_singleton, List.mem_singleton] at new
    rintro rfl
    exact free s member new
  first name := by
    have before := resolves.first name
    simp only [firstNamed, List.find?_append] at before ⊢
    rw [before]
  kept := resolves.kept.append (List.Sublist.refl _)
  rest := resolves.rest.trans (List.sublist_append_left _ _)
  whole := by
    have moved : ((specs ++ [spec]) ++ late).Perm (specs ++ late ++ [spec]) := by
      rw [List.append_assoc, List.append_assoc]
      exact List.perm_append_comm.append_left specs
    exact moved.trans (resolves.whole.append_right _)

/-- A declaration of a name that is taken comes too late. -/
theorem skip (resolves : Resolves declared specs late) (taken : ∃ s ∈ specs, s.name = spec.name) :
    Resolves (declared ++ [spec]) specs (late ++ [spec]) where
  once := resolves.once
  first name := by
    have before := resolves.first name
    simp only [firstNamed, List.find?_append] at before ⊢
    rw [← before]
    -- a name that counts is found before the new declaration is looked at
    by_cases own : spec.name = name
    · have found : (specs.find? fun s => s.name = name).isSome := by
        obtain ⟨s, member, same⟩ := taken
        exact List.find?_isSome.2 ⟨s, member, by simp [same, own]⟩
      rw [Option.or_of_isSome found]
    · rw [List.find?_singleton, if_neg (by simpa using own), Option.or_none]
  kept := resolves.kept.trans (List.sublist_append_left _ _)
  rest := resolves.rest.append (List.Sublist.refl _)
  whole := by
    rw [← List.append_assoc]
    exact resolves.whole.append_right _

/-- Going on from declarations that are resolved comes to a schema that resolves the new ones too,
and what comes too late among them is reported. -/
def Continues (declared late new specs : List OptionSpec) (repeated : List RepeatedDeclaration) :
    Prop :=
  ∃ more, Resolves (declared ++ new) specs (late ++ more) ∧
    repeated = more.map OptionSpec.repetition

theorem continues_nil (resolves : Resolves declared specs late) :
    Continues declared late [] specs [] :=
  ⟨[], by rwa [List.append_nil, List.append_nil], rfl⟩

end Resolves

namespace Schema

variable {declared late : List OptionSpec} {s : Schema}

open Resolves (Continues)

theorem declare_continues (resolves : Resolves declared s.specs late) (d : Declaration) :
    (s.declare d).1.owner = s.owner ∧
      Continues declared late [d.ownedBy s.owner] (s.declare d).1.specs
        (s.declare d).2.toList := by
  rw [declare]
  by_cases taken : s.specs.any (fun spec => spec.name = d.name)
  · rw [if_pos taken]
    have there : ∃ spec ∈ s.specs, spec.name = (d.ownedBy s.owner).name := by
      obtain ⟨spec, member, same⟩ := List.any_eq_true.1 taken
      exact ⟨spec, member, of_decide_eq_true same⟩
    exact ⟨rfl, [d.ownedBy s.owner], resolves.skip there, rfl⟩
  · rw [if_neg taken]
    have free : ∀ spec ∈ s.specs, spec.name ≠ (d.ownedBy s.owner).name := by
      intro spec member same
      exact taken (List.any_eq_true.2 ⟨spec, member, decide_eq_true same⟩)
    exact ⟨rfl, [], by rw [List.append_nil]; exact resolves.keep free, rfl⟩

theorem declareAll_continues (resolves : Resolves declared s.specs late)
    (options : List Declaration) :
    Continues declared late (options.map fun d => d.ownedBy s.owner)
      (s.declareAll options).1.specs (s.declareAll options).2 := by
  induction options generalizing s declared late with
  | nil => exact resolves.continues_nil
  | cons d rest ih =>
    obtain ⟨owner, more, first, reported⟩ := declare_continues resolves d
    obtain ⟨others, last, reportedLast⟩ := ih first
    rw [owner] at last
    refine ⟨more ++ others, ?_, ?_⟩
    · rw [List.append_assoc, List.append_assoc] at last
      exact last
    · rw [declareAll, List.map_append, ← reported, ← reportedLast]

end Schema

namespace Registry

open Resolves (Continues)

/-- What the plugin of a slot adds to a schema and to the reports. -/
def collect (s : Schema × List RepeatedDeclaration) (slot : Slot) :
    Schema × List RepeatedDeclaration :=
  let added := (s.1.setOwner (some slot.plugin.name)).declareAll slot.plugin.options
  (added.1, s.2 ++ added.2)

theorem collect_continues {declared late : List OptionSpec} {slots : List Slot} {schema : Schema}
    (resolves : Resolves declared schema.specs late) (reports : List RepeatedDeclaration) :
    ∃ repeated, (slots.foldl collect (schema, reports)).2 = reports ++ repeated ∧
      Continues declared late (slots.flatMap Slot.declared)
        (slots.foldl collect (schema, reports)).1.specs repeated := by
  induction slots generalizing schema declared late reports with
  | nil => exact ⟨[], (List.append_nil _).symm, resolves.continues_nil⟩
  | cons slot rest ih =>
    obtain ⟨more, own, reported⟩ := Schema.declareAll_continues
      (s := schema.setOwner (some slot.plugin.name)) resolves slot.plugin.options
    obtain ⟨repeated, added, others, last, reportedLast⟩ := ih own (reports ++ _)
    refine ⟨_ ++ repeated, added.trans (List.append_assoc _ _ _), more ++ others, ?_, ?_⟩
    · rw [List.append_assoc, List.append_assoc] at last
      exact last
    · rw [List.map_append, ← reported, ← reportedLast]

/-- What plugins declare is resolved in the order of their registration, each declaration in the
name of the plugin that makes it. -/
theorem declareOptions_resolves (r : Registry) :
    ∃ late, Resolves r.declared (r.declareOptions .empty).1.specs late ∧
      (r.declareOptions .empty).2 = late.map OptionSpec.repetition := by
  have none_ : Resolves [] Schema.empty.specs [] := .nil
  obtain ⟨repeated, added, late, resolves, reported⟩ := collect_continues none_ []
  exact ⟨late, resolves, added.trans reported⟩

end Registry

namespace Schema

variable {s : Schema}

theorem applyDefault_value? (o : Options) (spec : OptionSpec) (key : String) :
    (applyDefault o spec).value? key =
      (o.value? key).or (if spec.name = key then spec.default else none) := by
  rw [applyDefault]
  cases own : spec.default with
  | none => simp
  | some value =>
    by_cases here : spec.name = key
    · subst here
      cases explicit : o.value? spec.name with
      | none => simp [Options.contains, explicit]
      | some given => simp [Options.contains, explicit]
    · by_cases given : o.contains spec.name
      · simp [given, here]
      · simp [given, here]

/-- A key that is set keeps its value, null included; any other one takes the default of the option
of that name, if it has one. -/
theorem applyDefaults_value? (once : (s.specs.map OptionSpec.name).Nodup) (o : Options)
    (key : String) :
    (s.applyDefaults o).value? key =
      (o.value? key).or ((firstNamed key s.specs).bind OptionSpec.default) := by
  rw [applyDefaults]
  generalize s.specs = specs at once ⊢
  induction specs generalizing o with
  | nil => simp [firstNamed]
  | cons spec rest ih =>
    rw [List.map_cons, List.nodup_cons] at once
    rw [List.foldl_cons, ih _ once.2, applyDefault_value?, Option.or_assoc]
    congr 1
    by_cases here : spec.name = key
    · -- nobody else has this name, so the options that follow say nothing about it
      have nobody : firstNamed key rest = none := by
        refine List.find?_eq_none.2 fun other member same => once.1 ?_
        rw [here, ← of_decide_eq_true same]
        exact List.mem_map_of_mem member
      rw [nobody]
      simp [firstNamed, here]
    · simp [firstNamed, here]

end Schema

end PluginHost
