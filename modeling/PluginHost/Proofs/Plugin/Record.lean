import PluginHost.Plugin.Lifecycle
import Mathlib.Data.List.Nodup

set_option autoImplicit false

namespace PluginHost

namespace Call

def plugin : Call → Nat
  | .entered plugin _ | .left plugin _ _ => plugin

def hook : Call → Hook
  | .entered _ hook | .left _ hook _ => hook

/-- The plugin that a call begins for, if it is of a hook. -/
def begins (hook : Hook) : Call → Option Nat
  | .entered plugin h => if h = hook then some plugin else none
  | .left _ _ _ => none

end Call

def entries (hook : Hook) (calls : List Call) : List Nat := calls.filterMap (Call.begins hook)

/-- Whenever a call occurs, another one occurred before. -/
def Precedes (first second : Call) (calls : List Call) : Prop :=
  ∀ before after, calls = before ++ second :: after → first ∈ before

/-- Lives one after the other. A life ends with calls to stop, in the reverse order of the calls to
start. -/
inductive Lives : List Call → Prop
  | nil : Lives []
  | snoc {calls up down : List Call} (lives : Lives calls) (rises : ∀ c ∈ up, c.hook ≠ .stop)
      (falls : ∀ c ∈ down, c.hook = .stop)
      (reversed : entries .stop down = (entries .start up).reverse) : Lives (calls ++ (up ++ down))

/-- How plugins are called over the whole life of an application, where some plugins need others. -/
structure Discipline (needs : Nat → Nat → Prop) (calls : List Call) : Prop where
  setUpOnce : (entries .setUp calls).Nodup
  startOnce : (entries .start calls).Nodup
  stopOnce : (entries .stop calls).Nodup
  startAfterSetUp : ∀ p, Precedes (.left p .setUp true) (.entered p .start) calls
  startAfterNeeds : ∀ p d, needs p d → Precedes (.left d .start true) (.entered p .start) calls
  /-- Who began to start is stopped, and nobody else. -/
  stopsStarted : ∀ p, p ∈ entries .stop calls ↔ p ∈ entries .start calls
  lives : Lives calls
  dependentsFirst : ∀ p d, needs p d → p ∈ entries .start calls →
    ∀ before after, calls = before ++ .entered d .stop :: after → ∃ ok, .left p .stop ok ∈ before

variable {hook : Hook} {calls later : List Call} {p : Nat}

theorem mem_entries : p ∈ entries hook calls ↔ .entered p hook ∈ calls := by
  unfold entries
  rw [List.mem_filterMap]
  constructor
  · rintro ⟨c, member, begins⟩
    cases c with
    | entered q h =>
      simp only [Call.begins, Option.ite_none_right_eq_some, Option.some.injEq] at begins
      obtain ⟨rfl, rfl⟩ := begins
      exact member
    | left => cases begins
  · intro member
    exact ⟨_, member, if_pos rfl⟩

@[simp] theorem entries_append (hook : Hook) (calls later : List Call) :
    entries hook (calls ++ later) = entries hook calls ++ entries hook later :=
  List.filterMap_append

theorem entries_of_hook {other : Hook} (only : ∀ c ∈ calls, c.hook = other)
    (differs : other ≠ hook) :
    entries hook calls = [] := by
  rw [List.eq_nil_iff_forall_not_mem]
  intro p member
  exact differs (only _ (mem_entries.1 member)).symm

/-- A call of two records one after the other is in the second one or in the first one. -/
theorem append_split {before after : List Call} {c : Call}
    (split : calls ++ later = before ++ c :: after) :
    (∃ more, before = calls ++ more ∧ later = more ++ c :: after) ∨
      ∃ more, calls = before ++ c :: more ∧ after = more ++ later := by
  rcases List.append_eq_append_iff.1 split with ⟨more, same, rest⟩ | ⟨more, same, rest⟩
  · exact .inl ⟨more, same, rest⟩
  · cases more with
    | nil => exact .inl ⟨[], by rw [same, List.append_nil, List.append_nil], rest.symm⟩
    | cons d more =>
      rw [List.cons_append, List.cons.injEq] at rest
      obtain ⟨rfl, rest⟩ := rest
      exact .inr ⟨more, same, rest⟩

namespace Precedes

variable {first second : Call}

theorem of_not_mem (none : second ∉ calls) : Precedes first second calls := by
  rintro before after rfl
  exact absurd (List.mem_append_cons_self) none

theorem append (precedes : Precedes first second calls) (others : Precedes first second later) :
    Precedes first second (calls ++ later) := by
  intro before after split
  rcases append_split split with ⟨more, rfl, rest⟩ | ⟨more, whole, _⟩
  · exact List.mem_append_right _ (others more after rest)
  · exact precedes before more whole

/-- What is added may count on what was there. -/
theorem extend (precedes : Precedes first second calls)
    (there : second ∈ later → first ∈ calls) : Precedes first second (calls ++ later) := by
  intro before after split
  rcases append_split split with ⟨more, rfl, rest⟩ | ⟨more, whole, _⟩
  · have again : second ∈ later := by
      rw [rest]
      exact List.mem_append_cons_self
    exact List.mem_append_left _ (there again)
  · exact precedes before more whole

end Precedes

theorem Discipline.nil (needs : Nat → Nat → Prop) : Discipline needs [] where
  setUpOnce := List.nodup_nil
  startOnce := List.nodup_nil
  stopOnce := List.nodup_nil
  startAfterSetUp := fun _ => .of_not_mem List.not_mem_nil
  startAfterNeeds := fun _ _ _ => .of_not_mem List.not_mem_nil
  stopsStarted := fun _ => Iff.rfl
  lives := .nil
  dependentsFirst := fun _ _ _ began => absurd began List.not_mem_nil

theorem Lives.append (lives : Lives calls) (others : Lives later) : Lives (calls ++ later) := by
  induction others with
  | nil => rwa [List.append_nil]
  | snoc _ rises falls reversed ih =>
    rw [← List.append_assoc]
    exact .snoc ih rises falls reversed

theorem entries_nodup_append (once : (entries hook calls).Nodup)
    (onceLater : (entries hook later).Nodup)
    (apart : ∀ c ∈ calls, ∀ d ∈ later, c.plugin ≠ d.plugin) :
    (entries hook (calls ++ later)).Nodup := by
  rw [entries_append, List.nodup_append]
  refine ⟨once, onceLater, ?_⟩
  intro p before q after same
  exact apart _ (mem_entries.1 before) _ (mem_entries.1 after) same

/-- Two records without a plugin in common, and without a plugin in one that needs one of the
other. -/
theorem Discipline.append {needs : Nat → Nat → Prop} (discipline : Discipline needs calls)
    (others : Discipline needs later) (apart : ∀ c ∈ calls, ∀ d ∈ later, c.plugin ≠ d.plugin)
    (closed : ∀ p d, needs p d → ∀ c ∈ calls, ∀ c' ∈ later,
      ¬ (c.plugin = p ∧ c'.plugin = d) ∧ ¬ (c.plugin = d ∧ c'.plugin = p)) :
    Discipline needs (calls ++ later) where
  setUpOnce := entries_nodup_append discipline.setUpOnce others.setUpOnce apart
  startOnce := entries_nodup_append discipline.startOnce others.startOnce apart
  stopOnce := entries_nodup_append discipline.stopOnce others.stopOnce apart
  startAfterSetUp := fun p => (discipline.startAfterSetUp p).append (others.startAfterSetUp p)
  startAfterNeeds := fun p d need =>
    (discipline.startAfterNeeds p d need).append (others.startAfterNeeds p d need)
  stopsStarted := by
    intro p
    rw [entries_append, entries_append, List.mem_append, List.mem_append,
      discipline.stopsStarted p, others.stopsStarted p]
  lives := discipline.lives.append others.lives
  dependentsFirst := by
    intro p d need began before after split
    rw [entries_append, List.mem_append] at began
    rcases append_split split with ⟨more, rfl, rest⟩ | ⟨more, same, _⟩
    · have stopped : .entered d .stop ∈ later := by
        rw [rest]
        exact List.mem_append_cons_self
      rcases began with old | new
      · exact absurd ⟨rfl, rfl⟩ (closed p d need _ (mem_entries.1 old) _ stopped).1
      · obtain ⟨ok, ended⟩ := others.dependentsFirst p d need new more after rest
        exact ⟨ok, List.mem_append_right _ ended⟩
    · have stopped : .entered d .stop ∈ calls := by
        rw [same]
        exact List.mem_append_cons_self
      rcases began with old | new
      · exact discipline.dependentsFirst p d need old before more same
      · exact absurd ⟨rfl, rfl⟩ (closed p d need _ stopped _ (mem_entries.1 new)).2

end PluginHost
