import PluginHost.Proofs.Alike
import PluginHost.Proofs.Plugin.Initializing

/-!
Setting up and starting with notes. Both go the same way: a plugin that waits is moved to its next
state, what it needs is looked up and visited in turn, and then it is called. Here this way is gone
with a note of each plugin that is reached, how deep, and of each whose dependencies are looked up.
Without the notes it is the way that setting up and starting go, so what the notes tell is told of
these: no plugin is looked up twice, and the way never goes too deep.
-/

set_option autoImplicit false

namespace PluginHost

namespace Ensemble

inductive Note where
  /-- The way comes to a plugin, as the first, the second or a later one below each other. -/
  | reached (depth index : Nat)
  /-- The dependencies of a plugin are looked up. -/
  | resolved (index : Nat)
  /-- The way is not followed any deeper. -/
  | cut

def Note.resolved? : Note → Option Nat
  | resolved index => some index
  | _ => none

/-- The plugins whose dependencies were looked up, in that order. -/
def Note.resolutions (notes : List Note) : List Nat := notes.filterMap Note.resolved?

/-- Plugins and their host, and what was noted, the oldest first. -/
abbrev Noted := Ensemble × List Note

def note (n : Note) : Act Noted Unit := Act.modify fun s => (s.1, s.2 ++ [n])

def unnoted {α : Type} (act : Act Ensemble α) : Act Noted α :=
  Act.within Prod.fst (fun e s => (e, s.2)) act

/-- How plugins are moved on: which of them, to which state, which dependencies are refused, and how
a plugin is called in the end. -/
structure Ascent where
  waits : PluginState
  next : PluginState
  refuses : Lifecycle → Nat → Nat → Option Failure
  call : Slot → Nat → Act Ensemble (Except Failure Unit)

namespace Ascent

def settingUp (dispatch : Dispatch) (options : Options) : Ascent where
  waits := .registered
  next := .initialized
  refuses l owner dependency :=
    if l.isPending dependency then
      some (.dependencyCycle (l.registry.nameAt owner) (l.registry.nameAt dependency))
    else none
  call := callSetUp dispatch options

def starting (dispatch : Dispatch) : Ascent where
  waits := .initialized
  next := .started
  refuses _ _ _ := none
  call := callStart dispatch

def needs (a : Ascent) (visit : Nat → Act Noted (Except Failure Unit)) (owner : Nat) :
    List Nat → Act Noted (Except Failure Unit)
  | [] => pure (.ok ())
  | dependency :: rest => do
    let l ← unnoted (Act.look Ensemble.lifecycle)
    match a.refuses l owner dependency with
    | some failure => pure (.error failure)
    | none =>
      match ← visit dependency with
      | .ok _ => needs a visit owner rest
      | .error e => pure (.error e)

def resolve (index : Nat) : Act Noted (Except Failure (List Nat)) := do
  note (.resolved index)
  unnoted (Act.look fun e => e.lifecycle.registry.dependencies e.host index)

/-- Moves the plugin at an index on after what it needs. -/
def visit (a : Ascent) : Nat → Nat → Nat → Act Noted (Except Failure Unit)
  | 0, _, _ => do
    note .cut
    Act.stall
  | fuel + 1, depth, index => do
    note (.reached depth index)
    match ← unnoted (Act.look fun e => e.lifecycle.registry.slots[index]?) with
    | none => pure (.ok ())
    | some slot =>
      if slot.state = a.waits then
        unnoted (changeLifecycle fun l => l.setState index a.next)
        match ← resolve index with
        | .error e => pure (.error e)
        | .ok needed =>
          match ← needs a (visit a fuel (depth + 1)) index needed with
          | .error e => pure (.error e)
          | .ok _ => unnoted (a.call slot index)
      else pure (.ok ())

end Ascent

def setUpNoted (dispatch : Dispatch) (name : String) (options : Options) :
    Act Noted (Except Failure Unit) := do
  let e ← unnoted Act.get
  match e.lifecycle.registry.resolve name with
  | .error failure => pure (.error failure)
  | .ok index => (Ascent.settingUp dispatch options).visit e.depth 1 index

def startNoted (dispatch : Dispatch) : Act Noted (Except Failure Unit) := do
  let e ← unnoted Act.get
  (Ascent.starting dispatch).needs ((Ascent.starting dispatch).visit e.depth 1) 0
    e.lifecycle.initialized

/-- The same plugins and host. -/
def SameBut (e : Ensemble) (s : Noted) : Prop := s.1 = e

section Erasure

open Act

variable {α : Type} {dispatch : Dispatch}

theorem alike_unnoted (act : Act Ensemble α) : Alike SameBut act (unnoted act) := by
  rintro e ⟨_, notes⟩ rfl
  exact ⟨rfl, rfl⟩

theorem alike_ite {p : Prop} [Decidable p] {act other : Act Ensemble α} {noted else_ : Act Noted α}
    (both : Alike SameBut act noted) (neither : Alike SameBut other else_) :
    Alike SameBut (if p then act else other) (if p then noted else else_) := by
  split
  · exact both
  · exact neither

theorem alike_note {act : Act Ensemble α} {noted : Act Noted α} (n : Note)
    (alike : Alike SameBut act noted) : Alike SameBut act (note n >>= fun _ => noted) := by
  rintro e ⟨_, notes⟩ rfl
  exact alike _ _ rfl

theorem setUpDependencies_alike {options : Options}
    {setUp : Nat → Act Ensemble (Except Failure Unit)}
    {visit : Nat → Act Noted (Except Failure Unit)}
    (alike : ∀ index, Alike SameBut (setUp index) (visit index)) (owner : Nat)
    (indices : List Nat) :
    Alike SameBut (setUpDependencies setUp owner indices)
      ((Ascent.settingUp dispatch options).needs visit owner indices) := by
  induction indices with
  | nil => exact .pure _
  | cons index rest ih =>
    refine .bind (alike_unnoted _) fun l => ?_
    simp only [Ascent.settingUp]
    by_cases pending : l.isPending index
    · simp only [pending, if_true]
      exact .pure _
    · simp only [pending]
      refine .bind (alike index) fun result => ?_
      cases result with
      | error failure => exact .pure _
      | ok _ => exact ih

/-- One step of the way, given that what is needed is visited alike. -/
theorem visit_alike (a : Ascent) {fuel depth index : Nat}
    {go : List Nat → Act Ensemble (Except Failure Unit)}
    (alike : ∀ needed, Alike SameBut (go needed)
      (a.needs (a.visit fuel (depth + 1)) index needed)) :
    Alike SameBut (do
      match ← look fun e => e.lifecycle.registry.slots[index]? with
      | none => pure (.ok ())
      | some slot =>
        if slot.state = a.waits then
          changeLifecycle fun l => l.setState index a.next
          match ← look fun e => e.lifecycle.registry.dependencies e.host index with
          | .error e => pure (.error e)
          | .ok needed =>
            match ← go needed with
            | .error e => pure (.error e)
            | .ok _ => a.call slot index
        else pure (.ok ())) (a.visit (fuel + 1) depth index) := by
  refine alike_note _ (.bind (alike_unnoted _) fun found => ?_)
  cases found with
  | none => exact .pure _
  | some slot =>
    refine alike_ite (.bind (alike_unnoted _) fun _ =>
      .bind (alike_note _ (alike_unnoted _)) fun needed => ?_) (.pure _)
    cases needed with
    | error failure => exact .pure _
    | ok needed =>
      refine .bind (alike needed) fun result => ?_
      cases result with
      | error failure => exact .pure _
      | ok _ => exact alike_unnoted _

theorem setUpAt_alike (dispatch : Dispatch) (options : Options) (fuel depth index : Nat) :
    Alike SameBut (setUpAt dispatch options fuel index)
      ((Ascent.settingUp dispatch options).visit fuel depth index) := by
  induction fuel generalizing depth index with
  | zero => exact alike_note _ .stall
  | succ fuel ih =>
    exact visit_alike (.settingUp dispatch options) fun needed =>
      setUpDependencies_alike (fun index => ih (depth + 1) index) index needed

theorem forEach_alike {act : Nat → Act Ensemble (Except Failure Unit)}
    {visit : Nat → Act Noted (Except Failure Unit)}
    (alike : ∀ index, Alike SameBut (act index) (visit index)) (owner : Nat) (indices : List Nat) :
    Alike SameBut (forEach act indices) ((Ascent.starting dispatch).needs visit owner indices) := by
  induction indices with
  | nil => exact .pure _
  | cons index rest ih =>
    rintro _ ⟨e, notes⟩ rfl
    refine Alike.bind (alike index) (fun result => ?_) e (e, notes) rfl
    cases result with
    | error failure => exact .pure _
    | ok _ => exact ih

theorem startAt_alike (dispatch : Dispatch) (fuel depth index : Nat) :
    Alike SameBut (startAt dispatch fuel index)
      ((Ascent.starting dispatch).visit fuel depth index) := by
  induction fuel generalizing depth index with
  | zero => exact alike_note _ .stall
  | succ fuel ih =>
    exact visit_alike (.starting dispatch) fun needed =>
      forEach_alike (fun index => ih (depth + 1) index) index needed

theorem setUp_alike (dispatch : Dispatch) (name : String) (options : Options) :
    Alike SameBut (setUp dispatch name options) (setUpNoted dispatch name options) := by
  refine .bind (alike_unnoted _) fun e => ?_
  cases e.lifecycle.registry.resolve name with
  | error failure => exact .pure _
  | ok index => exact setUpAt_alike dispatch options e.depth 1 index

theorem start_alike (dispatch : Dispatch) : Alike SameBut (start dispatch) (startNoted dispatch) :=
  .bind (alike_unnoted _) fun e =>
    forEach_alike (fun index => startAt_alike dispatch e.depth 1 index) 0 e.lifecycle.initialized

end Erasure

end Ensemble

end PluginHost
