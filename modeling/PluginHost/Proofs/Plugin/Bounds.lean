import PluginHost.Proofs.Plugin.Ascent
import PluginHost.Proofs.Plugin.Launching

/-!
How far setting up and starting go. A plugin leaves the waiting ones before what it needs is
visited, so it is looked up once at most, and each step down leaves one fewer that waits. Nothing is
asked of what plugins need: it may be missing, come twice, lead back, or change on the way.
-/

set_option autoImplicit false

namespace PluginHost

namespace Ensemble

open Lifecycle

/-- What is noted on a way that goes less deep than a bound: it is never cut short, and each plugin
is looked up once at most, when it leaves the waiting ones. -/
structure Thrifty (waits : PluginState) (bound : Nat) (before after : Lifecycle)
    (notes : List Note) : Prop where
  uncut : .cut ∉ notes
  shallow : ∀ depth index, .reached depth index ∈ notes → depth < bound
  once : (Note.resolutions notes).Nodup
  waited : ∀ i ∈ Note.resolutions notes, before.stateAt i = some waits
  left : ∀ i ∈ Note.resolutions notes, after.stateAt i ≠ some waits
  fewer : ∀ i, after.stateAt i = some waits → before.stateAt i = some waits

namespace Thrifty

variable {waits : PluginState} {bound : Nat} {before middle after : Lifecycle}
  {notes later : List Note}

theorem nil (waits : PluginState) (bound : Nat) (l : Lifecycle) : Thrifty waits bound l l [] where
  uncut := by simp
  shallow := by simp
  once := .nil
  waited := by simp [Note.resolutions]
  left := by simp [Note.resolutions]
  fewer _ still := still

theorem reached {depth : Nat} (index : Nat) (inside : depth < bound) (l : Lifecycle) :
    Thrifty waits bound l l [.reached depth index] where
  uncut := by simp
  shallow := by
    intro d i member
    cases List.mem_singleton.1 member
    exact inside
  once := .nil
  waited := by simp [Note.resolutions, Note.resolved?]
  left := by simp [Note.resolutions, Note.resolved?]
  fewer _ still := still

/-- A plugin is moved on and looked up. -/
theorem resolved {index : Nat} {next : PluginState} (was : before.stateAt index = some waits)
    (other : next ≠ waits) (bound : Nat) :
    Thrifty waits bound before (before.setState index next) [.resolved index] where
  uncut := by simp
  shallow := by simp
  once := List.nodup_singleton index
  waited := by
    intro i member
    rwa [List.mem_singleton.1 member]
  left := by
    intro i member
    rw [List.mem_singleton.1 member, stateAt_setState, if_pos rfl, was]
    exact fun same => other (Option.some.inj same)
  fewer := by
    intro i still
    exact mem_inState.1 (inState_setState_subset before index other (mem_inState.2 still))

theorem trans (first : Thrifty waits bound before middle notes)
    (second : Thrifty waits bound middle after later) :
    Thrifty waits bound before after (notes ++ later) where
  uncut member := (List.mem_append.1 member).elim first.uncut second.uncut
  shallow depth index member :=
    (List.mem_append.1 member).elim (first.shallow depth index) (second.shallow depth index)
  once := by
    rw [Note.resolutions, List.filterMap_append, List.nodup_append]
    refine ⟨first.once, second.once, fun i member j later_ same => ?_⟩
    subst same
    exact first.left i member (second.waited i later_)
  waited := by
    intro i member
    rw [Note.resolutions, List.filterMap_append, List.mem_append] at member
    exact member.elim (first.waited i) fun later_ => first.fewer i (second.waited i later_)
  left := by
    intro i member
    rw [Note.resolutions, List.filterMap_append, List.mem_append] at member
    exact member.elim (fun early still => first.left i early (second.fewer i still))
      (second.left i)
  fewer i still := first.fewer i (second.fewer i still)

/-- What comes after the last note leaves plugins in their states. -/
theorem congr (thrifty : Thrifty waits bound before after notes) {l : Lifecycle}
    (same : ∀ i, l.stateAt i = after.stateAt i) : Thrifty waits bound before l notes :=
  { thrifty with
    left := fun i member => same i ▸ thrifty.left i member
    fewer := fun i still => thrifty.fewer i (same i ▸ still) }

theorem card_le (thrifty : Thrifty waits bound before after notes) :
    (after.inState waits).card ≤ (before.inState waits).card :=
  Finset.card_le_card fun i member => mem_inState.2 (thrifty.fewer i (mem_inState.1 member))

end Thrifty

namespace Ascent

/-- Plugins leave the state in which they wait, and calls leave them all in their states. -/
structure Proper (a : Ascent) : Prop where
  other : a.next ≠ a.waits
  keeps : ∀ slot index e i, (a.call slot index e).2.lifecycle.stateAt i = e.lifecycle.stateAt i

variable {a : Ascent}

/-- A step that goes less deep than a bound, if it has fuel for the plugins that wait. -/
def Goes (a : Ascent) (fuel bound : Nat) {α : Type} (act : Act Noted α) : Prop :=
  ∀ s : Noted, (s.1.lifecycle.inState a.waits).card < fuel →
    ∃ notes, (act s).2.2 = s.2 ++ notes ∧
      Thrifty a.waits bound s.1.lifecycle (act s).2.1.lifecycle notes

namespace Goes

variable {α β : Type} {fuel bound : Nat}

theorem pure (x : α) : a.Goes fuel bound (Pure.pure x) :=
  fun _ _ => ⟨[], (List.append_nil _).symm, .nil _ _ _⟩

theorem look (f : Ensemble → α) : a.Goes fuel bound (unnoted (Act.look f)) :=
  fun _ _ => ⟨[], (List.append_nil _).symm, .nil _ _ _⟩

theorem reached {depth : Nat} (inside : depth < bound) (index : Nat) :
    a.Goes fuel bound (note (.reached depth index)) :=
  fun _ _ => ⟨_, rfl, .reached index inside _⟩

theorem call (proper : a.Proper) (slot : Slot) (index : Nat) :
    a.Goes fuel bound (unnoted (a.call slot index)) := fun s _ =>
  ⟨[], (List.append_nil _).symm, (Thrifty.nil _ _ _).congr (proper.keeps slot index s.1)⟩

/-- Fewer wait after a step than before, so there is fuel for the next one as well. -/
theorem bind {act : Act Noted α} {next : α → Act Noted β} (first : a.Goes fuel bound act)
    (rest : ∀ x, a.Goes fuel bound (next x)) : a.Goes fuel bound (act >>= next) := by
  intro s enough
  obtain ⟨notes, noted, thrifty⟩ := first s enough
  rw [Act.bind_apply]
  generalize act s = ended at noted thrifty ⊢
  obtain ⟨flow, t⟩ := ended
  cases flow with
  | returned x =>
    obtain ⟨later, notedLater, thriftyLater⟩ :=
      rest x t (Nat.lt_of_le_of_lt thrifty.card_le enough)
    refine ⟨notes ++ later, ?_, thrifty.trans thriftyLater⟩
    rw [notedLater, noted, List.append_assoc]
  | unwound _ | stalled => exact ⟨notes, noted, thrifty⟩

end Goes

theorem needs_goes {fuel bound : Nat} {visit : Nat → Act Noted (Except Failure Unit)}
    (goes : ∀ index, a.Goes fuel bound (visit index)) (owner : Nat) (indices : List Nat) :
    a.Goes fuel bound (a.needs visit owner indices) := by
  induction indices with
  | nil => exact .pure _
  | cons index rest ih =>
    refine .bind (.look _) fun l => ?_
    cases a.refuses l owner index with
    | some failure => exact .pure _
    | none =>
      refine .bind (goes index) fun result => ?_
      cases result with
      | error failure => exact .pure _
      | ok _ => exact ih

/-- A plugin that waits is moved on before it is looked up, and after that there is fuel enough for
those that still wait. -/
theorem goes_of_mark (proper : a.Proper) {fuel bound index : Nat}
    {next : Except Failure (List Nat) → Act Noted (Except Failure Unit)}
    (rest : ∀ needed, a.Goes fuel bound (next needed)) {s : Noted}
    (was : s.1.lifecycle.stateAt index = some a.waits)
    (enough : (s.1.lifecycle.inState a.waits).card < fuel + 1) :
    let act := unnoted (changeLifecycle fun l => l.setState index a.next) >>= fun _ =>
      resolve index >>= next
    ∃ notes, (act s).2.2 = s.2 ++ notes ∧
      Thrifty a.waits bound s.1.lifecycle (act s).2.1.lifecycle notes := by
  intro act
  have moved := Thrifty.resolved was proper.other bound
  have fewer : ((s.1.lifecycle.setState index a.next).inState a.waits).card < fuel :=
    Nat.lt_of_lt_of_le (card_inState_setState_lt was proper.other) (Nat.le_of_lt_succ enough)
  let marked : Noted := ({ s.1 with lifecycle := s.1.lifecycle.setState index a.next },
    s.2 ++ [.resolved index])
  obtain ⟨notes, noted, thrifty⟩ :=
    rest (marked.1.lifecycle.registry.dependencies marked.1.host index) marked fewer
  refine ⟨.resolved index :: notes, ?_, moved.trans thrifty⟩
  rw [List.append_cons]
  exact noted

theorem visit_goes (proper : a.Proper) (fuel depth index : Nat) :
    a.Goes fuel (depth + fuel) (a.visit fuel depth index) := by
  induction fuel generalizing depth index with
  | zero =>
    intro s enough
    omega
  | succ fuel ih =>
    have deeper : ∀ i, a.Goes fuel (depth + (fuel + 1)) (a.visit fuel (depth + 1) i) := by
      intro i
      rw [← Nat.add_assoc, Nat.add_right_comm]
      exact ih (depth + 1) i
    refine .bind (.reached (by omega) index) fun _ s enough => ?_
    rw [Act.bind_of_returned (a := s.1.lifecycle.registry.slots[index]?) rfl]
    cases found : s.1.lifecycle.registry.slots[index]? with
    | none => exact Goes.pure _ s enough
    | some slot =>
      by_cases waits : slot.state = a.waits
      · simp only [waits, if_true]
        refine goes_of_mark proper (fun needed => ?_) (waits ▸ stateAt_of_slot found) enough
        cases needed with
        | error failure => exact .pure _
        | ok needed =>
          refine .bind (needs_goes deeper index needed) fun result => ?_
          cases result with
          | error failure => exact .pure _
          | ok _ => exact .call proper slot index
      · simp only [waits, if_false]
        exact Goes.pure _ s enough

end Ascent

section Whole

variable {dispatch : Dispatch}

/-- A call leaves the lifecycle alone, however it ends. -/
theorem announced_lifecycle (m : Manner) (dispatch : Dispatch) (slot : Slot) (e : Ensemble) :
    (announced m dispatch slot e).2.lifecycle = e.lifecycle := by
  rw [announced, Act.bind_of_returned (a := ()) rfl]
  simp only [invoke, tell, record, onHost, Act.bind_apply, Act.within, Act.modify_apply]
  generalize Act.guarded _ _ _ = ran
  obtain ⟨answer | payload | _, h⟩ := ran
  · cases answer <;> rfl
  · rfl
  · rfl

theorem settingUp_proper (dispatch : Dispatch) (options : Options) :
    (Ascent.settingUp dispatch options).Proper where
  other := by simp [Ascent.settingUp]
  keeps slot index e i := by
    have same := announced_lifecycle (.settingUp options) dispatch slot e
    show (callSetUp dispatch options slot index e).2.lifecycle.stateAt i = _
    rw [callSetUp_eq, Act.bind_apply]
    generalize announced (.settingUp options) dispatch slot e = ended at same ⊢
    obtain ⟨answer | payload | _, after⟩ := ended
    · cases answer <;> exact congrArg (·.stateAt i) same
    · exact congrArg (·.stateAt i) same
    · exact congrArg (·.stateAt i) same

theorem starting_proper (dispatch : Dispatch) : (Ascent.starting dispatch).Proper where
  other := by simp [Ascent.starting]
  keeps slot index e i := by
    show (callStart dispatch slot index e).2.lifecycle.stateAt i = _
    rw [callStart_eq, Act.bind_of_returned (a := ()) rfl, announced_lifecycle]
    rfl

/-- A step and the same one with notes. It goes on for ever only in the call of a plugin of the
registry, after calls that were answered, and the notes are those of a way that goes no deeper than
there are plugins and one more. -/
structure Bounded (waits : PluginState) (m : Manner) (dispatch : Dispatch)
    (act : Act Ensemble (Except Failure Unit)) (noted : Act Noted (Except Failure Unit))
    (e : Ensemble) : Prop where
  ends : (act e).1 = .stalled → ∃ replies, Endless dispatch m e replies (act e).2
  notes : ∃ notes, noted (e, []) = ((act e).1, (act e).2, notes) ∧
    Thrifty waits (e.lifecycle.registry.slots.length + 2) e.lifecycle (act e).2.lifecycle notes

/-- What the way with notes keeps to, the way without them does. -/
theorem notes_of_goes {waits : PluginState} {act : Act Ensemble (Except Failure Unit)}
    {noted : Act Noted (Except Failure Unit)} {e : Ensemble} (alike : Act.Alike SameBut act noted)
    (goes : ∃ notes, (noted (e, [])).2.2 = [] ++ notes ∧
      Thrifty waits (1 + e.depth) e.lifecycle (noted (e, [])).2.1.lifecycle notes) :
    ∃ notes, noted (e, []) = ((act e).1, (act e).2, notes) ∧
      Thrifty waits (e.lifecycle.registry.slots.length + 2) e.lifecycle (act e).2.lifecycle
        notes := by
  obtain ⟨same, kept⟩ := alike e (e, []) rfl
  obtain ⟨notes, noted_, thrifty⟩ := goes
  have after : (noted (e, [])).2.1 = (act e).2 := kept
  rw [after, depth, Nat.add_comm] at thrifty
  refine ⟨notes, ?_, thrifty⟩
  rw [List.nil_append] at noted_
  rw [← same, ← after, ← noted_]

theorem enough_fuel (e : Ensemble) (state : PluginState) :
    (e.lifecycle.inState state).card < e.depth :=
  Nat.lt_succ_of_le (e.lifecycle.card_inState_le state)

/-- Setting up looks up each plugin once at most, goes no deeper than there are plugins and one more,
and ends unless the call of a plugin does not. -/
theorem setUp_bounded (dispatch : Dispatch) (name : String) (options : Options) (e : Ensemble) :
    Bounded .registered (.settingUp options) dispatch (setUp dispatch name options)
      (setUpNoted dispatch name options) e where
  ends stalled := by
    rcases setUp_called dispatch name options e with ⟨_, endless⟩ | ⟨_, _, returned, _⟩
    · exact endless
    · rw [returned] at stalled
      cases stalled
  notes := by
    refine notes_of_goes (setUp_alike dispatch name options) ?_
    rw [setUpNoted, Act.bind_of_returned (a := e) rfl]
    cases e.lifecycle.registry.resolve name with
    | error failure => exact ⟨[], rfl, .nil _ _ _⟩
    | ok index =>
      exact Ascent.visit_goes (settingUp_proper dispatch options) e.depth 1 index (e, [])
        (enough_fuel e _)

/-- Starting looks up each plugin once at most, goes no deeper than there are plugins and one more,
and ends unless the call of a plugin does not. -/
theorem start_bounded (dispatch : Dispatch) (e : Ensemble) :
    Bounded .initialized .starting dispatch (start dispatch) (startNoted dispatch) e where
  ends stalled := by
    rcases start_launches dispatch e with ⟨_, endless⟩ | ⟨_, _, returned, _⟩
    · exact endless
    · rw [returned] at stalled
      cases stalled
  notes := notes_of_goes (start_alike dispatch)
    (Ascent.needs_goes (Ascent.visit_goes (starting_proper dispatch) e.depth 1) 0
      e.lifecycle.initialized (e, []) (enough_fuel e _))

end Whole

end Ensemble

end PluginHost
