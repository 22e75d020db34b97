import PluginHost.Plugin.Lifecycle
import PluginHost.Proofs.BringUp.Plugins

set_option autoImplicit false

namespace PluginHost

open Act (Matches)

structure Lifecycle.AddsQuits (l m : Lifecycle) : Prop where
  registry : l.registry.AddsQuits m.registry
  initialized : m.initialized = l.initialized
  running : m.running = l.running

structure Ensemble.AddsQuits (e f : Ensemble) : Prop where
  lifecycle : e.lifecycle.AddsQuits f.lifecycle
  host : e.host.Agree f.host
  calls : f.calls = e.calls

namespace Lifecycle.AddsQuits

variable {l m : Lifecycle} (adds : l.AddsQuits m)

include adds

theorem left : l.AddsQuits l := ⟨adds.registry.left, rfl, rfl⟩

theorem stateAt (index : Nat) : m.stateAt index = l.stateAt index := by
  rcases adds.registry.slotAt index with ⟨none_, other⟩ | ⟨s, t, found, other, own⟩
  · simp only [Lifecycle.stateAt, none_, other]
  · simp only [Lifecycle.stateAt, found, other, Option.map_some, own.state]

theorem isPending (index : Nat) : m.isPending index = l.isPending index := by
  rw [Lifecycle.isPending, adds.stateAt, adds.initialized, Lifecycle.isPending]

theorem setState (index : Nat) (state : PluginState) :
    (l.setState index state).AddsQuits (m.setState index state) :=
  ⟨adds.registry.setState index state, adds.initialized, adds.running⟩

theorem initializedNames : m.initializedNames = l.initializedNames := by
  unfold Lifecycle.initializedNames
  rw [adds.initialized]
  exact List.map_congr_left fun index _ => adds.registry.nameAt index

theorem runningNames : m.runningNames = l.runningNames := by
  unfold Lifecycle.runningNames
  rw [adds.running]
  exact List.map_congr_left fun index _ => adds.registry.nameAt index

end Lifecycle.AddsQuits

namespace Ensemble

theorem AddsQuits.left {e f : Ensemble} (adds : e.AddsQuits f) : e.AddsQuits e :=
  ⟨adds.lifecycle.left, .refl _, rfl⟩

theorem AddsQuits.depth {e f : Ensemble} (adds : e.AddsQuits f) : f.depth = e.depth :=
  congrArg (· + 1) adds.lifecycle.registry.length

variable {depth : Nat}

theorem onHost_matches {α : Type} {first second : Act Host α}
    (same : Matches Host.Agree first second) :
    Matches AddsQuits (onHost first) (onHost second) :=
  same.within (fun _ _ adds => adds.host) fun _ _ _ _ adds agree => ⟨adds.lifecycle, agree, adds.calls⟩

theorem tell_matches (origin : Origin) (level : Level) (message : String)
    (fields : List (String × FieldValue)) :
    Matches AddsQuits (tell origin level message fields) (tell origin level message fields) :=
  onHost_matches (.modify fun _ _ agree => agree.tell origin level message fields)

theorem record_matches (call : Call) : Matches AddsQuits (record call) (record call) :=
  .modify fun _ _ adds => ⟨adds.lifecycle, adds.host, congrArg (· ++ [call]) adds.calls⟩

theorem changeLifecycle_matches {f g : Lifecycle → Lifecycle}
    (both : ∀ l m : Lifecycle, l.AddsQuits m → (f l).AddsQuits (g m)) :
    Matches AddsQuits (changeLifecycle f) (changeLifecycle g) :=
  .modify fun _ _ adds => ⟨both _ _ adds.lifecycle, adds.host, adds.calls⟩

/-- A call is made and recorded alike. -/
theorem invoke_matches {s t : Slot} (own : s.AddsQuits t) (hook : Hook) {code other : Code}
    (adds : code.AddsQuits other) :
    Matches AddsQuits (invoke (Code.unseeing depth) s hook code)
      (invoke (Code.runWithin depth) t hook other) := by
  unfold invoke
  rw [own.serial, own.plugin.name]
  refine (record_matches _).bind fun _ => ?_
  refine (onHost_matches ((Code.runWithin_matches depth adds).guarded _)).bind fun result => ?_
  exact (record_matches _).bind fun _ => .pure result

theorem onRegistry_matches {α : Type} {f g : Registry × Host → α × Registry × Host}
    (both : ∀ s t, Registry.Placed s t → (g t).1 = (f s).1 ∧ Registry.Placed (f s).2 (g t).2) :
    Matches AddsQuits (onRegistry f) (onRegistry g) := by
  apply Matches.step
  intro e e' adds
  obtain ⟨same, registries, agree⟩ :=
    both (e.lifecycle.registry, e.host) (e'.lifecycle.registry, e'.host)
      ⟨adds.lifecycle.registry, adds.host⟩
  exact ⟨same, ⟨registries, adds.lifecycle.initialized, adds.lifecycle.running⟩, agree, adds.calls⟩

theorem setUpDependencies_matches {first second : Nat → Act Ensemble (Except Failure Unit)}
    (same : ∀ index, Matches AddsQuits (first index) (second index)) (index : Nat)
    (needed : List Nat) :
    Matches AddsQuits (setUpDependencies first index needed)
      (setUpDependencies second index needed) := by
  induction needed with
  | nil => exact .pure _
  | cons dependency rest ih =>
    refine .look fun e f adds => ?_
    rw [adds.lifecycle.isPending, adds.lifecycle.registry.nameAt, adds.lifecycle.registry.nameAt]
    split
    · exact .pure _
    · refine (same dependency).bind fun result => ?_
      cases result with
      | ok _ => exact ih
      | error e => exact .pure _

theorem callSetUp_matches (options : Options) {s t : Slot} (own : s.AddsQuits t) (index : Nat) :
    Matches AddsQuits (callSetUp (Code.unseeing depth) options s index)
      (callSetUp (Code.runWithin depth) options t index) := by
  unfold callSetUp
  rw [own.plugin.name]
  refine (tell_matches _ _ _ _).bind fun _ => ?_
  refine (invoke_matches own .setUp (own.plugin.setUp options)).bind fun result => ?_
  cases result with
  | error e => exact (tell_matches _ _ _ _).bind fun _ => .pure _
  | ok _ =>
    refine (changeLifecycle_matches fun l m adds => ?_).bind fun _ => .pure _
    exact ⟨adds.registry, congrArg (· ++ [index]) adds.initialized, adds.running⟩

theorem setUpAt_matches (options : Options) (limit index : Nat) :
    Matches AddsQuits (setUpAt (Code.unseeing depth) options limit index)
      (setUpAt (Code.runWithin depth) options limit index) := by
  induction limit generalizing index with
  | zero => exact .stall _
  | succ limit ih =>
    refine .look fun e f adds => ?_
    rcases adds.lifecycle.registry.slotAt index with ⟨none_, other⟩ | ⟨s, t, found, other, own⟩
    · rw [none_, other]
      exact .pure _
    · rw [found, other]
      dsimp only
      rw [own.state]
      split
      · refine (changeLifecycle_matches fun l m adds => adds.setState index _).bind fun _ => ?_
        refine .look fun e f adds => ?_
        rw [adds.lifecycle.registry.dependencies adds.host]
        split
        · exact .pure _
        · refine (setUpDependencies_matches ih index _).bind fun result => ?_
          cases result with
          | error e => exact .pure _
          | ok _ => exact callSetUp_matches options own index
      · exact .pure _

theorem setUp_matches (name : String) (options : Options) :
    Matches AddsQuits (setUp (Code.unseeing depth) name options)
      (setUp (Code.runWithin depth) name options) := by
  refine .get fun e f adds => ?_
  rw [adds.lifecycle.registry.resolve, adds.depth]
  split
  · exact .pure _
  · exact setUpAt_matches options _ _

theorem forEach_matches {first second : Nat → Act Ensemble (Except Failure Unit)}
    (same : ∀ index, Matches AddsQuits (first index) (second index)) (indices : List Nat) :
    Matches AddsQuits (forEach first indices) (forEach second indices) := by
  induction indices with
  | nil => exact .pure _
  | cons index rest ih =>
    refine (same index).bind fun result => ?_
    cases result with
    | ok _ => exact ih
    | error e => exact .pure _

theorem callStart_matches {s t : Slot} (own : s.AddsQuits t) (index : Nat) :
    Matches AddsQuits (callStart (Code.unseeing depth) s index)
      (callStart (Code.runWithin depth) t index) := by
  unfold callStart
  rw [own.plugin.name]
  refine (changeLifecycle_matches fun l m adds => ?_).bind fun _ => ?_
  · exact ⟨adds.registry, adds.initialized, congrArg (· ++ [index]) adds.running⟩
  · refine (tell_matches _ _ _ _).bind fun _ => ?_
    refine (invoke_matches own .start own.plugin.start).bind fun result => ?_
    cases result with
    | error e => exact (tell_matches _ _ _ _).bind fun _ => .pure _
    | ok _ => exact .pure _

theorem startAt_matches (limit index : Nat) :
    Matches AddsQuits (startAt (Code.unseeing depth) limit index)
      (startAt (Code.runWithin depth) limit index) := by
  induction limit generalizing index with
  | zero => exact .stall _
  | succ limit ih =>
    refine .look fun e f adds => ?_
    rcases adds.lifecycle.registry.slotAt index with ⟨none_, other⟩ | ⟨s, t, found, other, own⟩
    · rw [none_, other]
      exact .pure _
    · rw [found, other]
      dsimp only
      rw [own.state]
      split
      · refine (changeLifecycle_matches fun l m adds => adds.setState index _).bind fun _ => ?_
        refine .look fun e f adds => ?_
        rw [adds.lifecycle.registry.dependencies adds.host]
        split
        · exact .pure _
        · refine (forEach_matches ih _).bind fun result => ?_
          cases result with
          | error e => exact .pure _
          | ok _ => exact callStart_matches own index
      · exact .pure _

/-- Plugins start alike, whoever of them asks to quit in between. -/
theorem start_matches :
    Matches AddsQuits (start (Code.unseeing depth)) (start (Code.runWithin depth)) := by
  refine .get fun e f adds => ?_
  rw [adds.depth, adds.lifecycle.initialized]
  exact forEach_matches (startAt_matches _) _

end Ensemble

end PluginHost
