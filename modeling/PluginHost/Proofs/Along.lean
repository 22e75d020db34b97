import PluginHost.Code.Run
import PluginHost.Proofs.Executor.Calls
import PluginHost.Proofs.Leads

/-!
Relations between hosts that all code keeps to. Code does some things at once and sets off other
code, so a relation that is upheld by what is done at once, one thing after the other, holds from
where any code begins to where it ends.
-/

set_option autoImplicit false

namespace PluginHost

open Act (Keeps)

namespace Host

/-- A relation of a host to what it becomes is upheld by whatever is done at once. -/
structure Upheld (R : Host → Host → Prop) : Prop where
  refl : ∀ h, R h h
  trans : ∀ {h between last}, R h between → R between last → R h last
  journal : ∀ journal (h : Host), R h { h with journal := journal }
  answer : ∀ request h, R h (answer request h).2
  post : ∀ priority queue body h, R h (h.post priority queue body).2
  keep : ∀ key kept h, R h (h.keep key kept)
  invoke : ∀ key h, R h (h.invoke key).2
  subscribe : ∀ channel subscriber h, R h (h.subscribe channel subscriber).2
  provide : ∀ method priority provider h, R h (h.provide method priority provider).2
  spawn : ∀ job h, R h (h.spawn job).2
  listen : ∀ h, R h h.listen.2
  /-- A task is taken out of its queue, to be run. -/
  begins : ∀ {h : Host} {begun hint rest},
    Executor.Call.begin.make h.executor = (.began begun hint, rest) →
      R h { h with executor := rest }

/-- A step on the host goes along a relation, if it ends. -/
def Along {α : Type} (R : Host → Host → Prop) (act : Act Host α) : Prop :=
  ∀ first : Host, Keeps (R first) act

namespace Along

variable {R : Host → Host → Prop} {α β : Type}

theorem pure (a : α) : Along R (Pure.pure a) := fun _ => .pure a

theorem look (f : Host → α) : Along R (Act.look f) := fun _ => .look f

theorem stall : Along R (Act.stall : Act Host α) := fun _ => .stall

theorem panic (payload : PanicPayload) : Along R (Act.panic payload : Act Host α) :=
  fun _ => .panic payload

theorem guarded {act : Act Host (Except Failure α)} (origin : String) (along : Along R act) :
    Along R (Act.guarded origin act) := fun first => (along first).guarded origin

theorem andThen {first : Act Host α} {next : α → Act Host β} (along : Along R first)
    (rest : ∀ a, Along R (next a)) : Along R (first >>= next) :=
  fun start => (along start).andThen fun a => rest a start

end Along

/-- Notes change the journal alone. -/
theorem foldl_note (notes : List String) (h : Host) :
    ∃ journal, notes.foldl note h = { h with journal := journal } := by
  induction notes generalizing h with
  | nil => exact ⟨h.journal, rfl⟩
  | cons text rest ih => exact ih (h.note text)

/-- An attempt to run a task calls the executor first. If that begins a task, the task is run, and
if not, only the journal changes. -/
theorem execute_begin (h : Host) :
    (∃ begun hint rest journal, Executor.Call.begin.make h.executor = (.began begun hint, rest) ∧
      ∀ dispatch, execute dispatch h =
        runTask dispatch begun.task hint { h with executor := rest, journal := journal }) ∨
    (Executor.Call.begin.make h.executor).1.begun? = none ∧
      ∃ flow journal, ∀ dispatch, execute dispatch h = (flow, { h with journal := journal }) := by
  obtain ⟨journal, noted⟩ := foldl_note (h.executor.policy.select h.executor.views).notes h
  unfold execute
  simp only [noted]
  cases selected : (h.executor.policy.select h.executor.views).selection with
  | error payload =>
    refine .inr ⟨?_, _, journal, fun _ => rfl⟩
    simp only [Executor.Call.make, selected]
    rfl
  | ok selection =>
    obtain ⟨_ | queue, more⟩ := selection
    · refine .inr ⟨?_, _, journal, fun _ => rfl⟩
      simp only [Executor.Call.make, selected, Executor.follow]
      rfl
    · cases taken : h.executor.take? queue with
      | none =>
        simp only [Executor.Call.make, selected, Executor.follow, taken]
        exact .inr ⟨rfl, _, _, fun _ => rfl⟩
      | some pair =>
        obtain ⟨task, rest⟩ := pair
        refine .inl ⟨⟨queue, task⟩, more, rest, journal, ?_, fun dispatch => ?_⟩
        · simp only [Executor.Call.make, selected, Executor.follow, taken]
        · simp only [Executor.follow, taken]

end Host

namespace Host.Upheld

variable {R : Host → Host → Prop} (upheld : Upheld R)

include upheld

variable {α : Type}

theorem step {f : Host → α × Host} (holds : ∀ h, R h (f h).2) : Along R (Act.step f) :=
  fun _ => .step fun h given => upheld.trans given (holds h)

theorem modify {f : Host → Host} (holds : ∀ h, R h (f h)) : Along R (Act.modify f) :=
  fun _ => .modify fun h given => upheld.trans given (holds h)

theorem tell (origin : Origin) (level : Level) (message : String)
    (fields : List (String × FieldValue)) :
    Along R (Act.modify fun h => h.tell origin level message fields) :=
  upheld.modify fun h => upheld.journal _ h

variable {dispatch : Dispatch} (along : ∀ code, Along R (dispatch code))

include along

theorem runTask (task : Task Code) (hint : Bool) : Along R (Host.runTask dispatch task hint) := by
  refine (upheld.modify fun h => upheld.journal _ h).andThen fun _ => ?_
  exact ((along task.body).guarded "task").andThen fun _ => (Along.look _).andThen fun _ => .pure _

theorem execute : Along R (Host.execute dispatch) := by
  intro first h given ended
  rcases h.execute_begin with ⟨begun, hint, rest, journal, began, runs⟩ | ⟨_, _, journal, passes⟩
  · rw [runs] at ended ⊢
    have taken := upheld.trans given (upheld.begins began)
    exact upheld.runTask along begun.task hint first _ (upheld.trans taken (upheld.journal journal _))
      ended
  · rw [passes]
    exact upheld.trans given (upheld.journal journal h)

theorem runSubscribers (channel : String) (codes : List Code) :
    Along R (Host.runSubscribers dispatch channel codes) := by
  induction codes with
  | nil => exact .pure _
  | cons code rest ih =>
    refine (along code).andThen fun result => ?_
    cases result with
    | ok _ => exact ih
    | error _ => exact (upheld.tell _ _ _ _).andThen fun _ => ih.andThen fun _ => .pure _

theorem deliver (channel : Nat) (message : Json) :
    Along R (Host.deliver dispatch channel message) := by
  intro first h given ended
  unfold Host.deliver at ended ⊢
  split at ended
  · exact given
  · exact upheld.runSubscribers along _ _ first _ (upheld.trans given (upheld.journal _ h)) ended

theorem askProviders (method : String) (last : Failure) (codes : List Code) :
    Along R (Host.askProviders dispatch method last codes) := by
  induction codes generalizing last with
  | nil => exact .pure _
  | cons code rest ih =>
    refine (along code).andThen fun result => ?_
    cases result with
    | ok _ => exact .pure _
    | error e => exact (upheld.tell _ _ _ _).andThen fun _ => ih e

theorem call (method : Nat) (argument : Json) : Along R (Host.call dispatch method argument) := by
  intro first h given ended
  unfold Host.call at ended ⊢
  split at ended
  · exact given
  · exact upheld.askProviders along _ _ _ first h given ended

theorem run (code : Code) : Along R (Code.run dispatch code) := by
  induction code with
  | done result => exact .pure _
  | panic payload => exact .panic payload
  | hang => exact .stall
  | ask request next ih => exact (upheld.step (upheld.answer request)).andThen ih
  | post priority queue body next _ ih =>
    exact (upheld.step (upheld.post priority queue body)).andThen ih
  | keep key priority queue body next _ ih =>
    exact (upheld.modify (upheld.keep key _)).andThen fun _ => ih
  | invoke key next ih => exact (upheld.step (upheld.invoke key)).andThen ih
  | subscribe channel subscriber next _ ih =>
    exact (upheld.step (upheld.subscribe channel subscriber)).andThen ih
  | provide method priority provider next _ ih =>
    exact (upheld.step (upheld.provide method priority provider)).andThen ih
  | spawn yields body next _ ih | tick interval watch body next _ ih =>
    exact (upheld.step (upheld.spawn _)).andThen ih
  | listen next ih => exact (upheld.step upheld.listen).andThen ih
  | attempt origin body next ihBody ih => exact (ihBody.guarded origin).andThen ih
  | execute next ih => exact (upheld.execute along).andThen ih
  | deliver channel message next ih => exact (upheld.deliver along channel message).andThen ih
  | call method argument next ih => exact (upheld.call along method argument).andThen ih

omit along

/-- To whatever depth calls of other code are nested, code keeps to what is upheld at once. -/
theorem runWithin (depth : Nat) : ∀ code, Along R (Code.runWithin depth code) := by
  induction depth with
  | zero => exact fun _ => .stall
  | succ depth ih => exact upheld.run ih

end Host.Upheld

end PluginHost
