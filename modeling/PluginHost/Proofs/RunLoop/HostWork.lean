import PluginHost.Proofs.Along
import PluginHost.Proofs.Executor.Work
import PluginHost.Proofs.RunLoop.Parties

set_option autoImplicit false

namespace PluginHost

open Act (Leads Keeps)

/-- What one party makes of what is shared, where it wakes the loop at once after each change. -/
inductive Common.Worked (c : Common) : Common → Prop
  | refl : Worked c c
  | change {d after : Common} (change : Change) (worked : Worked c d)
      (made : change.make? d = some after) : Worked c after.rouse
  | rouse {d : Common} (worked : Worked c d) : Worked c d.rouse
  | deed {d : Common} (deed : Deed) (worked : Worked c d) : Worked c (deed.make d)

theorem Common.Worked.trans {c d after : Common} (worked : c.Worked d) (more : d.Worked after) :
    c.Worked after := by
  induction more with
  | refl => exact worked
  | change change _ made ih => exact ih.change change made
  | rouse _ ih => exact ih.rouse
  | deed deed _ ih => exact ih.deed deed

namespace RunLoop

variable {Party : Type}

def Happening.Of (party : Party) : Happening Party → Prop
  | .changes p _ | .wakes p | .does p _ => p = party
  | .moves _ => False

/-- What a party makes of what is shared it makes in steps, and the loop stands where it stood. -/
theorem reaches_of_worked {c d : Common} (worked : c.Worked d) (party : Party) (stage : Stage)
    {owes : Party → Prop} (free : ¬ owes party) :
    Reaches (Happening.Of party) ⟨c, stage, owes⟩ ⟨d, stage, owes⟩ := by
  have paid : (fun p => p ≠ party ∧ (p = party ∨ owes p)) = owes := by
    funext p
    by_cases same : p = party
    · simp only [same, ne_eq, not_true_eq_false, false_and, free]
    · simp only [same, ne_eq, not_false_eq_true, true_and, false_or]
  have unowed : (fun p => p ≠ party ∧ owes p) = owes := by
    funext p
    by_cases same : p = party
    · simp only [same, ne_eq, not_true_eq_false, false_and, free]
    · simp only [same, ne_eq, not_false_eq_true, true_and]
  induction worked with
  | refl => exact .refl _
  | change change _ made ih =>
    have woken := (ih.step (.changes free made) rfl).step (Step.wakes : Step _ (.wakes party) _) rfl
    rwa [paid] at woken
  | rouse _ ih =>
    have woken := ih.step (Step.wakes : Step _ (.wakes party) _) rfl
    rwa [unowed] at woken
  | deed deed _ ih => exact ih.step (.does free) rfl

end RunLoop

namespace Host

variable {α β : Type}

/-- A step on the host that is the work of a party. -/
def Works (act : Act Host α) : Prop := ∀ c : Common, Keeps (fun h => c.Worked h.common) act

namespace Works

theorem pure (a : α) : Works (Pure.pure a) := fun _ => .pure a

theorem look (f : Host → α) : Works (Act.look f) := fun _ => .look f

theorem stall : Works (Act.stall : Act Host α) := fun _ => .stall

theorem step {f : Host → α × Host} (worked : ∀ h : Host, h.common.Worked (f h).2.common) :
    Works (Act.step f) := fun _ => .step fun h given => Common.Worked.trans given (worked h)

theorem modify {f : Host → Host} (worked : ∀ h : Host, h.common.Worked (f h).common) :
    Works (Act.modify f) := fun _ => .modify fun h given => Common.Worked.trans given (worked h)

theorem andThen {first : Act Host α} {next : α → Act Host β} (works : Works first)
    (rest : ∀ a, Works (next a)) : Works (first >>= next) :=
  fun c => (works c).andThen fun a => rest a c

end Works

theorem worked_post (h : Host) (priority : Int) (queue : Nat) (body : Code) :
    h.common.Worked (h.post priority queue body).2.common := by
  unfold post
  cases posted : h.executor.post? priority queue body with
  | none => exact .refl
  | some executor =>
    have made : (Change.post priority queue body).make? h.common =
        some { h.common with executor := executor } := by
      simp only [Change.make?, common, posted, Option.map_some]
    exact .change _ .refl made

theorem worked_quit (h : Host) : h.common.Worked h.quit.common := by
  have quits := Common.Worked.change .quit (.refl (c := h.common)) rfl
  unfold quit
  split <;> exact quits

theorem worked_requestReload (h : Host) : h.common.Worked h.requestReload.common :=
  .change .requestReload .refl rfl

theorem common_clear (h : Host) : h.clear.common = Deed.clear.make h.common := by
  unfold clear
  dsimp only
  split <;> rfl

theorem worked_clear (h : Host) : h.common.Worked h.clear.common := by
  rw [common_clear]
  exact .deed .clear .refl

theorem worked_invoke (h : Host) (key : String) :
    h.common.Worked (h.invoke key).2.common := by
  unfold invoke
  cases h.keptPosts.find? key with
  | none => exact .refl
  | some p =>
    exact worked_post { h with keptPosts := h.keptPosts.filter fun k => k.1 ≠ key } p.priority
      p.queue p.body

theorem worked_subscribe (h : Host) (channel : Nat) (subscriber : Json → Code) :
    h.common.Worked (h.subscribe channel subscriber).2.common := by
  unfold subscribe
  split <;> exact .refl

theorem worked_provide (h : Host) (method : Nat) (priority : Int) (provider : Json → Code) :
    h.common.Worked (h.provide method priority provider).2.common := by
  unfold provide
  split <;> exact .refl

theorem worked_spawn (h : Host) (job : Job Code) : h.common.Worked (h.spawn job).2.common := by
  unfold spawn
  split <;> exact .refl

/-- Requests that are not about the loop leave alone what is shared with it. -/
theorem worked_answer (request : Request) (h : Host) :
    h.common.Worked (answer request h).2.common := by
  cases request with
  | addQueue => exact .deed .addQueue .refl
  | setPolicy policy => exact .deed (.setPolicy policy) .refl
  | clear => exact worked_clear h
  | quit => exact worked_quit h
  | requestReload => exact worked_requestReload h
  | takeReload => exact .deed .takeReload .refl
  | wake => exact .rouse .refl
  | channel kind =>
    simp only [answer, Host.channel]
    split <;> exact .refl
  | unsubscribe channel subscription =>
    simp only [answer, Host.unsubscribe]
    split <;> exact .refl
  | method name =>
    simp only [answer, Host.method]
    split <;> exact .refl
  | shared kind start =>
    simp only [answer, Host.sharedCell]
    split <;> exact .refl
  | _ => exact .refl

/-- What is shared with the loop becomes of it by the work of a party, whatever code runs. -/
theorem upheld_worked : Upheld fun h last => h.common.Worked last.common where
  refl _ := .refl
  trans := .trans
  journal _ _ := .refl
  answer := worked_answer
  post priority queue body h := h.worked_post priority queue body
  keep _ _ _ := .refl
  invoke key h := h.worked_invoke key
  subscribe channel subscriber h := h.worked_subscribe channel subscriber
  provide method priority provider h := h.worked_provide method priority provider
  spawn job h := h.worked_spawn job
  listen _ := .refl
  begins := by
    intro h begun hint rest began
    have taken := Executor.take?_of_begin began
    have deed := Common.Worked.deed (.take begun.queue) (.refl (c := h.common))
    simp only [Deed.make, Host.common, taken] at deed
    exact deed

theorem works_iff_along {act : Act Host α} :
    Works act ↔ Along (fun h last => h.common.Worked last.common) act := by
  constructor
  · exact fun works first => works first.common
  · exact fun along c h given ended => given.trans (along h h .refl ended)

end Host

/-- All code that is dispatched is the work of a party. -/
def Dispatch.Works (dispatch : Dispatch) : Prop := ∀ code, Host.Works (dispatch code)

variable {dispatch : Dispatch}

namespace Host

theorem runTask_works (works : dispatch.Works) (task : Task Code) (hint : Bool) :
    Works (runTask dispatch task hint) :=
  works_iff_along.2 (upheld_worked.runTask (fun code => works_iff_along.1 (works code)) task hint)

theorem common_foldl_note (notes : List String) (h : Host) :
    (notes.foldl note h).common = h.common := by
  obtain ⟨journal, noted⟩ := foldl_note notes h
  rw [noted]
  rfl

/-- What an attempt to run a task comes to: the policy panics, or there is none to run, or one is
taken out of its queue and run. -/
theorem execute_cases (dispatch : Dispatch) (h : Host) :
    (∃ payload, (execute dispatch h).1 = .unwound payload ∧
      (execute dispatch h).2.common = h.common) ∨
    ∃ selection, (h.executor.policy.select h.executor.views).selection = .ok selection ∧
      ((∀ task rest hint, h.executor.follow selection ≠ .task task rest hint) ∧
          (execute dispatch h).1 = .returned (.ok selection.more) ∧
          (execute dispatch h).2.common = h.common ∨
        ∃ task rest hint k, h.executor.follow selection = .task task rest hint ∧
          k.common = { h.common with executor := rest } ∧
          execute dispatch h = runTask dispatch task hint k) := by
  generalize noted : (h.executor.policy.select h.executor.views).notes.foldl note h = k
  have same : k.common = h.common := by
    rw [← noted]
    exact common_foldl_note _ h
  have executor : k.executor = h.executor := congrArg Common.executor same
  cases selected : (h.executor.policy.select h.executor.views).selection with
  | error payload =>
    refine .inl ⟨payload, ?_⟩
    simp only [execute, selected, noted, same, and_self]
  | ok selection =>
    refine .inr ⟨selection, rfl, ?_⟩
    cases followed : h.executor.follow selection with
    | idle more =>
      refine .inl ⟨fun _ _ _ => nofun, ?_, ?_⟩
      · simp only [execute, selected, noted, executor, followed,
          Executor.more_of_follow (.inl followed)]
      · simp only [execute, selected, noted, executor, followed, same]
    | nothing queue more =>
      refine .inl ⟨fun _ _ _ => nofun, ?_, ?_⟩
      · simp only [execute, selected, noted, executor, followed,
          Executor.more_of_follow (.inr ⟨queue, followed⟩)]
      · simp only [execute, selected, noted, executor, followed]
        exact same
    | task task rest hint =>
      refine .inr ⟨task, rest, hint, { k with executor := rest }, rfl, ?_, ?_⟩
      · exact congrArg (fun c => { c with executor := rest }) same
      · simp only [execute, selected, noted, executor, followed]

end Host

/-- To whatever depth calls of other code are nested, code is the work of a party. -/
theorem Code.runWithin_works (depth : Nat) : Dispatch.Works (runWithin depth) :=
  fun code => Host.works_iff_along.2 (Host.upheld_worked.runWithin depth code)

end PluginHost
