import PluginHost.Proofs.Application.HookDiscipline
import PluginHost.Proofs.Unbroken
import PluginHost.Proofs.Plugin.Standing

/-!
What becomes of the run loop when code of others panics. Tasks, jobs and calls of plugins are
guarded, so a panic in them ends the task, the job or the call. Nothing guards the callback of the
application, nor the rule of a policy, nor what a planned reactor does at its turns: a panic in
these unwinds the loop, and then nothing is torn down. In every other case the loop that ends has
stopped what ran, each plugin once.
-/

set_option autoImplicit false

namespace PluginHost

open Act (Leads Keeps Brings Unbroken InSteps)

variable {dispatch : Dispatch}

namespace Host

theorem runTask_unbroken (task : Task Code) (hint : Bool) : Unbroken (runTask dispatch task hint) :=
  (Unbroken.modify _).bind fun _ => (Unbroken.guarded _ _).bind fun _ =>
    (Unbroken.look _).bind fun _ => .pure _

/-- A step of the executor is unwound exactly if the rule of its policy panics. -/
theorem execute_unwound_iff {h : Host} {payload : PanicPayload} :
    (execute dispatch h).1 = .unwound payload ↔
      (h.executor.policy.select h.executor.views).selection = .error payload := by
  cases ruled : (h.executor.policy.select h.executor.views).selection with
  | error own => simp only [execute, ruled, Flow.unwound.injEq, Except.error.injEq]
  | ok selection =>
    simp only [execute, ruled, reduceCtorEq, iff_false]
    split
    · nofun
    · nofun
    · exact runTask_unbroken _ _ _ payload

theorem runDetached_unbroken (body : Code) : Unbroken (runDetached dispatch body) := by
  intro h payload
  unfold runDetached
  split <;> nofun

theorem turn_unbroken (job : Job Code) : Unbroken (turn dispatch job) := by
  cases job with
  | code yields body =>
    cases yields with
    | zero => exact (runDetached_unbroken body).bind fun _ => .pure _
    | succ yields => exact .pure _
  | ticker t body => exact .step _
  | listener received => exact .step _

theorem jobRound_unbroken (room : Nat) (yielded : List (Job Code)) :
    Unbroken (jobRound dispatch room yielded) := by
  induction room generalizing yielded with
  | zero => exact (Unbroken.modify _).bind fun _ => .pure _
  | succ room ih =>
    apply (Unbroken.step _).bind
    intro job
    cases job with
    | none => exact (Unbroken.modify _).bind fun _ => .pure _
    | some job =>
      apply (turn_unbroken job).bind
      intro turn
      cases turn with
      | finished => exact (ih _).bind fun _ => .pure _
      | yielded job => exact (ih _).bind fun _ => .pure _
      | waiting job => exact (Unbroken.modify _).bind fun _ => (ih _).bind fun _ => .pure _

theorem waitRounds_unbroken (patience : Nat) : Unbroken (waitRounds dispatch patience) := by
  induction patience with
  | zero => exact .stall
  | succ patience ih =>
    apply (Unbroken.look _).bind
    intro waiting
    split
    · apply (jobRound_unbroken _ _).bind
      intro went
      apply (Unbroken.look _).bind
      intro idle
      split
      · apply (Unbroken.step _).bind
        intro happened
        split
        · exact ih
        · exact .stall
      · exact ih
    · exact .pure _

/-- A planned reactor is polled, and what is laid down for that poll panics. -/
def PollPanics (dispatch : Dispatch) (h : Host) (payload : PanicPayload) : Prop :=
  ∃ plan polls blocks, h.reactor = .planned plan polls blocks ∧
    (dispatch (plan.onPoll polls) (countPoll plan polls blocks h)).1 = .unwound payload

theorem pollOnce_unwound_iff {h : Host} {payload : PanicPayload} :
    (pollOnce dispatch h).1 = .unwound payload ↔ PollPanics dispatch h payload := by
  unfold pollOnce PollPanics
  cases reactor : h.reactor with
  | absent => simp
  | events loop => simpa using jobRound_unbroken turnsPerPoll [] h payload
  | planned plan polls blocks =>
    rw [Act.bind_unwound_iff]
    simp

/-- A poll after which another one is due. -/
def Polled (dispatch : Dispatch) (h k : Host) : Prop := pollOnce dispatch h = (.returned true, k)

theorem pollBatch_unwound_iff {limit : Nat} {h : Host} {payload : PanicPayload} :
    (pollBatch dispatch limit h).1 = .unwound payload ↔
      ∃ n < limit, ∃ k, InSteps (Polled dispatch) n h k ∧ PollPanics dispatch k payload := by
  induction limit generalizing h with
  | zero => simp [pollBatch]
  | succ limit ih =>
    rw [pollBatch, Act.bind_unwound_iff, pollOnce_unwound_iff, Act.exists_inSteps_succ_iff]
    apply or_congr_right
    constructor
    · rintro ⟨went, polled, unwound⟩
      cases went with
      | false => cases unwound
      | true =>
        rw [if_pos rfl, Unbroken.before_unwound_iff fun _ => .pure _] at unwound
        exact ⟨_, Prod.ext polled rfl, ih.1 unwound⟩
    · rintro ⟨between, polled, later⟩
      rw [Polled] at polled
      refine ⟨true, by rw [polled], ?_⟩
      rw [if_pos rfl, Unbroken.before_unwound_iff fun _ => .pure _, polled]
      exact ih.2 later

/-- A planned reactor waits, and what is laid down for that wait panics. -/
def WaitPanics (dispatch : Dispatch) (h : Host) (payload : PanicPayload) : Prop :=
  ∃ plan polls blocks, h.reactor = .planned plan polls blocks ∧
    (dispatch (plan.onBlock blocks)
      { h with reactor := .planned plan polls (blocks + 1) }).1 = .unwound payload

theorem block_unwound_iff {patience : Nat} {h : Host} {payload : PanicPayload} :
    (block dispatch patience h).1 = .unwound payload ↔ WaitPanics dispatch h payload := by
  unfold block WaitPanics
  cases reactor : h.reactor with
  | absent => simp
  | events loop => exact iff_of_false (waitRounds_unbroken _ _ payload) (by simp)
  | planned plan polls blocks =>
    rw [Act.bind_unwound_iff]
    simp

end Host

namespace Ensemble

theorem onHost_unbroken {α : Type} {act : Act Host α} (unbroken : Unbroken act) :
    Unbroken (onHost act) :=
  unbroken.within

theorem tell_unbroken (origin : Origin) (level : Level) (message : String)
    (fields : List (String × FieldValue)) : Unbroken (tell origin level message fields) :=
  onHost_unbroken (.modify _)

theorem invoke_unbroken (slot : Slot) (hook : Hook) (code : Code) :
    Unbroken (invoke dispatch slot hook code) :=
  (Unbroken.modify _).bind fun _ => (onHost_unbroken (.guarded _ _)).bind fun _ =>
    (Unbroken.modify _).bind fun _ => .pure _

theorem reloadAll_unbroken (indices : List Nat) : Unbroken (reloadAll dispatch indices) := by
  induction indices with
  | nil => exact .pure _
  | cons index rest ih =>
    apply Unbroken.get.bind
    intro e
    split
    · exact .pure _
    · split
      · exact ih
      · split
        · exact ih
        · apply (invoke_unbroken _ _ _).bind
          intro result
          cases result with
          | ok value => exact ih
          | error failure => exact (tell_unbroken _ _ _ _).bind fun _ => ih

theorem reload_unbroken : Unbroken (reload dispatch) :=
  (Unbroken.look _).bind fun _ => reloadAll_unbroken _

theorem stopAt_unbroken (index : Nat) : Unbroken (stopAt dispatch index) := by
  apply (Unbroken.look _).bind
  intro found
  cases found with
  | none => exact .pure _
  | some slot =>
    dsimp only
    split
    · apply (Unbroken.modify _).bind
      intro _
      apply (tell_unbroken _ _ _ _).bind
      intro _
      apply (invoke_unbroken _ _ _).bind
      intro result
      cases result with
      | ok value => exact .pure _
      | error failure => exact (tell_unbroken _ _ _ _).bind fun _ => .pure _
    · exact .pure _

theorem stopAll_unbroken (indices : List Nat) : Unbroken (stopAll dispatch indices) := by
  induction indices with
  | nil => exact .pure _
  | cons index rest ih => exact (stopAt_unbroken index).bind fun _ => ih.bind fun _ => .pure _

theorem stop_unbroken : Unbroken (stop dispatch) :=
  (Unbroken.look _).bind fun _ => (Unbroken.modify _).bind fun _ =>
    (stopAll_unbroken _).bind fun _ => (Unbroken.modify _).bind fun _ =>
      (Unbroken.modify _).bind fun _ => .pure _

/-- The same plugins as before, with further calls to reload at most. -/
def Stays (first e : Ensemble) : Prop :=
  e.lifecycle = first.lifecycle ∧
    ∃ later, e.calls = first.calls ++ later ∧ ∀ c ∈ later, c.hook = .reload

theorem Stays.refl (e : Ensemble) : Stays e e := ⟨rfl, [], by simp, by simp⟩

theorem reload_stays (first : Ensemble) : Keeps (Stays first) (reload dispatch) := by
  intro e stays ended
  obtain ⟨same, before, recorded, reloads⟩ := stays
  rcases reload_reloads dispatch e with stalled | ⟨calls, h, ran, further⟩
  · exact absurd stalled ended
  · rw [ran]
    refine ⟨same, before ++ calls, ?_, ?_⟩
    · rw [recorded, List.append_assoc]
    · intro c member
      obtain old | new := List.mem_append.1 member
      · exact reloads c old
      · exact (further.called new).1

/-- Calls to reload are no calls to stop. -/
theorem Stays.stops {first e : Ensemble} (stays : Stays first e) :
    entries .stop e.calls = entries .stop first.calls := by
  obtain ⟨_, later, recorded, reloads⟩ := stays
  have none : entries .stop later = [] := entries_of_hook reloads (by decide)
  rw [recorded, entries_append, none, List.append_nil]

/-- What ran at first and still runs is stopped. -/
theorem stop_of_stays {first : Ensemble} :
    Leads (fun e => Standing [] e ∧ Stays first e) (Stopped first) (stop dispatch) := by
  intro e holds ended
  obtain ⟨standing, stays⟩ := holds
  have stopped := (stop_standing standing ended).1
  constructor
  · exact stopped.idle
  · rw [stopped.stops, stays.stops, stays.1]
  · exact stopped.once

end Ensemble

namespace Application

theorem onHost_unbroken {α : Type} {act : Act Host α} (unbroken : Unbroken act) :
    Unbroken (onHost act) :=
  (Ensemble.onHost_unbroken unbroken).within

theorem tell_unbroken (level : Level) (message : String) (fields : List (String × FieldValue)) :
    Unbroken (tell level message fields) :=
  onHost_unbroken (.modify _)

theorem shutDown_unbroken : Unbroken (shutDown dispatch) := by
  apply (Ensemble.stop_unbroken.within).bind
  intro result
  apply (onHost_unbroken (.modify _)).bind
  intro _
  apply (onHost_unbroken (.modify _)).bind
  intro _
  cases result with
  | ok _ => exact (tell_unbroken _ _ _).bind fun _ => .pure _
  | error e => exact .pure _

theorem conclude_unbroken (loop : RunLoop) : Unbroken (conclude dispatch loop) := by
  apply (Unbroken.look _).bind
  intro pending
  apply (tell_unbroken _ _ _).bind
  intro _
  apply (onHost_unbroken (.modify _)).bind
  intro _
  apply shutDown_unbroken.bind
  intro result
  cases loop.failure with
  | none => exact .pure _
  | some e =>
    cases result with
    | ok _ => exact .pure _
    | error later => exact (tell_unbroken _ _ _).bind fun _ => .pure _

def hostOfCallback (a : Application) : Host :=
  a.host.takeReload.2.tell .application .info "SIGHUP received" []

/-- Where code that nothing guards panics in the next step of the loop: the callback of the
application if a reload is pending, the rule of the policy, or what is laid down for a planned
reactor. -/
def Exposed (dispatch : Dispatch) (loop : RunLoop) (a : Application) (payload : PanicPayload) :
    Prop :=
  match loop.phase with
  | .attend =>
    a.host.takeReload.1 = true ∧ ∃ callback, a.reloadCallback = some callback ∧
      (dispatch callback a.hostOfCallback).1 = .unwound payload
  | .poll =>
    ∃ n < max a.config.executor.pollBatch 1, ∃ k, InSteps (Host.Polled dispatch) n a.host k ∧
      Host.PollPanics dispatch k payload
  | .execute => (a.host.executor.policy.select a.host.executor.views).selection = .error payload
  | .rest => a.host.control.quitting = false ∧ Host.WaitPanics dispatch a.host payload
  | .check | .finished => False

theorem dispatchReload_unwound_iff {a : Application} {payload : PanicPayload} :
    (dispatchReload dispatch a).1 = .unwound payload ↔
      ∃ callback, a.reloadCallback = some callback ∧
        (dispatch callback (a.host.tell .application .info "SIGHUP received" [])).1 =
          .unwound payload := by
  have reloads : Unbroken (onEnsemble (Ensemble.reload dispatch)) := Ensemble.reload_unbroken.within
  rw [dispatchReload, Act.bind_of_returned (a := ()) rfl,
    Act.bind_of_returned (a := a.reloadCallback) rfl]
  cases known : a.reloadCallback with
  | none => exact iff_of_false (reloads _ payload) nofun
  | some callback =>
    dsimp only
    rw [Unbroken.before_unwound_iff fun _ => reloads]
    constructor
    · intro unwound
      exact ⟨callback, rfl, unwound⟩
    · rintro ⟨_, same, unwound⟩
      cases same
      exact unwound

/-- A step of the loop is unwound exactly where code that nothing guards panics. -/
theorem loopStep_unwound_iff {patience : Nat} {loop : RunLoop} {a : Application}
    {payload : PanicPayload} :
    (loopStep dispatch patience loop a).1 = .unwound payload ↔
      Exposed dispatch loop a payload := by
  unfold loopStep Exposed
  cases loop.phase with
  | check => exact iff_of_false (Unbroken.get.bind (fun _ => .pure _) a payload) id
  | attend =>
    dsimp only
    rw [Act.bind_of_returned (a := a.host.takeReload.1) rfl]
    cases pending : a.host.takeReload.1 with
    | false => exact iff_of_false nofun (fun exposed => nomatch exposed.1)
    | true =>
      rw [if_pos rfl, Unbroken.before_unwound_iff fun _ => .pure _, dispatchReload_unwound_iff]
      exact (and_iff_right rfl).symm
  | poll =>
    dsimp only
    rw [Act.bind_of_returned (a := a) rfl, Unbroken.before_unwound_iff fun _ => .pure _,
      ← Host.pollBatch_unwound_iff]
    exact Iff.rfl
  | execute =>
    dsimp only
    rw [Unbroken.before_unwound_iff]
    · exact Host.execute_unwound_iff
    · intro result
      cases result with
      | ok more => exact .pure _
      | error e =>
        exact (tell_unbroken _ _ _).bind fun _ =>
          (onHost_unbroken (.modify _)).bind fun _ => .pure _
  | rest =>
    dsimp only
    rw [Act.bind_of_returned (a := a) rfl]
    cases quitting : a.host.control.quitting with
    | true => exact iff_of_false nofun (fun exposed => nomatch exposed.1)
    | false =>
      rw [if_neg (by simp), Unbroken.before_unwound_iff fun _ => .pure _]
      exact Host.block_unwound_iff.trans (and_iff_right rfl).symm
  | finished => exact iff_of_false nofun id

/-- The loop takes one step more. -/
def Turns (dispatch : Dispatch) (patience : Nat) (s t : RunLoop × Application) : Prop :=
  s.1.phase ≠ .finished ∧ loopStep dispatch patience s.1 s.2 = (.returned t.1, t.2)

/-- The loop is unwound exactly where a step of it is that it comes to. -/
theorem loopSteps_unwound_iff {patience limit : Nat} {loop : RunLoop} {a : Application}
    {payload : PanicPayload} :
    (loopSteps dispatch patience limit loop a).1 = .unwound payload ↔
      ∃ n < limit, ∃ s, InSteps (Turns dispatch patience) n (loop, a) s ∧
        Exposed dispatch s.1 s.2 payload := by
  induction limit generalizing loop a with
  | zero => simp [loopSteps, Act.stall]
  | succ limit ih =>
    rw [Act.exists_inSteps_succ_iff, loopSteps]
    by_cases finished : loop.phase = .finished
    · have safe : ¬ Exposed dispatch loop a payload := by simp [Exposed, finished]
      rw [if_pos finished]
      apply iff_of_false nofun
      rintro (exposed | ⟨_, turns, _⟩)
      · exact safe exposed
      · exact turns.1 finished
    · rw [if_neg finished, Act.bind_unwound_iff, loopStep_unwound_iff]
      apply or_congr_right
      constructor
      · rintro ⟨next, stepped, later⟩
        exact ⟨(next, _), ⟨finished, Prod.ext stepped rfl⟩, ih.1 later⟩
      · rintro ⟨⟨next, b⟩, ⟨_, stepped⟩, later⟩
        dsimp only at stepped
        exact ⟨next, by rw [stepped], by rw [stepped]; exact ih.2 later⟩

/-- The run is unwound exactly where its loop is. -/
theorem run_unwound_iff {patience : Nat} {a : Application} {payload : PanicPayload} :
    (run dispatch patience a).1 = .unwound payload ↔
      ∃ n < patience, ∃ s, InSteps (Turns dispatch patience) n ({}, (openLoop a).2) s ∧
        Exposed dispatch s.1 s.2 payload := by
  rw [run, Act.bind_of_returned (a := {}) rfl, Unbroken.before_unwound_iff conclude_unbroken,
    loopSteps_unwound_iff]

/-- A property of the plugins alone. -/
def Of (P : Ensemble → Prop) (a : Application) : Prop := P a.ensemble

variable {P Q : Ensemble → Prop}

theorem onEnsemble_of {α : Type} {act : Act Ensemble α} (leads : Leads P Q act) :
    Leads (Of P) (Of Q) (onEnsemble act) :=
  fun a holds ended => leads a.ensemble holds ended

theorem onHost_of (hostless : Hostless P) {α : Type} (act : Act Host α) :
    Keeps (Of P) (onHost act) := fun a holds _ => hostless a.ensemble _ holds

theorem hostless_standing : Hostless (Ensemble.Standing []) :=
  fun _ _ standing => standing.congr rfl rfl

theorem hostless_stays (first : Ensemble) : Hostless (Ensemble.Stays first) :=
  fun _ _ stays => stays

theorem hostless_stopped (first : Ensemble) : Hostless (Ensemble.Stopped first) :=
  fun _ _ stopped => ⟨stopped.idle, stopped.stops, stopped.once⟩

structure Lasting (dispatch : Dispatch) (P : Ensemble → Prop) : Prop where
  hostless : Hostless P
  register : ∀ catalogue plugin, Keeps P (Ensemble.register catalogue plugin)
  registerType : ∀ catalogue type, Keeps P (Ensemble.registerType catalogue type)
  setUp : ∀ name options, Keeps P (Ensemble.setUp dispatch name options)
  start : Keeps P (Ensemble.start dispatch)
  stop : Keeps P (Ensemble.stop dispatch)
  reload : Keeps P (Ensemble.reload dispatch)

namespace Lasting

theorem keeping (lasting : Lasting dispatch P) : Keeping dispatch (Of P) where
  onHost := onHost_of lasting.hostless
  registerType type := by
    refine Leads.andThen (.look _) fun catalogue => ?_
    exact onEnsemble_of (lasting.registerType catalogue type)
  setUpOne name options := onEnsemble_of (lasting.setUp name options)
  reload := onEnsemble_of lasting.reload
  applied _ holds := holds
  merged _ _ holds := holds

theorem shutDown (lasting : Lasting dispatch P) : Keeps (Of P) (shutDown dispatch) := by
  refine (onEnsemble_of lasting.stop).andThen fun result => ?_
  refine (onHost_of lasting.hostless _).andThen fun _ => ?_
  refine (onHost_of lasting.hostless _).andThen fun _ => ?_
  cases result with
  | ok _ => exact (onHost_of lasting.hostless _).andThen fun _ => .pure _
  | error e => exact .pure _

theorem startUp (lasting : Lasting dispatch P) : Keeps (Of P) (Application.start dispatch) := by
  have keeping : Keeping dispatch (Of P) := lasting.keeping
  refine (onEnsemble_of lasting.start).andThen fun result => ?_
  cases result with
  | ok _ => exact (Leads.look _).andThen fun l => (keeping.tell _ _ _).andThen fun _ => .pure _
  | error e =>
    refine (keeping.tell _ _ _).andThen fun _ => lasting.shutDown.andThen fun later => ?_
    cases later with
    | ok _ => exact .pure _
    | error failure => exact (keeping.tell _ _ _).andThen fun _ => .pure _

theorem perform (lasting : Lasting dispatch P) (operation : Operation) :
    Keeps (Of P) (operation.perform dispatch) := by
  have keeping : Keeping dispatch (Of P) := lasting.keeping
  cases operation with
  | register plugin =>
    have registers : Keeps (Of P) (Application.register plugin) :=
      Leads.andThen (.look _) fun catalogue => onEnsemble_of (lasting.register catalogue plugin)
    exact registers.andThen fun _ => .pure _
  | registerType type => exact (keeping.registerType type).andThen fun _ => .pure _
  | listOptions => exact (keeping.optionsSchema.andThen fun _ => .pure _).andThen fun _ => .pure _
  | setUp names options => exact (keeping.setUp names options).andThen fun _ => .pure _
  | setUpFromConfig => exact keeping.setUpFromConfig.andThen fun _ => .pure _
  | start => exact lasting.startUp.andThen fun _ => .pure _
  | run patience => exact (keeping.run lasting.shutDown patience).andThen fun _ => .pure _
  | shutDown => exact lasting.shutDown.andThen fun _ => .pure _
  | onReload callback => exact .modify fun _ holds => holds
  | elsewhere change => exact keeping.onHost _

end Lasting

/-- What comes of an application by any operations that do not go on for ever, whatever its plugins
say that they need. -/
inductive Undergoes (dispatch : Dispatch) (first : Application) : Application → Prop
  | refl : Undergoes dispatch first first
  | step {a : Application} (operation : Operation) (undergoes : Undergoes dispatch first a)
      (ended : (operation.perform dispatch a).1 ≠ .stalled) :
      Undergoes dispatch first (operation.perform dispatch a).2

theorem Undergoes.lasting {first last : Application} (undergoes : Undergoes dispatch first last)
    (lasting : Lasting dispatch P) (holds : P first.ensemble) : P last.ensemble := by
  induction undergoes with
  | refl => exact holds
  | step operation _ ended ih => exact lasting.perform operation _ ih ended

theorem standing_lasting : Lasting dispatch (Ensemble.Standing []) where
  hostless := hostless_standing
  register _ := Ensemble.register_standing
  registerType _ := Ensemble.registerType_standing
  setUp := Ensemble.setUp_standing
  start := Ensemble.start_standing
  stop := fun _ standing ended => (Ensemble.stop_standing standing ended).2
  reload := Ensemble.reload_standing

theorem Undergoes.standing {first last : Application} (undergoes : Undergoes dispatch first last)
    (standing : first.ensemble.Standing []) : last.ensemble.Standing [] :=
  undergoes.lasting standing_lasting standing

/-- Until the loop has ended nobody is set up, started or stopped. -/
theorem stays_turning (first : Ensemble) : Turning dispatch (Of (Ensemble.Stays first)) where
  onHost := onHost_of (hostless_stays first)
  reload := onEnsemble_of (Ensemble.reload_stays first)

/-- Two properties of the plugins that the loop keeps. -/
theorem Turning.and (first : Turning dispatch (Of P)) (second : Turning dispatch (Of Q)) :
    Turning dispatch (Of fun e => P e ∧ Q e) where
  onHost act := fun a holds ended =>
    ⟨first.onHost act a holds.1 ended, second.onHost act a holds.2 ended⟩
  reload := fun a holds ended => ⟨first.reload a holds.1 ended, second.reload a holds.2 ended⟩

/-- A tear-down that returns has stopped what ran. -/
theorem shutDown_stopped {first : Ensemble} :
    Brings (Of fun e => Ensemble.Standing [] e ∧ Ensemble.Stays first e)
      (fun _ => Of (Ensemble.Stopped first)) (shutDown dispatch) := by
  have host : ∀ {α : Type} (act : Act Host α),
      Brings (Of (Ensemble.Stopped first)) (fun _ => Of (Ensemble.Stopped first)) (onHost act) :=
    fun act => .of_leads (onHost_of (hostless_stopped first) act)
  refine (Brings.of_leads (onEnsemble_of Ensemble.stop_of_stays)).bind fun result => ?_
  refine (host _).bind fun _ => (host _).bind fun _ => ?_
  cases result with
  | ok _ => exact (host _).bind fun _ => .pure fun _ stopped => stopped
  | error e => exact .pure fun _ stopped => stopped

theorem conclude_stopped {first : Ensemble} (loop : RunLoop) :
    Brings (Of fun e => Ensemble.Standing [] e ∧ Ensemble.Stays first e)
      (fun _ => Of (Ensemble.Stopped first)) (conclude dispatch loop) := by
  have turning : Turning dispatch (Of fun e => Ensemble.Standing [] e ∧ Ensemble.Stays first e) :=
    (standing_lasting.keeping.toTurning).and (stays_turning first)
  have host : ∀ {α : Type} (act : Act Host α),
      Brings (Of (Ensemble.Stopped first)) (fun _ => Of (Ensemble.Stopped first)) (onHost act) :=
    fun act => .of_leads (onHost_of (hostless_stopped first) act)
  refine (Brings.of_leads (.look _)).bind fun pending => ?_
  refine (Brings.of_leads (turning.tell _ _ _)).bind fun _ => ?_
  refine (Brings.of_leads (turning.onHost _)).bind fun _ => ?_
  refine shutDown_stopped.bind fun result => ?_
  cases loop.failure with
  | none => exact .pure fun _ stopped => stopped
  | some e =>
    cases result with
    | ok _ => exact .pure fun _ stopped => stopped
    | error later => exact (host _).bind fun _ => .pure fun _ stopped => stopped

theorem drop_unbroken : Unbroken (drop dispatch) := by
  have clears : Unbroken (do
      onHost (Act.modify Host.clear)
      onHost (Act.modify Host.clearShared)) :=
    (onHost_unbroken (.modify _)).bind fun _ => onHost_unbroken (.modify _)
  refine (Unbroken.look _).bind fun running => ?_
  split
  · refine (tell_unbroken _ _ _).bind fun _ => shutDown_unbroken.bind fun result => ?_
    cases result with
    | ok _ => exact clears
    | error e => exact (tell_unbroken _ _ _).bind fun _ => clears
  · exact clears

/-- When an application is dropped, what ran is stopped. -/
theorem drop_stopped {a : Application} (standing : a.ensemble.Standing [])
    (returned : (drop dispatch a).1 = .returned ()) :
    Ensemble.Stopped a.ensemble (drop dispatch a).2.ensemble := by
  have host : ∀ {α : Type} (act : Act Host α),
      Brings (Of (Ensemble.Stopped a.ensemble)) (fun _ => Of (Ensemble.Stopped a.ensemble))
        (onHost act) := fun act => .of_leads (onHost_of (hostless_stopped a.ensemble) act)
  have clears : Brings (Of (Ensemble.Stopped a.ensemble))
      (fun _ => Of (Ensemble.Stopped a.ensemble)) (do
        onHost (Act.modify Host.clear)
        onHost (Act.modify Host.clearShared)) := (host _).bind fun _ => host _
  have turning : Turning dispatch
      (Of fun e => Ensemble.Standing [] e ∧ Ensemble.Stays a.ensemble e) :=
    (standing_lasting.keeping.toTurning).and (stays_turning a.ensemble)
  unfold drop at returned ⊢
  rw [Act.bind_of_returned (a := a.lifecycle.hasRunning) rfl] at returned ⊢
  by_cases running : a.lifecycle.hasRunning
  · rw [if_pos running] at returned ⊢
    refine (?tearsDown : Brings (Of fun e => Ensemble.Standing [] e ∧ Ensemble.Stays a.ensemble e)
      (fun _ => Of (Ensemble.Stopped a.ensemble)) _) a () ⟨standing, .refl _⟩ returned
    refine (Brings.of_leads (turning.tell _ _ _)).bind fun _ => ?_
    refine shutDown_stopped.bind fun result => ?_
    cases result with
    | ok _ => exact clears
    | error e => exact (host _).bind fun _ => clears
  · rw [if_neg running] at returned ⊢
    have idle : a.ensemble.lifecycle.running = [] := by
      simpa [Application.lifecycle, Lifecycle.hasRunning] using running
    refine clears a () ⟨idle, ?_, standing.stopsOnce⟩ returned
    rw [Ensemble.fallingOrder, idle]
    exact (List.append_nil _).symm

/-- A run that returns has stopped what ran. -/
theorem run_stopped {first : Ensemble} (patience : Nat) :
    Brings (Of fun e => Ensemble.Standing [] e ∧ Ensemble.Stays first e)
      (fun _ => Of (Ensemble.Stopped first)) (run dispatch patience) := by
  have turning : Turning dispatch (Of fun e => Ensemble.Standing [] e ∧ Ensemble.Stays first e) :=
    (standing_lasting.keeping.toTurning).and (stays_turning first)
  refine (Brings.of_leads turning.openLoop).bind fun opened => ?_
  refine (Brings.of_leads (turning.loopSteps patience patience opened)).bind fun loop => ?_
  exact conclude_stopped loop

/-- A run that is unwound has called nobody but to reload. -/
theorem run_stays_of_unwound {patience : Nat} {a : Application} {payload : PanicPayload}
    (unwound : (run dispatch patience a).1 = .unwound payload) :
    Ensemble.Stays a.ensemble (run dispatch patience a).2.ensemble := by
  rw [run, Act.bind_of_returned (a := {}) rfl] at unwound ⊢
  obtain first | ⟨loop, _, later⟩ := Act.bind_unwound_iff.1 unwound
  · rw [Act.bind_of_unwound first]
    have ended : (loopSteps dispatch patience patience {} (openLoop a).2).1 ≠ .stalled := by
      rw [first]
      exact nofun
    exact (stays_turning a.ensemble).loopSteps patience patience {} _ (.refl _) ended
  · exact absurd later (conclude_unbroken loop _ payload)

/-- A run of an application, whatever came before and however code of others behaves. It is unwound
exactly if its loop comes to where the callback of the application panics, or the rule of the
policy, or what is laid down for a planned reactor; then nobody is stopped. A run that returns has
stopped every plugin that ran, each of them once. -/
theorem run_unwound_or_stopped {config : Config} {catalogue : Catalogue} {registered : List String}
    {h : Host} {a : Application}
    (undergoes : Undergoes dispatch (new config catalogue registered h) a) (patience : Nat) :
    (∀ payload, (run dispatch patience a).1 = .unwound payload ↔
      ∃ n < patience, ∃ s, InSteps (Turns dispatch patience) n ({}, (openLoop a).2) s ∧
        Exposed dispatch s.1 s.2 payload) ∧
    (∀ payload, (run dispatch patience a).1 = .unwound payload →
      Ensemble.Stays a.ensemble (run dispatch patience a).2.ensemble) ∧
    ∀ result, (run dispatch patience a).1 = .returned result →
      Ensemble.Stopped a.ensemble (run dispatch patience a).2.ensemble := by
  have standing := undergoes.standing (.fresh (openHost config h))
  refine ⟨fun payload => run_unwound_iff, fun payload => run_stays_of_unwound, ?_⟩
  intro result returned
  exact run_stopped patience a result ⟨standing, .refl _⟩ returned

/-- A plugin that panics whenever it is called while it runs, and a task that panics: the run
returns, and the plugin has been stopped. -/
theorem run_unwound_or_stopped_of_one :
    let base : Plugin :=
      { type := "Base", name := "base", stop := .panic (.text "stop"),
        reload := .panic (.text "reload") }
    let perform := fun (a : Application) (operation : Operation) =>
      (operation.perform (Code.runWithin 2) a).2
    let a := [Operation.register base, .setUp ["base"] .empty, .start, .elsewhere Host.requestReload,
      .elsewhere fun h => (h.post 50 0 (.panic (.text "task"))).2].foldl perform (new {} [] [] {})
    (run (Code.runWithin 2) 9 a).1 = .returned (.error (.panicked "task" (.text "task"))) ∧
      Ensemble.Stopped a.ensemble (run (Code.runWithin 2) 9 a).2.ensemble ∧
      entries .stop (run (Code.runWithin 2) 9 a).2.ensemble.calls = [0] := by
  intro base perform a
  have undergoes : Undergoes (Code.runWithin 2) (new {} [] [] {}) a := by
    refine .step _ (.step (.elsewhere Host.requestReload) (.step .start
      (.step (.setUp ["base"] .empty) (.step (.register base) .refl ?_) ?_) ?_) ?_) ?_
    all_goals decide +kernel
  have returned : (run (Code.runWithin 2) 9 a).1 =
      .returned (.error (.panicked "task" (.text "task"))) := by
    decide +kernel
  exact ⟨returned, (run_unwound_or_stopped undergoes 9).2.2 _ returned, by decide +kernel⟩

/-- A callback that panics unwinds the run, and the plugin that runs is left running: it is not
called to stop. -/
theorem run_unwound_of_callback :
    let base : Plugin := { type := "Base", name := "base" }
    let perform := fun (a : Application) (operation : Operation) =>
      (operation.perform (Code.runWithin 2) a).2
    let a := [Operation.register base, .setUp ["base"] .empty, .start,
      .onReload (some (.panic (.text "boom"))), .elsewhere Host.requestReload].foldl perform
        (new {} [] [] {})
    (run (Code.runWithin 2) 9 a).1 = .unwound (.text "boom") ∧
      (run (Code.runWithin 2) 9 a).2.lifecycle.running = [0] ∧
      entries .stop (run (Code.runWithin 2) 9 a).2.ensemble.calls = [] := by
  decide +kernel

end Application

end PluginHost
