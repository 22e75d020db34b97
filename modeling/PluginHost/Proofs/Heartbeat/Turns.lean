import PluginHost.Application.RunLoop
import PluginHost.Proofs.Heartbeat.Plugins

set_option autoImplicit false

namespace PluginHost

open Act (Leads Keeps Gives Brings)
open Heartbeat (Wiring Tally)

/-- An application that fits a tally. What it registers for every application is registered. -/
structure Application.Fits (w : Wiring) (t : Tally) (a : Application) : Prop where
  ensemble : a.ensemble.Fits w t
  callback : ∀ code, a.reloadCallback = some code → code.Foreign w
  applied : a.registeredApplied = true

variable {w : Wiring} {t : Tally} {depth : Nat}

theorem Slot.Fits.congr {slot : Slot} (fits : slot.Fits w t) {after : Tally}
    (same : after.wired = t.wired) : slot.Fits w after := by
  cases fits with
  | heartbeat own up wired => exact .heartbeat own up (same.trans wired)
  | monitor own up => exact .monitor own up
  | others foreign => exact .others foreign

theorem Ensemble.Fits.congr {e : Ensemble} (fits : e.Fits w t) {after : Tally} {h : Host}
    (host : h.Fits w after) (same : after.wired = t.wired) :
    ({ e with host := h } : Ensemble).Fits w after :=
  ⟨host, fun slot member => (fits.slots slot member).congr same⟩

namespace Heartbeat

/-- What is left of a tally when all is torn down. -/
def Tally.down (t : Tally) : Tally := { t with live := false, wired := false, quitting := true }

theorem Tally.Steady.down (steady : t.Steady w) : t.down.Steady w :=
  ⟨steady.published, steady.behind, (nomatch ·), steady.quitter⟩

end Heartbeat

theorem Host.executor_quit (h : Host) : h.quit.executor = h.executor := by
  unfold Host.quit
  split <;> rfl

namespace Host.Fits

variable {h : Host}

theorem asking (fits : h.Fits w t) (asked : h.control.quitting = true) :
    h.Fits w { t with quitting := true } :=
  { fits with
    quitting := fun _ => asked
    channels := { fits.channels with }
    methods := { fits.methods with }
    ledger := { fits.ledger with } }

/-- When nobody asks whether the monitor listens, what waits may be dropped. -/
theorem clear (fits : h.Fits w t) (unheard : t.live = false) : h.clear.Fits w t := by
  have cleared : ({ h with executor := h.executor.clear } : Host).Fits w t :=
    { fits with
      queue := by
        simp only [Executor.clear, Array.size_map]
        exact fits.queue
      way := fun live => by
        rw [unheard] at live
        cases live
      marked := fits.marked.clear }
  unfold Host.clear
  dsimp only
  split
  · exact cleared
  · exact cleared.tell .executor (by decide) _ _ _

theorem clearShared (fits : h.Fits w t) : h.clearShared.Fits w { t with wired := false } :=
  { fits with
    wired := nofun
    channels := { fits.channels with }
    methods := { fits.methods with }
    ledger := { fits.ledger with } }

end Host.Fits

namespace Application

variable {α : Type}

theorem onEnsemble_fits {act : Act Ensemble α} (keeps : Keeps (Ensemble.Fits w t) act) :
    Keeps (Application.Fits w t) (onEnsemble act) :=
  fun a fits ended => ⟨keeps a.ensemble fits.ensemble ended, fits.callback, fits.applied⟩

theorem onHost_fits {act : Act Host α} (keeps : Keeps (Host.Fits w t) act) :
    Keeps (Application.Fits w t) (onHost act) :=
  onEnsemble_fits (Ensemble.onHost_fits keeps)

theorem tell_fits (level : Level) (message : String) (fields : List (String × FieldValue)) :
    Keeps (Application.Fits w t) (tell level message fields) :=
  onHost_fits (.modify fun _ fits => fits.tell .application nofun _ _ _)

theorem optionsSchema_fits : Keeps (Application.Fits w t) optionsSchema := by
  have applied : Keeps (Application.Fits w t) applyRegistered := by
    refine Gives.get.andThen fun a fits => ?_
    rw [if_pos fits.applied]
    exact .pure _
  have reported : ∀ (repeated : List RepeatedDeclaration) {h : Host}, h.Fits w t →
      (reportRepeated repeated h).Fits w t := by
    intro repeated
    induction repeated with
    | nil => exact fun fits => fits
    | cons r rest ih => exact fun fits => ih (fits.tell .options nofun _ _ _)
  refine applied.andThen fun _ => (Leads.look _).andThen fun declared => ?_
  exact (onHost_fits (.modify fun _ fits => reported _ fits)).andThen fun _ => .pure _

theorem warnOptions_fits (message : String) (names : List String) :
    Keeps (Application.Fits w t) (warnOptions message names) := by
  induction names with
  | nil => exact .pure _
  | cons name rest ih => exact (tell_fits _ _ _).andThen fun _ => ih

theorem setUpAll_fits (options : Options) (names : List String) :
    Keeps (Application.Fits w t) (setUpAll (Code.runWithin depth) options names) := by
  induction names with
  | nil => exact .pure _
  | cons name rest ih =>
    refine (onEnsemble_fits (Ensemble.setUp_fits name options)).andThen fun result => ?_
    cases result with
    | ok _ => exact ih
    | error _ => exact (tell_fits _ _ _).andThen fun _ => .pure _

theorem setUp_fits (names : List String) (options : Options) :
    Keeps (Application.Fits w t) (setUp (Code.runWithin depth) names options) := by
  refine optionsSchema_fits.andThen fun schema => ?_
  refine (warnOptions_fits _ _).andThen fun _ => (warnOptions_fits _ _).andThen fun _ => ?_
  dsimp only
  refine Leads.andThen (.modify fun _ fits => { fits with }) fun _ => ?_
  refine (setUpAll_fits _ names).andThen fun result => ?_
  cases result with
  | error _ => exact .pure _
  | ok _ => exact (Leads.look _).andThen fun l => (tell_fits _ _ _).andThen fun _ => .pure _

/-- Whoever shuts down asks to quit as well. -/
theorem quit_fits : Leads (Application.Fits w t) (Application.Fits w { t with quitting := true })
    (onHost (Act.modify Host.quit)) := fun _ fits _ =>
  ⟨fits.ensemble.congr fits.ensemble.host.quits rfl, fits.callback, fits.applied⟩

theorem stopped_brings :
    Brings (Application.Fits w t)
      (fun _ a => a.host.Fits w { t with live := false } ∧
        a.ensemble.lifecycle.registry.slots = [] ∧
        (∀ code, a.reloadCallback = some code → code.Foreign w) ∧ a.registeredApplied = true)
      (onEnsemble (Ensemble.stop (Code.runWithin depth))) := by
  intro a result fits returned
  have unheard : a.ensemble.Fits w { t with live := false } :=
    fits.ensemble.congr fits.ensemble.host.unheard rfl
  obtain ⟨host, none⟩ := Ensemble.stop_brings rfl a.ensemble result unheard returned
  exact ⟨host, none, fits.callback, fits.applied⟩

theorem shutDown_brings :
    Brings (Application.Fits w t) (fun _ => Application.Fits w t.down)
      (shutDown (Code.runWithin depth)) := by
  refine stopped_brings.bind fun result => ?_
  have cleared : Brings
      (fun a : Application => a.host.Fits w { t with live := false } ∧
        a.ensemble.lifecycle.registry.slots = [] ∧
        (∀ code, a.reloadCallback = some code → code.Foreign w) ∧ a.registeredApplied = true)
      (fun _ => Application.Fits w { t with live := false, wired := false })
      (onHost (Act.modify Host.clearShared)) := by
    intro a _ torn _
    obtain ⟨host, none, callback, applied⟩ := torn
    refine ⟨⟨host.clearShared, fun slot member => ?_⟩, callback, applied⟩
    exact absurd (none ▸ member) List.not_mem_nil
  refine cleared.bind fun _ => (Brings.of_leads quit_fits).bind fun _ => ?_
  cases result with
  | ok _ => exact (Brings.of_leads (tell_fits _ _ _)).bind fun _ => .pure fun _ fits => fits
  | error _ => exact .pure fun _ fits => fits

/-- If a plugin fails to start, all is torn down. -/
theorem start_brings :
    Brings (Application.Fits w t)
      (fun result a => a.Fits w t ∨ (∃ e, result = .error e) ∧ a.Fits w t.down)
      (start (Code.runWithin depth)) := by
  refine (Brings.of_leads (onEnsemble_fits Ensemble.start_fits)).bind fun result => ?_
  cases result with
  | ok _ =>
    refine (Brings.of_leads (.look _)).bind fun l => ?_
    exact (Brings.of_leads (tell_fits _ _ _)).bind fun _ => .pure fun _ fits => .inl fits
  | error e =>
    refine (Brings.of_leads (tell_fits _ _ _)).bind fun _ => shutDown_brings.bind fun later => ?_
    cases later with
    | ok _ => exact .pure fun _ fits => .inr ⟨⟨e, rfl⟩, fits⟩
    | error _ =>
      refine (Brings.of_leads (tell_fits _ _ _)).bind fun _ => ?_
      exact .pure fun _ fits => .inr ⟨⟨e, rfl⟩, fits⟩

/-- What still waits when the loop has ended is dropped, and all is torn down. -/
theorem conclude_brings (loop : RunLoop) :
    Brings (Application.Fits w t) (fun _ => Application.Fits w t.down)
      (conclude (Code.runWithin depth) loop) := by
  refine (Brings.of_leads (.look _)).bind fun pending => ?_
  refine (Brings.of_leads (tell_fits _ _ _)).bind fun _ => ?_
  have dropped : Leads (Application.Fits w t) (Application.Fits w { t with live := false })
      (onHost (Act.modify Host.clear)) := fun _ fits _ =>
    ⟨fits.ensemble.congr (fits.ensemble.host.unheard.clear rfl) rfl, fits.callback, fits.applied⟩
  refine (Brings.of_leads dropped).bind fun _ => ?_
  refine Brings.bind shutDown_brings fun result => ?_
  have kept : ∀ a : Application, a.Fits w ({ t with live := false } : Tally).down →
      a.Fits w t.down := fun _ fits => fits
  cases loop.failure with
  | none => exact .pure kept
  | some _ =>
    cases result with
    | ok _ => exact .pure kept
    | error _ => exact (Brings.of_leads (tell_fits _ _ _)).bind fun _ => .pure kept

theorem dispatchReload_fits :
    Keeps (Application.Fits w t) (dispatchReload (Code.runWithin depth)) := by
  have reloads : Keeps (Application.Fits w t)
      (onEnsemble (Ensemble.reload (Code.runWithin depth))) := onEnsemble_fits Ensemble.reload_fits
  have callback : Gives (Application.Fits w t)
      (fun found => ∀ code, found = some code → code.Foreign w)
      (Act.look Application.reloadCallback) := .look fun _ fits => fits.callback
  refine (tell_fits _ _ _).andThen fun _ => callback.andThen fun found known => ?_
  cases found with
  | none => exact reloads
  | some code =>
    have heeds := Code.runWithin_heeds depth t code (known code rfl)
    exact (onHost_fits heeds).andThen fun _ => reloads

end Application

/-- The loop is between its look at the quit flag and the end of the turn. -/
def Phase.Inside : Phase → Prop
  | .check | .finished => False
  | _ => True

namespace Application

/-- What a step of the loop comes to: a next tally, in which the monitor listens if the loop goes on
with its turn, and the host is asked to quit if the loop has finished. -/
def StepComes (w : Wiring) (t : Tally) (out : Flow RunLoop × Application) : Prop :=
  match out.1 with
  | .stalled => True
  | .unwound _ => ∃ after : Tally, t.Next w after out.2.host.executor.posted ∧ out.2.Fits w after ∧
      after.live = true
  | .returned next => ∃ after : Tally, t.Next w after out.2.host.executor.posted ∧
      out.2.Fits w after ∧ (after.live = true ∨ after.quitting = true) ∧
      (next.phase.Inside → after.live = true) ∧ (next.phase = .finished → after.quitting = true)

/-- A step that leaves the tally as it is, while the monitor listens. -/
theorem stepComes_of_gives {act : Act Application RunLoop} (phase : Phase)
    (unfinished : phase ≠ .finished)
    (gives : Gives (Application.Fits w t) (fun next => next.phase = phase) act)
    (steady : t.Steady w) (live : t.live = true) {a : Application} (fits : a.Fits w t) :
    StepComes w t (act a) := by
  have kept := gives.keeps a fits
  have value := gives.gives a
  generalize act a = out at kept value
  obtain ⟨flow, after⟩ := out
  cases flow with
  | stalled => trivial
  | unwound payload => exact ⟨t, .refl steady _, kept nofun, live⟩
  | returned next =>
    refine ⟨t, .refl steady _, kept nofun, .inl live, fun _ => live, fun finished => ?_⟩
    exact absurd ((value next fits rfl).symm.trans finished) unfinished

/-- A task that fails makes the loop quit. -/
theorem execute_stepComes {loop : RunLoop} {a : Application} (fits : a.Fits w t)
    (steady : t.Steady w) (live : t.live = true) (phase : loop.phase = .execute) (patience : Nat) :
    StepComes w t (loopStep (Code.runWithin depth) patience loop a) := by
  have comes := Heartbeat.execute_comes depth steady live fits.ensemble.host
  unfold loopStep
  rw [phase]
  dsimp only
  rw [Act.bind_apply, onHost, onEnsemble, Ensemble.onHost, Act.within, Act.within]
  generalize Host.execute (Code.runWithin depth) a.ensemble.host = out at comes ⊢
  obtain ⟨flow, h⟩ := out
  cases flow with
  | stalled => trivial
  | unwound payload =>
    obtain ⟨after, next, wired, host, live | ⟨_, none⟩⟩ := comes nofun
    · exact ⟨after, next, ⟨fits.ensemble.congr host wired, fits.callback, fits.applied⟩, live⟩
    · cases none
  | returned result =>
    obtain ⟨after, next, wired, host, fine⟩ := comes nofun
    have fitsAfter : ({ a with ensemble := { a.ensemble with host := h } } : Application).Fits w
        after := ⟨fits.ensemble.congr host wired, fits.callback, fits.applied⟩
    cases result with
    | ok more =>
      have heard : after.live = true := by
        rcases fine with live | ⟨_, none⟩
        · exact live
        · cases none
      refine ⟨after, next, fitsAfter, .inl heard, fun _ => heard, fun finished => ?_⟩
      cases more <;> cases finished
    | error e =>
      have told := tell_fits .error "Task failed, quitting" [("error", .text e.display)] _ fitsAfter
        nofun
      have quits := quit_fits _ told nofun
      let last : Tally := { after with quitting := true }
      have steadyToo : last.Steady w := { next.steady with }
      have nextToo : t.Next w last
          (h.tell .application .error "Task failed, quitting"
            [("error", .text e.display)]).quit.executor.posted := by
        rw [Host.executor_quit]
        exact ⟨steadyToo, next.counted, next.seen, next.quitter⟩
      exact ⟨last, nextToo, quits, .inr rfl, nofun, nofun⟩

/-- The step that looks at the quit flag, and the one that runs a task, matter. -/
theorem loopStep_comes (depth patience : Nat) {loop : RunLoop} {a : Application}
    (fits : a.Fits w t) (steady : t.Steady w) (up : t.live = true ∨ t.quitting = true)
    (inside : loop.phase.Inside → t.live = true)
    (finished : loop.phase = .finished → t.quitting = true) :
    StepComes w t (loopStep (Code.runWithin depth) patience loop a) := by
  obtain ⟨phase, failure⟩ := loop
  cases phase with
  | execute => exact execute_stepComes fits steady (inside trivial) rfl patience
  | finished => exact ⟨t, .refl steady _, fits, up, nofun, fun _ => finished rfl⟩
  | check =>
    cases quitting : a.host.control.quitting with
    | true =>
      have asked : a.Fits w { t with quitting := true } :=
        ⟨fits.ensemble.congr (fits.ensemble.host.asking quitting) rfl, fits.callback, fits.applied⟩
      have steadyToo : ({ t with quitting := true } : Tally).Steady w := { steady with }
      have next := Tally.Next.of_ticks (t := t) steadyToo rfl (.inl rfl) rfl rfl
      unfold loopStep StepComes
      simp only [Act.bind_apply, Act.get_apply, quitting, if_true, Act.pure_apply]
      exact ⟨_, next _, asked, .inr rfl, nofun, fun _ => rfl⟩
    | false =>
      have live : t.live = true := up.resolve_right fun set => by
        exact absurd (quitting.symm.trans (fits.ensemble.host.quitting set)) nofun
      unfold loopStep StepComes
      simp only [Act.bind_apply, Act.get_apply, quitting, Bool.false_eq_true, if_false,
        Act.pure_apply]
      exact ⟨t, .refl steady _, fits, up, fun _ => live, nofun⟩
  | attend =>
    refine stepComes_of_gives .poll nofun ?_ steady (inside trivial) fits
    have takes : Keeps (Application.Fits w t) (onHost (Act.step Host.takeReload)) :=
      onHost_fits (.step fun _ fits => { fits with })
    refine Gives.after takes fun asked => ?_
    cases asked with
    | true => exact Gives.after dispatchReload_fits fun _ => .pure rfl
    | false => exact .pure rfl
  | poll =>
    refine stepComes_of_gives .execute nofun ?_ steady (inside trivial) fits
    refine Gives.after .get fun a => Gives.after (onHost_fits ?_) fun _ => .pure rfl
    exact Host.pollBatch_fits (Code.runWithin_heeds depth) _
  | rest =>
    refine stepComes_of_gives .check nofun ?_ steady (inside trivial) fits
    refine Gives.after .get fun a => ?_
    dsimp only
    split
    · exact .pure rfl
    · refine Gives.after (onHost_fits ?_) fun _ => .pure rfl
      exact Host.block_fits (Code.runWithin_heeds depth) _

end Application

end PluginHost
