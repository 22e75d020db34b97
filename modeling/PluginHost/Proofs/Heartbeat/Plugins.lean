import PluginHost.Proofs.Heartbeat.Hooks
import PluginHost.Plugin.Lifecycle

set_option autoImplicit false

namespace PluginHost

open Act (Leads Keeps Gives Brings)
open Heartbeat (Wiring Tally)

/-- A plugin of others: all its code is, also what it does when it is dropped. -/
structure Plugin.Foreign (w : Wiring) (p : Plugin) : Prop where
  setUp : ∀ options, (p.setUp options).Foreign w
  start : p.start.Foreign w
  stop : p.stop.Foreign w
  reload : p.reload.Foreign w
  release : ∀ h : Host, ∃ (depth : Nat) (code : Code), code.Foreign w ∧
    (Code.runWithin depth code h).1 ≠ .stalled ∧ p.release h = (Code.runWithin depth code h).2

/-- The heartbeat and the monitor have been set up, and every other plugin is one of others. -/
inductive Slot.Fits (w : Wiring) (t : Tally) (slot : Slot) : Prop
  | heartbeat (own : slot.plugin = Heartbeat.plugin w.heartbeat) (up : slot.state ≠ .registered)
      (wired : t.wired = true)
  | monitor (own : slot.plugin = Monitor.plugin w.monitor) (up : slot.state ≠ .registered)
  | others (foreign : slot.plugin.Foreign w)

structure Ensemble.Fits (w : Wiring) (t : Tally) (e : Ensemble) : Prop where
  host : e.host.Fits w t
  slots : ∀ slot ∈ e.lifecycle.registry.slots, slot.Fits w t

variable {w : Wiring} {t : Tally} {depth : Nat}

/-- What code does to a depth it does when it is followed. -/
theorem Code.runWithin_keeps {code : Code}
    (keeps : ∀ dispatch : Dispatch, Keeps (Host.Fits w t) (Code.run dispatch code)) :
    Keeps (Host.Fits w t) (Code.runWithin depth code) := by
  cases depth with
  | zero => exact .stall
  | succ depth => exact keeps _

namespace Slot.Fits

variable {slot : Slot}

theorem setState (fits : slot.Fits w t) {state : PluginState} (up : state ≠ .registered) :
    ({ slot with state := state } : Slot).Fits w t := by
  cases fits with
  | heartbeat own _ wired => exact .heartbeat own up wired
  | monitor own _ => exact .monitor own up
  | others foreign => exact .others foreign

theorem setUp_fits (fits : slot.Fits w t) (fresh : slot.state = .registered) (options : Options) :
    Keeps (Host.Fits w t) (Code.runWithin depth (slot.plugin.setUp options)) := by
  cases fits with
  | heartbeat _ up => exact absurd fresh up
  | monitor _ up => exact absurd fresh up
  | others foreign => exact Code.runWithin_heeds depth t _ (foreign.setUp options)

theorem start_fits (fits : slot.Fits w t) :
    Keeps (Host.Fits w t) (Code.runWithin depth slot.plugin.start) := by
  cases fits with
  | heartbeat own _ wired =>
    rw [own]
    exact Code.runWithin_keeps fun _ => Heartbeat.start_fits wired
  | monitor own =>
    rw [own]
    exact Code.runWithin_heeds depth t _ trivial
  | others foreign => exact Code.runWithin_heeds depth t _ foreign.start

theorem reload_fits (fits : slot.Fits w t) :
    Keeps (Host.Fits w t) (Code.runWithin depth slot.plugin.reload) := by
  cases fits with
  | heartbeat own =>
    rw [own]
    exact Code.runWithin_heeds depth t _ trivial
  | monitor own =>
    rw [own]
    exact Code.runWithin_heeds depth t _ (Monitor.reload_foreign w)
  | others foreign => exact Code.runWithin_heeds depth t _ foreign.reload

theorem stop_fits (fits : slot.Fits w t) (unheard : t.live = false) :
    Keeps (Host.Fits w t) (Code.runWithin depth slot.plugin.stop) := by
  cases fits with
  | heartbeat own =>
    rw [own]
    exact Code.runWithin_keeps fun _ => Heartbeat.stop_fits
  | monitor own =>
    rw [own]
    exact Code.runWithin_keeps fun _ => Monitor.stop_fits unheard
  | others foreign => exact Code.runWithin_heeds depth t _ foreign.stop

theorem release_fits (fits : slot.Fits w t) {h : Host} (host : h.Fits w t) :
    (slot.plugin.release h).Fits w t := by
  cases fits with
  | heartbeat own =>
    rw [own]
    exact Heartbeat.release_fits host
  | monitor own =>
    rw [own]
    exact host
  | others foreign =>
    obtain ⟨depth, code, foreignToo, ended, same⟩ := foreign.release h
    rw [same]
    exact Code.runWithin_heeds depth t code foreignToo h host ended

end Slot.Fits

namespace Ensemble

variable {α : Type} {dispatch : Dispatch}

theorem onHost_fits {act : Act Host α} (keeps : Keeps (Host.Fits w t) act) :
    Keeps (Ensemble.Fits w t) (onHost act) :=
  fun e fits ended => ⟨keeps e.host fits.host ended, fits.slots⟩

theorem tell_fits (level : Level) (message : String) (fields : List (String × FieldValue)) :
    Keeps (Ensemble.Fits w t) (tell .lifecycle level message fields) :=
  onHost_fits (.modify fun _ fits => fits.tell .lifecycle nofun _ _ _)

theorem invoke_fits {slot : Slot} {hook : Hook} {code : Code}
    (keeps : Keeps (Host.Fits w t) (dispatch code)) :
    Keeps (Ensemble.Fits w t) (invoke dispatch slot hook code) := by
  refine Leads.andThen (.modify fun _ fits => ⟨fits.host, fits.slots⟩) fun _ => ?_
  refine (onHost_fits (keeps.guarded _)).andThen fun _ => ?_
  exact Leads.andThen (.modify fun _ fits => ⟨fits.host, fits.slots⟩) fun _ => .pure _

theorem changeLifecycle_fits {change : Lifecycle → Lifecycle}
    (same : ∀ l, (change l).registry = l.registry) :
    Keeps (Ensemble.Fits w t) (changeLifecycle change) := by
  refine .modify fun e fits => ⟨fits.host, ?_⟩
  rw [same]
  exact fits.slots

/-- The slot at an index fits. -/
theorem slotAt_fits (index : Nat) :
    Gives (Ensemble.Fits w t) (fun found => ∀ slot, found = some slot → slot.Fits w t)
      (Act.look fun e : Ensemble => e.lifecycle.registry.slots[index]?) :=
  .look fun _ fits slot found => fits.slots slot (List.mem_of_getElem? found)

theorem setState_fits (index : Nat) (state : PluginState) (up : state ≠ .registered) :
    Keeps (Ensemble.Fits w t) (changeLifecycle fun l => l.setState index state) := by
  refine .modify fun e fits => ⟨fits.host, ?_⟩
  have changed : ∀ (slots : List Slot) (index : Nat), (∀ slot ∈ slots, slot.Fits w t) →
      ∀ slot ∈ slots.modify index fun slot => { slot with state := state }, slot.Fits w t := by
    intro slots
    induction slots with
    | nil => exact fun _ _ => by simp
    | cons first rest ih =>
      intro index fits
      obtain ⟨fitsFirst, fitsRest⟩ := List.forall_mem_cons.1 fits
      cases index with
      | zero => exact List.forall_mem_cons.2 ⟨fitsFirst.setState up, fitsRest⟩
      | succ index => exact List.forall_mem_cons.2 ⟨fitsFirst, ih index fitsRest⟩
  exact changed _ index fits.slots

theorem callSetUp_fits {slot : Slot} (fits : slot.Fits w t) (fresh : slot.state = .registered)
    (options : Options) (index : Nat) :
    Keeps (Ensemble.Fits w t) (callSetUp (Code.runWithin depth) options slot index) := by
  refine (tell_fits _ _ _).andThen fun _ => ?_
  refine (invoke_fits (fits.setUp_fits fresh options)).andThen fun result => ?_
  cases result with
  | error _ => exact (tell_fits _ _ _).andThen fun _ => .pure _
  | ok _ => exact (changeLifecycle_fits fun _ => by rfl).andThen fun _ => .pure _

theorem setUpDependencies_fits {setUp : Nat → Act Ensemble (Except Failure Unit)}
    (keeps : ∀ index, Keeps (Ensemble.Fits w t) (setUp index)) (index : Nat) (needed : List Nat) :
    Keeps (Ensemble.Fits w t) (setUpDependencies setUp index needed) := by
  induction needed with
  | nil => exact .pure _
  | cons dependency rest ih =>
    refine (Leads.look _).andThen fun l => ?_
    split
    · exact .pure _
    · refine (keeps dependency).andThen fun result => ?_
      cases result with
      | error _ => exact .pure _
      | ok _ => exact ih

theorem setUpAt_fits (options : Options) (deep index : Nat) :
    Keeps (Ensemble.Fits w t) (setUpAt (Code.runWithin depth) options deep index) := by
  induction deep generalizing index with
  | zero => exact .stall
  | succ deep ih =>
    refine (slotAt_fits index).andThen fun found known => ?_
    cases found with
    | none => exact .pure _
    | some slot =>
      have fits := known slot rfl
      dsimp only
      split
      · rename_i fresh
        refine (setState_fits index .initialized nofun).andThen fun _ =>
          (Leads.look _).andThen fun needed => ?_
        cases needed with
        | error _ => exact .pure _
        | ok needed =>
          refine (setUpDependencies_fits ih index needed).andThen fun result => ?_
          cases result with
          | error _ => exact .pure _
          | ok _ => exact callSetUp_fits fits fresh options index
      · exact .pure _

theorem setUp_fits (name : String) (options : Options) :
    Keeps (Ensemble.Fits w t) (setUp (Code.runWithin depth) name options) := by
  refine Leads.get.andThen fun e => ?_
  split
  · exact .pure _
  · exact setUpAt_fits options _ _

theorem forEach_fits {act : Nat → Act Ensemble (Except Failure Unit)}
    (keeps : ∀ index, Keeps (Ensemble.Fits w t) (act index)) (indices : List Nat) :
    Keeps (Ensemble.Fits w t) (forEach act indices) := by
  induction indices with
  | nil => exact .pure _
  | cons index rest ih =>
    refine (keeps index).andThen fun result => ?_
    cases result with
    | error _ => exact .pure _
    | ok _ => exact ih

theorem callStart_fits {slot : Slot} (fits : slot.Fits w t) (index : Nat) :
    Keeps (Ensemble.Fits w t) (callStart (Code.runWithin depth) slot index) := by
  refine (changeLifecycle_fits fun _ => by rfl).andThen fun _ =>
    (tell_fits _ _ _).andThen fun _ => ?_
  refine (invoke_fits fits.start_fits).andThen fun result => ?_
  cases result with
  | error _ => exact (tell_fits _ _ _).andThen fun _ => .pure _
  | ok _ => exact .pure _

theorem startAt_fits (deep index : Nat) :
    Keeps (Ensemble.Fits w t) (startAt (Code.runWithin depth) deep index) := by
  induction deep generalizing index with
  | zero => exact .stall
  | succ deep ih =>
    refine (slotAt_fits index).andThen fun found known => ?_
    cases found with
    | none => exact .pure _
    | some slot =>
      have fits := known slot rfl
      dsimp only
      split
      · refine (setState_fits index .started nofun).andThen fun _ =>
          (Leads.look _).andThen fun needed => ?_
        cases needed with
        | error _ => exact .pure _
        | ok needed =>
          refine (forEach_fits ih needed).andThen fun result => ?_
          cases result with
          | error _ => exact .pure _
          | ok _ => exact callStart_fits fits index
      · exact .pure _

theorem start_fits : Keeps (Ensemble.Fits w t) (start (Code.runWithin depth)) :=
  Leads.get.andThen fun _ => forEach_fits (startAt_fits _) _

theorem reloadAll_fits (indices : List Nat) :
    Keeps (Ensemble.Fits w t) (reloadAll (Code.runWithin depth) indices) := by
  induction indices with
  | nil => exact .pure _
  | cons index rest ih =>
    refine Gives.get.andThen fun e fits => ?_
    split
    · exact .pure _
    · split
      · exact ih
      · rename_i slot found
        split
        · exact ih
        · have slotFits := fits.slots slot (List.mem_of_getElem? found)
          refine (invoke_fits slotFits.reload_fits).andThen fun result => ?_
          cases result with
          | error _ => exact (tell_fits _ _ _).andThen fun _ => ih
          | ok _ => exact ih

theorem reload_fits : Keeps (Ensemble.Fits w t) (reload (Code.runWithin depth)) :=
  (Leads.look _).andThen fun order => reloadAll_fits order

theorem stopAt_fits (unheard : t.live = false) (index : Nat) :
    Keeps (Ensemble.Fits w t) (stopAt (Code.runWithin depth) index) := by
  refine (slotAt_fits index).andThen fun found known => ?_
  cases found with
  | none => exact .pure _
  | some slot =>
    have fits := known slot rfl
    dsimp only
    split
    · refine (setState_fits index .stopped nofun).andThen fun _ =>
        (tell_fits _ _ _).andThen fun _ => ?_
      refine (invoke_fits (fits.stop_fits unheard)).andThen fun result => ?_
      cases result with
      | error _ => exact (tell_fits _ _ _).andThen fun _ => .pure _
      | ok _ => exact .pure _
    · exact .pure _

theorem stopAll_fits (unheard : t.live = false) (indices : List Nat) :
    Keeps (Ensemble.Fits w t) (stopAll (Code.runWithin depth) indices) := by
  induction indices with
  | nil => exact .pure _
  | cons index rest ih =>
    exact (stopAt_fits unheard index).andThen fun _ => ih.andThen fun _ => .pure _

/-- When all plugins are stopped there are none any more. -/
theorem stop_brings (unheard : t.live = false) :
    Brings (Ensemble.Fits w t)
      (fun _ e => e.host.Fits w t ∧ e.lifecycle.registry.slots = [])
      (stop (Code.runWithin depth)) := by
  refine (Brings.of_leads (.look _)).bind fun order => ?_
  refine (Brings.of_leads (changeLifecycle_fits fun _ => by rfl)).bind fun _ => ?_
  refine (Brings.of_leads (stopAll_fits unheard _)).bind fun result => ?_
  refine (Brings.of_leads (changeLifecycle_fits fun _ => by rfl)).bind fun _ => ?_
  refine Brings.bind (.modify fun e fits => ⟨?_, rfl⟩) fun _ => .pure fun _ holds => holds
  have released : ∀ (slots : List Slot) {h : Host}, h.Fits w t → (∀ slot ∈ slots, slot.Fits w t) →
      (slots.foldl (fun h slot => slot.plugin.release h) h).Fits w t := by
    intro slots
    induction slots with
    | nil => exact fun host _ => host
    | cons slot rest ih =>
      intro h host fits
      obtain ⟨first, later⟩ := List.forall_mem_cons.1 fits
      exact ih (first.release_fits host) later
  exact released _ fits.host fits.slots

end Ensemble

end PluginHost
