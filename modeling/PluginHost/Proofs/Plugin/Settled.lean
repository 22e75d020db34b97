import PluginHost.Proofs.Plugin.Launching
import PluginHost.Proofs.Plugin.Standing
import Mathlib.Data.List.DropRight

set_option autoImplicit false

namespace PluginHost

open Act (Keeps Leads)

/-- What was recorded since a plugin was stopped for the last time. A tear-down that stops nobody
finds nobody running. -/
def sinceStop (calls : List Call) : List Call := calls.rtakeWhile fun c => c.hook ≠ .stop

theorem sinceStop_append {calls later : List Call} (others : ∀ c ∈ later, c.hook ≠ .stop) :
    sinceStop (calls ++ later) = sinceStop calls ++ later := by
  induction later using List.reverseRecOn with
  | nil => rw [List.append_nil, List.append_nil]
  | append_singleton init last ih =>
    have other : decide (last.hook ≠ .stop) = true := by simpa using others last (by simp)
    have earlier := ih fun c member => others c (List.mem_append_left _ member)
    rw [sinceStop] at earlier ⊢
    rw [← List.append_assoc, List.rtakeWhile_concat, if_pos other, earlier, List.append_assoc]

theorem sinceStop_append_stops {calls later : List Call} (stops : ∀ c ∈ later, c.hook = .stop)
    (some_ : later ≠ []) : sinceStop (calls ++ later) = [] := by
  rw [sinceStop, List.rtakeWhile_eq_nil_iff]
  intro _
  rw [List.getLast_append_of_ne_nil _ some_]
  simpa using stops _ (List.getLast_mem some_)

namespace Ensemble

variable {dispatch : Dispatch} {catalogue : Catalogue} {e after : Ensemble}

/-- What holds of plugins between operations. -/
structure Settled (e : Ensemble) : Prop where
  standing : e.Standing []
  since : entries .start (sinceStop e.calls) =
    e.lifecycle.running.filterMap e.lifecycle.registry.serialAt
  sound : e.lifecycle.registry.Steady → e.lifecycle.Sound

namespace Settled

theorem fresh (h : Host) : Settled { host := h } where
  standing := .fresh h
  since := rfl
  sound _ := .empty 0

theorem congr (settled : e.Settled) (lifecycle : after.lifecycle = e.lifecycle)
    (calls : after.calls = e.calls) : after.Settled where
  standing := settled.standing.congr lifecycle (by rw [calls])
  since := by
    rw [calls, lifecycle]
    exact settled.since
  sound := by
    rw [lifecycle]
    exact settled.sound

/-- Plugins go on: those that are called to start join the running ones. -/
theorem go (settled : e.Settled) (standing : after.Standing []) {later : List Call}
    {started : List Nat} (calls : after.calls = e.calls ++ later)
    (others : ∀ c ∈ later, c.hook ≠ .stop)
    (running : after.lifecycle.running = e.lifecycle.running ++ started)
    (begun : entries .start later = started.filterMap e.lifecycle.registry.serialAt)
    (members : after.lifecycle.registry.members = e.lifecycle.registry.members)
    (sound : e.lifecycle.Sound → after.lifecycle.Sound) : after.Settled where
  standing := standing
  since := by
    have numbers : after.lifecycle.registry.serialAt = e.lifecycle.registry.serialAt :=
      funext (Registry.serialAt_congr members)
    rw [calls, sinceStop_append others, entries_append, settled.since, begun, running, numbers,
      List.filterMap_append]
  sound steady := sound (settled.sound (steady.congr members.symm))

/-- A further plugin takes nothing away. -/
theorem push (settled : e.Settled) (plugin : Plugin)
    (free : e.lifecycle.registry.indexOf plugin.name = none) :
    Settled { e with
      lifecycle := { e.lifecycle with registry := e.lifecycle.registry.push plugin } } where
  standing := settled.standing.push plugin
  since := by
    refine settled.since.trans (List.filterMap_congr fun i member => ?_)
    obtain ⟨slot, found, _⟩ := Option.map_eq_some_iff.1 (settled.standing.started i member)
    have inside := (List.getElem?_eq_some_iff.1 found).1
    exact (Registry.serialAt_push_of_lt _ plugin inside).symm
  sound steady := by
    have longer := (Registry.Extends.push free).members
    have own : (e.lifecycle.registry.push plugin).pluginAt e.lifecycle.registry.slots.length =
        some plugin := by
      simp [Registry.pluginAt, Registry.push]
    have old : e.lifecycle.registry.Steady := by
      intro index other present
      apply steady index other
      rw [Registry.pluginAt_of_isPrefix longer (Registry.lt_of_pluginAt present), present]
    exact (settled.sound old).push (steady _ _ own) free

end Settled

theorem withRegistry_push_settled (e : Ensemble) (r : Registry) (plugin : Plugin)
    (settled : Settled (e.withRegistry r)) (_ : True) (free : r.indexOf plugin.name = none) :
    Settled (e.withRegistry (r.push plugin)) :=
  settled.push plugin free

theorem register_settled (plugin : Plugin) : Keeps Settled (register catalogue plugin) := by
  intro e settled _
  let registry := (Registry.register catalogue plugin (e.lifecycle.registry, e.host)).2.1
  have registered : Settled (e.withRegistry registry) :=
    Registry.register_keeps (withRegistry_push_settled e) (fun _ _ _ => trivial) trivial _ _ settled
  exact registered.congr rfl rfl

theorem registerType_settled (type : String) : Keeps Settled (registerType catalogue type) := by
  intro e settled _
  let registry := (Registry.registerType catalogue type (e.lifecycle.registry, e.host)).2.1
  have registered : Settled (e.withRegistry registry) :=
    Registry.registerType_keeps (withRegistry_push_settled e) (fun _ _ _ => trivial) type _ _ settled
  exact registered.congr rfl rfl

theorem setUp_settled (name : String) (options : Options) :
    Keeps Settled (setUp dispatch name options) := by
  intro e settled ended
  have standing := setUp_standing name options e settled.standing ended
  cases known : e.lifecycle.registry.resolve name with
  | error failure =>
    rw [setUp_of_unknown known]
    exact settled
  | ok index =>
    rcases setUp_of_known dispatch options known with
      ⟨stalled, _⟩ | ⟨result, calls, _, recorded, setsUp⟩
    · exact absurd stalled ended
    · have advances := setsUp.advances
      have hooks : ∀ c ∈ calls, c.hook = .setUp := fun c member => (setsUp.called member).1
      apply settled.go standing recorded
      · intro c member
        rw [hooks c member]
        decide
      · rw [advances.running, List.append_nil]
      · rw [entries_of_hook hooks (by decide), List.filterMap_nil]
      · exact advances.members
      · exact fun sound => (setsUp.sound sound).1

theorem reload_settled : Keeps Settled (reload dispatch) := by
  intro e settled ended
  have standing := reload_standing e settled.standing ended
  rcases reload_reloads dispatch e with stalled | ⟨calls, h, ran, reloads⟩
  · exact absurd stalled ended
  · rw [ran] at standing ⊢
    have hooks : ∀ c ∈ calls, c.hook = .reload := fun c member => (reloads.called member).1
    apply settled.go standing rfl
    · intro c member
      rw [hooks c member]
      decide
    · exact (List.append_nil _).symm
    · rw [entries_of_hook hooks (by decide), List.filterMap_nil]
    · rfl
    · exact id

/-- If plugins do not change what they need, starting leaves a sound lifecycle. -/
theorem start_sound (sound : e.lifecycle.Sound) (ended : (start dispatch e).1 ≠ .stalled) :
    (start dispatch e).2.lifecycle.Sound := by
  rcases start_starts dispatch e sound with stalled | ⟨waiting, result, calls, waits, _, _, starts⟩
  · exact absurd stalled ended
  · exact starts.sound sound waits

theorem Launched.settled {replies : List Reply} (launched : Launched dispatch e replies after)
    (settled : e.Settled) (standing : after.Standing [])
    (sound : e.lifecycle.Sound → after.lifecycle.Sound) : after.Settled := by
  obtain ⟨started, running, replied⟩ := launched.running
  apply settled.go standing launched.calls
  · intro c member
    rw [hook_of_mem_calls member]
    decide
  · exact running
  · rw [entries_calls, numbers_eq replied]
  · exact launched.members
  · exact sound

theorem start_settled : Keeps Settled (start dispatch) := by
  intro e settled ended
  rcases start_launches dispatch e with ⟨stalled, _⟩ | ⟨replies, result, _, launched, _⟩
  · exact absurd stalled ended
  · exact launched.settled settled (start_standing e settled.standing ended)
      fun sound => start_sound sound ended

theorem stop_settled : Keeps Settled (stop dispatch) := by
  intro e settled ended
  have standing := (stop_standing settled.standing ended).2
  rcases stop_answers dispatch e settled.standing.once settled.standing.started with
    ⟨stalled, _⟩ | ⟨replies, h, _, _, recorded, plugins, empty⟩
  · exact absurd stalled ended
  · refine ⟨standing, ?_, ?_⟩
    · rw [empty, recorded, List.filterMap_nil]
      -- a tear-down that calls nobody leaves the record alone, but then nobody ran
      by_cases nobody : replies.flatMap (Reply.calls .stop) = []
      · have none_ : replies = [] := by
          cases replies with
          | nil => rfl
          | cons r rest => cases nobody
        have idle : e.lifecycle.running = [] := by
          rw [none_] at plugins
          exact List.reverse_eq_nil_iff.1 (List.forall₂_nil_right_iff.1 plugins)
        rw [nobody, List.append_nil, settled.since, idle, List.filterMap_nil]
      · rw [sinceStop_append_stops (fun c member => hook_of_mem_calls member) nobody]
        rfl
    · rw [empty]
      exact fun _ => .empty _

end Ensemble

end PluginHost
