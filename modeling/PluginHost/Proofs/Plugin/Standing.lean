import PluginHost.Proofs.Leads
import PluginHost.Proofs.Plugin.Underway

set_option autoImplicit false

namespace PluginHost

open Act (Leads Keeps)

namespace Ensemble

/-- Plugins that run are started ones, each of them once, and nobody who is there was called to stop
yet. Some plugins may be about to start: they wait for what they need. -/
structure Standing (awaited : List Nat) (e : Ensemble) : Prop where
  numbered : e.lifecycle.registry.Numbered
  once : e.lifecycle.running.Nodup
  started : ∀ i ∈ e.lifecycle.running, e.lifecycle.stateAt i = some .started
  awaited : ∀ i ∈ awaited, e.lifecycle.stateAt i = some .started ∧ i ∉ e.lifecycle.running
  stopsOnce : (entries .stop e.calls).Nodup
  gone : ∀ p ∈ entries .stop e.calls, p < e.lifecycle.registry.issued ∧
    ∀ i, e.lifecycle.registry.serialAt i ≠ some p

variable {dispatch : Dispatch} {catalogue : Catalogue} {awaited : List Nat} {e after : Ensemble}

namespace Standing

theorem fresh (h : Host) : Standing [] { host := h } where
  numbered := .empty 0
  once := List.nodup_nil
  started := by simp
  awaited := by simp
  stopsOnce := List.nodup_nil
  gone := by simp [entries]

theorem congr (standing : e.Standing awaited) (lifecycle : after.lifecycle = e.lifecycle)
    (stops : entries .stop after.calls = entries .stop e.calls) : after.Standing awaited := by
  obtain ⟨numbered, once, started, waiting, stopsOnce, gone⟩ := standing
  constructor <;> simp only [lifecycle, stops] <;> assumption

theorem forget {index : Nat} (standing : e.Standing (index :: awaited)) : e.Standing awaited :=
  { standing with awaited := fun i member => standing.awaited i (List.mem_cons_of_mem _ member) }

theorem ne_of_started {index i : Nat} {before : PluginState}
    (was : e.lifecycle.stateAt index = some before) (fresh : before ≠ .started)
    (started : e.lifecycle.stateAt i = some .started) : index ≠ i := by
  rintro rfl
  rw [was, Option.some.injEq] at started
  exact fresh started

/-- A plugin that is not started moves on. -/
theorem mark (standing : e.Standing awaited) {index : Nat} {before : PluginState}
    (was : e.lifecycle.stateAt index = some before) (fresh : before ≠ .started)
    (state : PluginState) :
    Standing awaited { e with lifecycle := e.lifecycle.setState index state } := by
  have kept : ∀ i, e.lifecycle.stateAt i = some .started →
      (e.lifecycle.setState index state).stateAt i = some .started := by
    intro i is
    rw [Lifecycle.stateAt_setState, if_neg (ne_of_started was fresh is)]
    exact is
  have members := Registry.members_setState e.lifecycle.registry index state
  constructor
  · exact standing.numbered.congr members rfl
  · exact standing.once
  · exact fun i member => kept i (standing.started i member)
  · intro i member
    obtain ⟨started, apart⟩ := standing.awaited i member
    exact ⟨kept i started, apart⟩
  · exact standing.stopsOnce
  · intro p member
    obtain ⟨issued, absent⟩ := standing.gone p member
    refine ⟨issued, fun i is => absent i ?_⟩
    rw [← is]
    exact (Registry.serialAt_congr members i).symm

/-- A plugin that moves to the state of a started one is awaited from then on. -/
theorem await (standing : e.Standing awaited) {index : Nat} {before : PluginState}
    (was : e.lifecycle.stateAt index = some before) (fresh : before ≠ .started) :
    Standing (index :: awaited)
      { e with lifecycle := e.lifecycle.setState index .started } := by
  have marked := standing.mark was fresh .started
  refine { marked with awaited := fun i member => ?_ }
  obtain rfl | member := List.mem_cons.1 member
  · constructor
    · rw [Lifecycle.stateAt_setState, if_pos rfl, was, Option.map_some]
    · exact fun runs => ne_of_started was fresh (standing.started i runs) rfl
  · exact marked.awaited i member

/-- Who was awaited joins the running ones. -/
theorem join {index : Nat} (standing : e.Standing (index :: awaited))
    (elsewhere : index ∉ awaited) :
    Standing awaited { e with
      lifecycle := { e.lifecycle with running := e.lifecycle.running ++ [index] } } := by
  obtain ⟨own, idle⟩ := standing.awaited index List.mem_cons_self
  constructor
  · exact standing.numbered
  · have apart : ∀ i ∈ e.lifecycle.running, ∀ j ∈ [index], i ≠ j := by
      intro i member j single same
      rw [same, List.mem_singleton.1 single] at member
      exact idle member
    exact List.nodup_append.2 ⟨standing.once, List.pairwise_singleton _ _, apart⟩
  · intro i member
    obtain old | new := List.mem_append.1 member
    · exact standing.started i old
    · rw [List.mem_singleton.1 new]
      exact own
  · intro i member
    obtain ⟨started, apart⟩ := standing.awaited i (List.mem_cons_of_mem _ member)
    refine ⟨started, fun runs => ?_⟩
    obtain old | new := List.mem_append.1 runs
    · exact apart old
    · rw [List.mem_singleton.1 new] at member
      exact elsewhere member
  · exact standing.stopsOnce
  · exact standing.gone

/-- A further plugin takes nothing away. -/
theorem push (standing : e.Standing []) (plugin : Plugin) :
    Standing [] { e with
      lifecycle := { e.lifecycle with registry := e.lifecycle.registry.push plugin } } where
  numbered := standing.numbered.push plugin
  once := standing.once
  started i member := by
    have started := standing.started i member
    obtain ⟨slot, found, _⟩ := Option.map_eq_some_iff.1 started
    have inside := (List.getElem?_eq_some_iff.1 found).1
    exact (Lifecycle.stateAt_push e.lifecycle plugin inside).trans started
  awaited := by simp
  stopsOnce := standing.stopsOnce
  gone p member := by
    obtain ⟨issued, absent⟩ := standing.gone p member
    refine ⟨Nat.lt_succ_of_lt issued, fun i is => ?_⟩
    obtain old | ⟨_, new⟩ := Registry.serialAt_push _ _ is
    · exact absent i old
    · omega

end Standing

theorem record_standing {call : Call} (other : call.hook ≠ .stop) :
    Keeps (Standing awaited) (record call) := by
  apply Leads.modify
  intro e standing
  have none : entries .stop [call] = [] := entries_of_hook (by simp) other
  have stops : entries .stop (e.calls ++ [call]) = entries .stop e.calls := by
    rw [entries_append, none, List.append_nil]
  exact Standing.congr standing rfl stops

theorem onHost_standing {α : Type} (act : Act Host α) : Keeps (Standing awaited) (onHost act) :=
  fun _ standing _ => standing.congr rfl rfl

theorem tell_standing (origin : Origin) (level : Level) (message : String)
    (fields : List (String × FieldValue)) :
    Keeps (Standing awaited) (tell origin level message fields) := onHost_standing _

theorem invoke_standing (slot : Slot) {hook : Hook} (other : hook ≠ .stop) (code : Code) :
    Keeps (Standing awaited) (invoke dispatch slot hook code) := by
  have entered : Keeps (Standing awaited) (record (.entered slot.serial hook)) :=
    record_standing other
  have left : ∀ succeeded, Keeps (Standing awaited) (record (.left slot.serial hook succeeded)) :=
    fun _ => record_standing other
  refine entered.andThen fun _ => (onHost_standing _).andThen fun result => ?_
  exact (left _).andThen fun _ => .pure _

theorem reloadAll_standing (indices : List Nat) :
    Keeps (Standing awaited) (reloadAll dispatch indices) := by
  induction indices with
  | nil => exact .pure _
  | cons index rest ih =>
    refine Leads.get.andThen fun e => ?_
    split
    · exact .pure _
    · split
      · exact ih
      · split
        · exact ih
        · refine (invoke_standing _ (by decide) _).andThen fun result => ?_
          cases result with
          | ok value => exact ih
          | error failure => exact (tell_standing _ _ _ _).andThen fun _ => ih

theorem reload_standing : Keeps (Standing awaited) (reload dispatch) :=
  (Leads.look _).andThen fun _ => reloadAll_standing _

theorem setUpDependencies_standing {setUp : Nat → Act Ensemble (Except Failure Unit)}
    (keeps : ∀ i, Keeps (Standing awaited) (setUp i)) (index : Nat) (needed : List Nat) :
    Keeps (Standing awaited) (setUpDependencies setUp index needed) := by
  induction needed with
  | nil => exact .pure _
  | cons d rest ih =>
    refine (Leads.look _).andThen fun l => ?_
    split
    · exact .pure _
    · refine (keeps d).andThen fun result => ?_
      cases result with
      | ok _ => exact ih
      | error e => exact .pure _

theorem callSetUp_standing (options : Options) (slot : Slot) (index : Nat) :
    Keeps (Standing awaited) (callSetUp dispatch options slot index) := by
  refine (tell_standing _ _ _ _).andThen fun _ => ?_
  refine (invoke_standing slot (by decide) _).andThen fun result => ?_
  cases result with
  | error e => exact (tell_standing _ _ _ _).andThen fun _ => .pure _
  | ok _ =>
    exact Leads.andThen (.modify fun e standing => { standing with }) fun _ => .pure _

theorem setUpAt_standing (options : Options) (depth index : Nat) :
    Keeps (Standing awaited) (setUpAt dispatch options depth index) := by
  induction depth generalizing index with
  | zero => exact .stall
  | succ depth ih =>
    intro e standing ended
    rw [setUpAt, Act.bind_of_returned (a := e.lifecycle.registry.slots[index]?) rfl] at ended ⊢
    cases found : e.lifecycle.registry.slots[index]? with
    | none =>
      simp only [found] at ended ⊢
      exact standing
    | some slot =>
      simp only [found] at ended ⊢
      by_cases fresh : slot.state = .registered
      · rw [if_pos fresh] at ended ⊢
        have was : e.lifecycle.stateAt index = some .registered :=
          fresh ▸ Lifecycle.stateAt_of_slot found
        have marked := standing.mark was (by decide) .initialized
        rw [Act.bind_of_returned (a := ()) rfl] at ended ⊢
        refine Leads.andThen (.look _) (fun needed => ?_) _ marked ended
        cases needed with
        | error e => exact .pure _
        | ok needed =>
          refine (setUpDependencies_standing ih index needed).andThen fun result => ?_
          cases result with
          | error e => exact .pure _
          | ok _ => exact callSetUp_standing options slot index
      · rw [if_neg fresh] at ended ⊢
        exact standing

theorem setUp_standing (name : String) (options : Options) :
    Keeps (Standing awaited) (setUp dispatch name options) := by
  refine Leads.get.andThen fun e => ?_
  split
  · exact .pure _
  · exact setUpAt_standing _ _ _

theorem forEach_standing {act : Nat → Act Ensemble (Except Failure Unit)}
    (keeps : ∀ i, Keeps (Standing awaited) (act i)) (indices : List Nat) :
    Keeps (Standing awaited) (forEach act indices) := by
  induction indices with
  | nil => exact .pure _
  | cons index rest ih =>
    refine (keeps index).andThen fun result => ?_
    cases result with
    | ok _ => exact ih
    | error e => exact .pure _

theorem callStart_standing (slot : Slot) {index : Nat} (elsewhere : index ∉ awaited) :
    Leads (Standing (index :: awaited)) (Standing awaited) (callStart dispatch slot index) := by
  have joins : Leads (Standing (index :: awaited)) (Standing awaited)
      (changeLifecycle fun l => { l with running := l.running ++ [index] }) :=
    .modify fun e standing => standing.join elsewhere
  refine joins.bind (fun _ => ?_) fun _ standing => standing
  refine (tell_standing _ _ _ _).andThen fun _ => ?_
  refine (invoke_standing slot (by decide) _).andThen fun result => ?_
  cases result with
  | error e => exact (tell_standing _ _ _ _).andThen fun _ => .pure _
  | ok _ => exact .pure _

theorem startAt_standing (depth index : Nat) :
    Keeps (Standing awaited) (startAt dispatch depth index) := by
  induction depth generalizing awaited index with
  | zero => exact .stall
  | succ depth ih =>
    intro e standing ended
    rw [startAt, Act.bind_of_returned (a := e.lifecycle.registry.slots[index]?) rfl] at ended ⊢
    cases found : e.lifecycle.registry.slots[index]? with
    | none =>
      simp only [found] at ended ⊢
      exact standing
    | some slot =>
      simp only [found] at ended ⊢
      by_cases fresh : slot.state = .initialized
      · rw [if_pos fresh] at ended ⊢
        have was : e.lifecycle.stateAt index = some .initialized :=
          fresh ▸ Lifecycle.stateAt_of_slot found
        have elsewhere : index ∉ awaited := fun member =>
          Standing.ne_of_started was (by decide) (standing.awaited index member).1 rfl
        have forgets : ∀ s, Standing (index :: awaited) s → Standing awaited s :=
          fun _ standing => standing.forget
        rw [Act.bind_of_returned (a := ()) rfl] at ended ⊢
        have waits := standing.await was (by decide)
        refine Leads.bind (.look _) (fun needed => ?_) forgets _ waits ended
        cases needed with
        | error e => exact (Leads.pure _).imp forgets
        | ok needed =>
          refine (forEach_standing ih needed).bind (fun result => ?_) forgets
          cases result with
          | error e => exact (Leads.pure _).imp forgets
          | ok _ => exact callStart_standing slot elsewhere
      · rw [if_neg fresh] at ended ⊢
        exact standing

theorem start_standing : Keeps (Standing awaited) (start dispatch) :=
  Leads.get.andThen fun _ => forEach_standing (startAt_standing _) _

def withRegistry (e : Ensemble) (r : Registry) : Ensemble :=
  { e with lifecycle := { e.lifecycle with registry := r } }

theorem withRegistry_push (e : Ensemble) (r : Registry) (plugin : Plugin)
    (standing : Standing [] (e.withRegistry r)) (_ : True) (_ : r.indexOf plugin.name = none) :
    Standing [] (e.withRegistry (r.push plugin)) := standing.push plugin

theorem register_standing (plugin : Plugin) :
    Keeps (Standing []) (register catalogue plugin) := by
  intro e standing _
  let registry := (Registry.register catalogue plugin (e.lifecycle.registry, e.host)).2.1
  have registered : Standing [] (e.withRegistry registry) :=
    Registry.register_keeps (withRegistry_push e) (fun _ _ _ => trivial) trivial _ _ standing
  exact registered.congr rfl rfl

theorem registerType_standing (type : String) :
    Keeps (Standing []) (registerType catalogue type) := by
  intro e standing _
  let registry := (Registry.registerType catalogue type (e.lifecycle.registry, e.host)).2.1
  have registered : Standing [] (e.withRegistry registry) :=
    Registry.registerType_keeps (withRegistry_push e) (fun _ _ _ => trivial) type _ _ standing
  exact registered.congr rfl rfl

/-- The plugins that run, the last one to start first. -/
def fallingOrder (l : Lifecycle) : List Nat := l.running.reverse.filterMap l.registry.serialAt

/-- Nothing runs any more, and whatever ran was called to stop once, in the reverse order of
starting. -/
structure Stopped (first e : Ensemble) : Prop where
  idle : e.lifecycle.running = []
  stops : entries .stop e.calls = entries .stop first.calls ++ fallingOrder first.lifecycle
  once : (entries .stop e.calls).Nodup

theorem fallingOrder_nodup (standing : e.Standing awaited) : (fallingOrder e.lifecycle).Nodup := by
  apply List.Nodup.filterMap _ (List.nodup_reverse.2 standing.once)
  intro i j p is js
  exact standing.numbered.distinct i j p is js

theorem stop_standing {e : Ensemble} (standing : e.Standing [])
    (ended : (stop dispatch e).1 ≠ .stalled) :
    Stopped e (stop dispatch e).2 ∧ Standing [] (stop dispatch e).2 := by
  rcases stop_stops_of_started dispatch e standing.once standing.started with
    stalled | ⟨_, calls, _, recorded, stops, empty⟩
  · exact absurd stalled ended
  · have all : entries .stop (stop dispatch e).2.calls =
        entries .stop e.calls ++ fallingOrder e.lifecycle := by
      rw [recorded, entries_append, stops.entries, fallingOrder]
    have present : ∀ p ∈ fallingOrder e.lifecycle,
        ∃ i, e.lifecycle.registry.serialAt i = some p := by
      intro p member
      obtain ⟨i, _, is⟩ := List.mem_filterMap.1 member
      exact ⟨i, is⟩
    have apart : ∀ p ∈ entries .stop e.calls, ∀ q ∈ fallingOrder e.lifecycle, p ≠ q := by
      rintro p old q new rfl
      obtain ⟨i, is⟩ := present p new
      exact (standing.gone p old).2 i is
    have once : (entries .stop (stop dispatch e).2.calls).Nodup := by
      rw [all]
      exact List.nodup_append.2 ⟨standing.stopsOnce, fallingOrder_nodup standing, apart⟩
    refine ⟨⟨by rw [empty], all, once⟩, ?_⟩
    constructor
    · rw [empty]
      exact .empty _
    · rw [empty]
      exact List.nodup_nil
    · rw [empty]
      simp
    · simp
    · exact once
    · intro p member
      rw [empty]
      rw [all] at member
      obtain old | new := List.mem_append.1 member
      · exact ⟨(standing.gone p old).1, by simp [Registry.serialAt]⟩
      · obtain ⟨i, is⟩ := present p new
        exact ⟨standing.numbered.issued i p is, by simp [Registry.serialAt]⟩

end Ensemble

end PluginHost
