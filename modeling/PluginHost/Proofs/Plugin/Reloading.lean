import PluginHost.Proofs.Plugin.Answers
import PluginHost.Proofs.Plugin.Standing

set_option autoImplicit false

namespace PluginHost

open Act (Leads Keeps)

namespace Lifecycle

/-- Whoever is in the order of setting up is there once, and past being registered. -/
structure Listed (l : Lifecycle) : Prop where
  once : l.initialized.Nodup
  past : ∀ i ∈ l.initialized, ∃ state, l.stateAt i = some state ∧ state ≠ .registered

namespace Listed

variable {l after : Lifecycle}

theorem of_none (none_ : l.initialized = []) : l.Listed where
  once := none_ ▸ List.nodup_nil
  past := by simp [none_]

theorem setState (listed : l.Listed) (index : Nat) {state : PluginState}
    (further : state ≠ .registered) : (l.setState index state).Listed where
  once := listed.once
  past i member := by
    obtain ⟨before, was, past⟩ := listed.past i member
    rw [stateAt_setState, was]
    split
    · exact ⟨state, rfl, further⟩
    · exact ⟨before, rfl, past⟩

theorem push (listed : l.Listed) (plugin : Plugin) :
    Listed { l with registry := l.registry.push plugin } where
  once := listed.once
  past i member := by
    obtain ⟨state, is, past⟩ := listed.past i member
    obtain ⟨slot, found, _⟩ := Option.map_eq_some_iff.1 is
    refine ⟨state, ?_, past⟩
    rw [stateAt_push l plugin (List.getElem?_eq_some_iff.1 found).1, is]

/-- Nobody who is registered is in the order. -/
theorem not_mem (listed : l.Listed) {index : Nat} (fresh : l.stateAt index = some .registered) :
    index ∉ l.initialized := by
  intro member
  obtain ⟨state, is, past⟩ := listed.past index member
  rw [fresh, Option.some.injEq] at is
  exact past is.symm

/-- Whoever joins the order was registered before. -/
theorem setsUp (listed : l.Listed) {visit : Visit} {calls : List Call}
    {result : Except Failure Unit} (setsUp : SetsUp visit l calls result after) :
    after.Listed := by
  induction setsUp with
  | absent | idle | nil | cycle => exact listed
  | unresolved => exact listed.setState _ (by decide)
  | blocked _ _ _ _ ih => exact ih (listed.setState _ (by decide))
  | failed _ _ _ _ ih => exact ih (listed.setState _ (by decide))
  | @done l after index _ _ _ _ found fresh _ visit ih =>
    have registered : l.stateAt index = some .registered := fresh ▸ stateAt_of_slot found
    have inner := ih (listed.setState index (by decide))
    have marked := visit.advances.stateAt_marked registered
    have absent : index ∉ after.initialized := by
      intro member
      rcases visit.advances.listed index member with old | ⟨was, _⟩
      · exact listed.not_mem registered old
      · rw [stateAt_mark registered] at was
        cases was
    constructor
    · refine List.nodup_append.2 ⟨inner.once, List.pairwise_singleton _ _, ?_⟩
      rintro i member j single rfl
      rw [List.mem_singleton.1 single] at member
      exact absent member
    · intro i member
      rcases List.mem_append.1 member with old | new
      · exact inner.past i old
      · rw [List.mem_singleton.1 new]
        exact ⟨.initialized, marked, by decide⟩
  | cut _ _ ih => exact ih listed
  | cons _ _ _ ihFirst ihOthers => exact ihOthers (ihFirst listed)

end Listed

end Lifecycle

namespace Ensemble

variable {dispatch : Dispatch} {catalogue : Catalogue}

/-- The order of setting up is as it should be. -/
def Listed (e : Ensemble) : Prop := e.lifecycle.Listed

theorem onHost_listed {α : Type} (act : Act Host α) : Keeps Listed (onHost act) :=
  fun _ listed _ => listed

theorem tell_listed (origin : Origin) (level : Level) (message : String)
    (fields : List (String × FieldValue)) : Keeps Listed (tell origin level message fields) :=
  onHost_listed _

theorem invoke_listed (slot : Slot) (hook : Hook) (code : Code) :
    Keeps Listed (invoke dispatch slot hook code) := by
  have records : ∀ call, Keeps Listed (record call) := fun _ => .modify fun _ listed => listed
  exact (records _).andThen fun _ => (onHost_listed _).andThen fun _ =>
    (records _).andThen fun _ => .pure _

theorem mark_listed (index : Nat) {state : PluginState} (further : state ≠ .registered) :
    Keeps Listed (changeLifecycle fun l => l.setState index state) :=
  .modify fun _ listed => Lifecycle.Listed.setState listed index further

theorem withRegistry_push_listed (e : Ensemble) (r : Registry) (plugin : Plugin)
    (listed : Listed (e.withRegistry r)) (_ : True) (_ : r.indexOf plugin.name = none) :
    Listed (e.withRegistry (r.push plugin)) :=
  Lifecycle.Listed.push listed plugin

theorem register_listed (plugin : Plugin) : Keeps Listed (register catalogue plugin) := by
  intro e listed _
  have registered : Listed (e.withRegistry
      (Registry.register catalogue plugin (e.lifecycle.registry, e.host)).2.1) :=
    Registry.register_keeps (withRegistry_push_listed e) (fun _ _ _ => trivial) trivial _ _ listed
  exact registered

theorem registerType_listed (type : String) : Keeps Listed (registerType catalogue type) := by
  intro e listed _
  have registered : Listed (e.withRegistry
      (Registry.registerType catalogue type (e.lifecycle.registry, e.host)).2.1) :=
    Registry.registerType_keeps (withRegistry_push_listed e) (fun _ _ _ => trivial) type _ _ listed
  exact registered

theorem setUp_listed (name : String) (options : Options) :
    Keeps Listed (setUp dispatch name options) := by
  intro e listed ended
  cases known : e.lifecycle.registry.resolve name with
  | error failure =>
    rw [setUp_of_unknown known]
    exact listed
  | ok index =>
    rcases setUp_of_known dispatch options known with ⟨stalled, _⟩ | ⟨_, _, _, _, setsUp⟩
    · exact absurd stalled ended
    · exact Lifecycle.Listed.setsUp listed setsUp

theorem forEach_listed {act : Nat → Act Ensemble (Except Failure Unit)}
    (keeps : ∀ i, Keeps Listed (act i)) (indices : List Nat) :
    Keeps Listed (forEach act indices) := by
  induction indices with
  | nil => exact .pure _
  | cons index rest ih =>
    refine (keeps index).andThen fun result => ?_
    cases result with
    | ok _ => exact ih
    | error e => exact .pure _

theorem callStart_listed (slot : Slot) (index : Nat) :
    Keeps Listed (callStart dispatch slot index) := by
  refine Leads.andThen (.modify fun e listed => ⟨listed.once, listed.past⟩) fun _ => ?_
  refine (tell_listed _ _ _ _).andThen fun _ => (invoke_listed _ _ _).andThen fun result => ?_
  cases result with
  | error e => exact (tell_listed _ _ _ _).andThen fun _ => .pure _
  | ok _ => exact .pure _

theorem startAt_listed (depth index : Nat) : Keeps Listed (startAt dispatch depth index) := by
  induction depth generalizing index with
  | zero => exact .stall
  | succ depth ih =>
    refine (Leads.look _).andThen fun found => ?_
    cases found with
    | none => exact .pure _
    | some slot =>
      dsimp only
      split
      · refine (mark_listed index (by decide)).andThen fun _ => ?_
        refine (Leads.look _).andThen fun needed => ?_
        cases needed with
        | error e => exact .pure _
        | ok needed =>
          refine (forEach_listed ih needed).andThen fun result => ?_
          cases result with
          | error e => exact .pure _
          | ok _ => exact callStart_listed slot index
      · exact .pure _

theorem start_listed : Keeps Listed (start dispatch) :=
  Leads.get.andThen fun _ => forEach_listed (startAt_listed _) _

theorem stopAt_listed (index : Nat) : Keeps Listed (stopAt dispatch index) := by
  refine (Leads.look _).andThen fun found => ?_
  cases found with
  | none => exact .pure _
  | some slot =>
    dsimp only
    split
    · refine (mark_listed index (by decide)).andThen fun _ => ?_
      refine (tell_listed _ _ _ _).andThen fun _ => (invoke_listed _ _ _).andThen fun result => ?_
      cases result with
      | error e => exact (tell_listed _ _ _ _).andThen fun _ => .pure _
      | ok _ => exact .pure _
    · exact .pure _

theorem stopAll_listed (indices : List Nat) : Keeps Listed (stopAll dispatch indices) := by
  induction indices with
  | nil => exact .pure _
  | cons index rest ih =>
    exact (stopAt_listed index).andThen fun _ => ih.andThen fun _ => .pure _

/-- After a tear-down nobody is in the order. -/
theorem stop_listed : Keeps Listed (stop dispatch) := by
  refine (Leads.look _).andThen fun order => ?_
  refine Leads.andThen (.modify fun e listed => ⟨listed.once, listed.past⟩) fun _ => ?_
  refine (stopAll_listed _).andThen fun result => ?_
  have empties : Leads Listed (fun e : Ensemble => e.lifecycle.initialized = [])
      (changeLifecycle fun l => { l with initialized := [] }) := .modify fun _ _ => rfl
  refine empties.bindReturned (fun _ => ⟨(), rfl⟩) fun _ => ?_
  refine Leads.bindReturned (.modify fun e none_ => ?_) (fun _ => ⟨(), rfl⟩) fun _ => .pure _
  exact Lifecycle.Listed.of_none none_

theorem reload_listed : Keeps Listed (reload dispatch) := by
  intro e listed ended
  rcases reload_reloads dispatch e with stalled | ⟨calls, h, ran, _⟩
  · exact absurd stalled ended
  · rw [ran]
    exact listed

end Ensemble

/-- A plugin is asked to reload, and the journal is told if it fails. -/
def Plugin.reloaded (dispatch : Dispatch) (p : Plugin) : Act Host (Except Failure Json) := do
  let answer ← Act.guarded ("plugin '" ++ p.name ++ "' " ++ Hook.reload.word) (dispatch p.reload)
  match answer with
  | .error failure =>
    Act.modify fun h => h.tell .lifecycle .warn "Plugin SIGHUP handler failed"
      [("plugin", .text p.name), ("error", .text failure.display)]
    pure answer
  | .ok _ => pure answer

/-- The plugins at some places are asked to reload one after the other, and each of them answers,
until somebody asks to quit. -/
inductive Heard (dispatch : Dispatch) (r : Registry) :
    Host → List Nat → List Reply → Host → Prop
  | nil (h : Host) : Heard dispatch r h [] [] h
  | quits {h : Host} (order : List Nat) (quitting : h.control.quitting = true) :
      Heard dispatch r h order [] h
  | cons {h between last : Host} {index : Nat} {order : List Nat} {reply : Reply}
      {replies : List Reply} (going : h.control.quitting = false) (own : reply.At r index)
      (asked : reply.plugin.reloaded dispatch h = (.returned reply.answer, between))
      (rest : Heard dispatch r between order replies last) :
      Heard dispatch r h (index :: order) (reply :: replies) last

namespace Heard

variable {dispatch : Dispatch} {r : Registry} {h last : Host} {order : List Nat}
  {replies : List Reply}

/-- Nobody else is asked, nobody is left out in between, and nobody is asked twice. -/
theorem plugins (heard : Heard dispatch r h order replies last) :
    List.Forall₂ (Reply.At r) (order.take replies.length) replies := by
  induction heard with
  | nil => exact .nil
  | quits => exact .nil
  | cons _ own _ _ ih => exact .cons own ih

/-- Only a request to quit keeps those at the end of the order from being asked. -/
theorem quitting (heard : Heard dispatch r h order replies last)
    (fewer : replies.length < order.length) : last.control.quitting = true := by
  induction heard with
  | nil => exact absurd fewer (Nat.lt_irrefl _)
  | quits _ quitting => exact quitting
  | cons _ _ _ _ ih => exact ih (Nat.lt_of_succ_lt_succ fewer)

end Heard

namespace Ensemble

/-- What asking a plugin to reload comes to. -/
theorem reloadAll_cons (dispatch : Dispatch) {index : Nat} (rest : List Nat) {slot : Slot}
    {e : Ensemble} (going : e.host.control.quitting = false)
    (found : e.lifecycle.registry.slots[index]? = some slot)
    (past : slot.state ≠ .registered) :
    ((reloadAll dispatch (index :: rest) e).1 = .stalled ∧
      Stuck .reload e (reloadAll dispatch (index :: rest) e).2 ∧
      (reloadAll dispatch (index :: rest) e).2.lifecycle = e.lifecycle) ∨
    ∃ answer h, slot.plugin.reloaded dispatch e.host = (.returned answer, h) ∧
      reloadAll dispatch (index :: rest) e = reloadAll dispatch rest
        { e with host := h, calls := e.calls ++ slot.called .reload answer.toBool } := by
  rw [reloadAll, Act.bind_of_returned (a := e) rfl, going, if_neg (by decide)]
  simp only [Act.get_apply, found, if_neg past]
  rcases Act.guarded_cases ("plugin '" ++ slot.plugin.name ++ "' " ++ Hook.reload.word)
    (dispatch slot.plugin.reload) e.host with ⟨answer, came⟩ | stalled
  · right
    have called : invoke dispatch slot .reload slot.plugin.reload e = (.returned answer,
        { e with
          host := (Act.guarded ("plugin '" ++ slot.plugin.name ++ "' " ++ Hook.reload.word)
            (dispatch slot.plugin.reload) e.host).2
          calls := e.calls ++ slot.called .reload answer.toBool }) := by
      simp only [invoke, Act.bind_apply, record, Act.modify_apply, onHost, Act.within, came,
        Act.pure_apply, Slot.called, List.append_assoc, List.cons_append, List.nil_append]
    rw [Act.bind_of_returned (a := answer) (by rw [called]), called, Plugin.reloaded,
      Act.bind_of_returned came]
    cases answer with
    | error failure => exact ⟨_, _, rfl, rfl⟩
    | ok value => exact ⟨_, _, rfl, rfl⟩
  · left
    have never : (invoke dispatch slot .reload slot.plugin.reload e).1 = .stalled ∧
        (invoke dispatch slot .reload slot.plugin.reload e).2.calls =
          e.calls ++ [.entered slot.serial .reload] ∧
        (invoke dispatch slot .reload slot.plugin.reload e).2.lifecycle = e.lifecycle := by
      simp only [invoke, Act.bind_apply, record, Act.modify_apply, onHost, Act.within, stalled,
        and_self]
    obtain ⟨stalled, recorded, same⟩ := never
    obtain ⟨ended, kept⟩ := Act.bind_stalled stalled _
    exact ⟨ended, ⟨[], slot.serial, by rw [kept, recorded]; rfl⟩, by rw [kept, same]⟩

/-- Plugins that are past being registered are asked to reload in turn. It goes on for ever only in
such a call, and the lifecycle stays as it was. -/
theorem reloadAll_heard (dispatch : Dispatch) (order : List Nat) (e : Ensemble)
    (past : ∀ i ∈ order, ∃ state, e.lifecycle.stateAt i = some state ∧ state ≠ .registered) :
    ((reloadAll dispatch order e).1 = .stalled ∧ Stuck .reload e (reloadAll dispatch order e).2 ∧
      (reloadAll dispatch order e).2.lifecycle = e.lifecycle) ∨
    ∃ replies last, reloadAll dispatch order e = (.returned (),
        { e with host := last, calls := e.calls ++ replies.flatMap (Reply.calls .reload) }) ∧
      Heard dispatch e.lifecycle.registry e.host order replies last := by
  induction order generalizing e with
  | nil => exact .inr ⟨[], e.host, by simp [reloadAll], .nil _⟩
  | cons index rest ih =>
    cases quitting : e.host.control.quitting with
    | true =>
      refine .inr ⟨[], e.host, ?_, .quits _ quitting⟩
      simp [reloadAll, Act.bind_apply, quitting]
    | false =>
      obtain ⟨first, later⟩ := List.forall_mem_cons.1 past
      obtain ⟨state, is, further⟩ := first
      obtain ⟨slot, found, rfl⟩ := Option.map_eq_some_iff.1 is
      rcases reloadAll_cons dispatch rest quitting found further with
        never | ⟨answer, h, asked, same⟩
      · exact .inl never
      · have own : Reply.At e.lifecycle.registry index ⟨slot.serial, slot.plugin, answer⟩ := by
          simp [Reply.At, Registry.members, found]
        rw [same]
        rcases ih { e with host := h, calls := e.calls ++ slot.called .reload answer.toBool } later
          with ⟨stalled, stuck, kept⟩ | ⟨replies, last, ran, heard⟩
        · exact .inl ⟨stalled, stuck.trans rfl, kept⟩
        · refine .inr ⟨⟨slot.serial, slot.plugin, answer⟩ :: replies, last, ?_,
            .cons quitting own asked heard⟩
          rw [ran, List.flatMap_cons, ← List.append_assoc]
          rfl

end Ensemble

end PluginHost
