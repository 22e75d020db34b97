import PluginHost.Proofs.Plugin.Life

set_option autoImplicit false

namespace PluginHost

/-- A kind of call: what is told before it and after a failure, and the code that is run. -/
structure Manner where
  hook : Hook
  before : String
  failed : String
  code : Plugin → Code

namespace Manner

def starting : Manner := ⟨.start, "Starting plugin", "Plugin startup failed", Plugin.start⟩

def stopping : Manner := ⟨.stop, "Shutting down plugin", "Plugin shutdown failed", Plugin.stop⟩

def report (m : Manner) (plugin : Plugin) (h : Host) : Except Failure Json → Host
  | .error e =>
    h.tell .lifecycle .error m.failed [("plugin", .text plugin.name), ("error", .text e.display)]
  | .ok _ => h

/-- A call of a plugin as the host lives through it. -/
def call (m : Manner) (dispatch : Dispatch) (plugin : Plugin) :
    Act Host (Except Failure Json) := do
  Act.modify fun h => h.tell .lifecycle .info m.before [("plugin", .text plugin.name)]
  let answer ← Act.guarded ("plugin '" ++ plugin.name ++ "' " ++ m.hook.word)
    (dispatch (m.code plugin))
  Act.modify fun h => m.report plugin h answer
  pure answer

end Manner

/-- A plugin that was called, its number, and what it answered. -/
structure Reply where
  number : Nat
  plugin : Plugin
  answer : Except Failure Json

namespace Reply

/-- It is the plugin at that place of the registry that replied. -/
def At (r : Registry) (index : Nat) (reply : Reply) : Prop :=
  r.members[index]? = some (reply.number, reply.plugin)

def calls (hook : Hook) (r : Reply) : List Call :=
  [.entered r.number hook, .left r.number hook r.answer.toBool]

def Fine (r : Reply) : Prop := ∃ value, r.answer = .ok value

end Reply

def firstFailure : List Reply → Except Failure Unit
  | [] => .ok ()
  | r :: rest =>
    match r.answer with
    | .error e => .error e
    | .ok _ => firstFailure rest

/-- Plugins are called one after the other, and each of them answers. -/
inductive Answers (dispatch : Dispatch) (m : Manner) : Host → List Reply → Host → Prop
  | nil (h : Host) : Answers dispatch m h [] h
  | cons {h between last : Host} {number : Nat} {plugin : Plugin}
      {answer : Except Failure Json} {replies : List Reply}
      (first : m.call dispatch plugin h = (.returned answer, between))
      (rest : Answers dispatch m between replies last) :
      Answers dispatch m h (⟨number, plugin, answer⟩ :: replies) last

variable {dispatch : Dispatch} {m : Manner}

theorem Answers.append {h between last : Host} {replies later : List Reply}
    (first : Answers dispatch m h replies between) (rest : Answers dispatch m between later last) :
    Answers dispatch m h (replies ++ later) last := by
  induction first with
  | nil => exact rest
  | cons answered _ ih => exact .cons answered (ih rest)

/-- The record tells who was called. -/
theorem entries_calls (hook : Hook) (replies : List Reply) :
    entries hook (replies.flatMap (Reply.calls hook)) = replies.map Reply.number := by
  induction replies with
  | nil => rfl
  | cons r rest ih =>
    have own : entries hook (r.calls hook) = [r.number] := by
      simp [entries, Reply.calls, Call.begins]
    rw [List.flatMap_cons, entries_append, ih, own]
    rfl

theorem hook_of_mem_calls {hook : Hook} {replies : List Reply} {c : Call}
    (member : c ∈ replies.flatMap (Reply.calls hook)) : c.hook = hook := by
  obtain ⟨r, _, called⟩ := List.mem_flatMap.1 member
  simp only [Reply.calls, List.mem_cons, List.not_mem_nil, or_false] at called
  rcases called with rfl | rfl <;> rfl

theorem mem_members_of_at {r : Registry} {replies : List Reply} {order : List Nat}
    (called : List.Forall₂ (Reply.At r) order replies) :
    ∀ reply ∈ replies, (reply.number, reply.plugin) ∈ r.members := by
  induction called with
  | nil => exact fun reply none => absurd none List.not_mem_nil
  | cons is _ ih => exact List.forall_mem_cons.2 ⟨List.mem_of_getElem? is, ih⟩

theorem numbers_eq {r : Registry} {replies : List Reply} {order : List Nat}
    (called : List.Forall₂ (Reply.At r) order replies) :
    replies.map Reply.number = order.filterMap r.serialAt := by
  induction called with
  | nil => rfl
  | @cons index reply _ _ is _ ih =>
    have number : r.serialAt index = some reply.number := by
      rw [Registry.serialAt_eq, is]
      rfl
    rw [List.filterMap_cons_some number, List.map_cons, ih]

namespace Ensemble

def announced (m : Manner) (dispatch : Dispatch) (slot : Slot) :
    Act Ensemble (Except Failure Unit) := do
  tell .lifecycle .info m.before [("plugin", .text slot.plugin.name)]
  match ← invoke dispatch slot m.hook (m.code slot.plugin) with
  | .error e =>
    tell .lifecycle .error m.failed
      [("plugin", .text slot.plugin.name), ("error", .text e.display)]
    pure (.error e)
  | .ok _ => pure (.ok ())

/-- A call goes on for ever, or it answers and leaves the lifecycle alone. -/
theorem announced_cases (m : Manner) (dispatch : Dispatch) (slot : Slot) (e : Ensemble) :
    ((announced m dispatch slot e).1 = .stalled ∧
      (announced m dispatch slot e).2.calls = e.calls ++ [.entered slot.serial m.hook]) ∨
    ∃ answer h, m.call dispatch slot.plugin e.host = (.returned answer, h) ∧
      announced m dispatch slot e = (.returned (answer.map fun _ => ()),
        { e with host := h, calls := e.calls ++ slot.called m.hook answer.toBool }) := by
  let told := e.host.tell .lifecycle .info m.before [("plugin", .text slot.plugin.name)]
  rw [announced, Act.bind_of_returned (a := ()) rfl]
  generalize spoken : (tell .lifecycle .info m.before _ e).2 = e'
  have same : e' = { e with host := told } := spoken.symm
  rcases Act.guarded_cases ("plugin '" ++ slot.plugin.name ++ "' " ++ m.hook.word)
    (dispatch (m.code slot.plugin)) told with ⟨answer, came⟩ | stalled
  · right
    have answered : m.call dispatch slot.plugin e.host = (.returned answer,
        m.report slot.plugin (Act.guarded ("plugin '" ++ slot.plugin.name ++ "' " ++ m.hook.word)
          (dispatch (m.code slot.plugin)) told).2 answer) := by
      rw [Manner.call, Act.bind_of_returned (a := ()) rfl]
      exact Act.bind_of_returned (s := told) came
    have called : invoke dispatch slot m.hook (m.code slot.plugin) e' = (.returned answer,
        { e with
          host := (Act.guarded ("plugin '" ++ slot.plugin.name ++ "' " ++ m.hook.word)
            (dispatch (m.code slot.plugin)) told).2
          calls := e.calls ++ slot.called m.hook answer.toBool }) := by
      simp only [same, invoke, Act.bind_apply, record, Act.modify_apply, onHost, Act.within, came,
        Act.pure_apply, Slot.called, List.append_assoc, List.cons_append, List.nil_append]
    refine ⟨answer, _, answered, ?_⟩
    rw [Act.bind_of_returned (a := answer) (by rw [called]), called]
    cases answer <;> rfl
  · left
    have never : (invoke dispatch slot m.hook (m.code slot.plugin) e').1 = .stalled ∧
        (invoke dispatch slot m.hook (m.code slot.plugin) e').2.calls =
          e.calls ++ [.entered slot.serial m.hook] := by
      simp only [same, invoke, Act.bind_apply, record, Act.modify_apply, onHost, Act.within,
        stalled, and_self]
    obtain ⟨stalled, kept⟩ := Act.bind_stalled never.1 _
    exact ⟨stalled, by rw [kept, never.2]⟩

/-- Plugins of the registry were called in turn, and each of them answered. -/
structure Called (dispatch : Dispatch) (m : Manner) (e : Ensemble) (replies : List Reply)
    (after : Ensemble) : Prop where
  answers : Answers dispatch m e.host replies after.host
  calls : after.calls = e.calls ++ replies.flatMap (Reply.calls m.hook)
  members : after.lifecycle.registry.members = e.lifecycle.registry.members
  enrolled : ∀ r ∈ replies, (r.number, r.plugin) ∈ e.lifecycle.registry.members

/-- Plugins were called in turn, and after all who answered there was one more whose call goes on
for ever. -/
def Endless (dispatch : Dispatch) (m : Manner) (e : Ensemble) (replies : List Reply)
    (after : Ensemble) : Prop :=
  ∃ (middle : Ensemble) (number : Nat) (plugin : Plugin), Called dispatch m e replies middle ∧
    (number, plugin) ∈ e.lifecycle.registry.members ∧
    (m.call dispatch plugin middle.host).1 = .stalled ∧
    after.calls = middle.calls ++ [.entered number m.hook]

section Calling

variable {e middle after : Ensemble} {replies later : List Reply}

namespace Called

theorem refl (e : Ensemble) : Called dispatch m e [] e where
  answers := .nil _
  calls := (List.append_nil _).symm
  members := rfl
  enrolled := by simp

theorem trans (first : Called dispatch m e replies middle)
    (second : Called dispatch m middle later after) :
    Called dispatch m e (replies ++ later) after where
  answers := first.answers.append second.answers
  calls := by rw [second.calls, first.calls, List.flatMap_append, List.append_assoc]
  members := second.members.trans first.members
  enrolled r member := by
    rcases List.mem_append.1 member with old | new
    · exact first.enrolled r old
    · exact first.members ▸ second.enrolled r new

theorem endless (first : Called dispatch m e replies middle)
    (second : Endless dispatch m middle later after) :
    Endless dispatch m e (replies ++ later) after := by
  obtain ⟨last, number, plugin, called, there, stalled, recorded⟩ := second
  exact ⟨last, number, plugin, first.trans called, first.members ▸ there, stalled, recorded⟩

/-- Who is in which state, and in which order, is not seen by the plugins that are called. -/
theorem relabel (called : Called dispatch m e replies after) {l : Lifecycle}
    (members : l.registry.members = after.lifecycle.registry.members) :
    Called dispatch m e replies { after with lifecycle := l } where
  answers := called.answers
  calls := called.calls
  members := members.trans called.members
  enrolled := called.enrolled

end Called

/-- A call that goes on for ever does so on the host. -/
theorem announced_stalled {slot : Slot} (stalled : (announced m dispatch slot e).1 = .stalled) :
    (m.call dispatch slot.plugin e.host).1 = .stalled := by
  rw [announced, Act.bind_of_returned (a := ()) rfl] at stalled
  rw [Manner.call, Act.bind_of_returned (a := ()) rfl]
  simp only [invoke, tell, record, onHost, Act.bind_apply, Act.within, Act.modify_apply]
    at stalled ⊢
  generalize Act.guarded _ _ _ = ran at stalled ⊢
  obtain ⟨answer | payload | _, h⟩ := ran
  · cases answer <;> cases stalled
  · cases stalled
  · rfl

/-- Whoever is called answers, or the call goes on for ever. -/
theorem announced_called (m : Manner) (dispatch : Dispatch) {slot : Slot}
    (own : (slot.serial, slot.plugin) ∈ e.lifecycle.registry.members) :
    ((announced m dispatch slot e).1 = .stalled ∧
      Endless dispatch m e [] (announced m dispatch slot e).2) ∨
    ∃ answer, (announced m dispatch slot e).1 = .returned (answer.map fun _ => ()) ∧
      (announced m dispatch slot e).2.lifecycle = e.lifecycle ∧
      Called dispatch m e [⟨slot.serial, slot.plugin, answer⟩] (announced m dispatch slot e).2 := by
  rcases announced_cases m dispatch slot e with ⟨stalled, recorded⟩ | ⟨answer, h, answered, ended⟩
  · exact .inl ⟨stalled, e, slot.serial, slot.plugin, .refl e, own, announced_stalled stalled,
      recorded⟩
  · rw [ended]
    refine .inr ⟨answer, rfl, rfl, .cons answered (.nil _), by simp [Slot.called, Reply.calls],
      rfl, fun r member => ?_⟩
    rw [List.mem_singleton.1 member]
    exact own

/-- The call that goes on for ever is the last thing in the record. -/
theorem Endless.stuck (endless : Endless dispatch m e replies after) : Stuck m.hook e after := by
  obtain ⟨middle, number, _, called, _, _, recorded⟩ := endless
  exact Stuck.trans called.calls ⟨[], number, recorded⟩

end Calling

theorem callStart_eq (slot : Slot) (index : Nat) :
    callStart dispatch slot index = (do
      changeLifecycle fun l => { l with running := l.running ++ [index] }
      announced .starting dispatch slot) := rfl

theorem stopAt_eq {index : Nat} {slot : Slot} {e : Ensemble}
    (found : e.lifecycle.registry.slots[index]? = some slot) (started : slot.state = .started) :
    stopAt dispatch index e =
      announced .stopping dispatch slot
        { e with lifecycle := e.lifecycle.setState index .stopped } := by
  simp only [stopAt, Act.bind_apply, Act.look_apply, found, started, if_true]
  rfl

/-- Plugins that are stopped answer in turn, and the first failure among their answers counts. -/
theorem stopAll_answers (dispatch : Dispatch) (order : List Nat) (e : Ensemble)
    (nodup : order.Nodup) (started : ∀ i ∈ order, e.lifecycle.stateAt i = some .started) :
    ((stopAll dispatch order e).1 = .stalled ∧ Stuck .stop e (stopAll dispatch order e).2) ∨
    ∃ replies, (stopAll dispatch order e).1 = .returned (firstFailure replies) ∧
      Answers dispatch .stopping e.host replies (stopAll dispatch order e).2.host ∧
      (stopAll dispatch order e).2.calls = e.calls ++ replies.flatMap (Reply.calls .stop) ∧
      List.Forall₂ (Reply.At e.lifecycle.registry) order replies := by
  induction order generalizing e with
  | nil => exact .inr ⟨[], rfl, .nil _, (List.append_nil _).symm, .nil⟩
  | cons index rest ih =>
    obtain ⟨slot, found, state⟩ := Option.map_eq_some_iff.1 (started index List.mem_cons_self)
    obtain ⟨away, nodupRest⟩ := List.nodup_cons.1 nodup
    let marked : Ensemble := { e with lifecycle := e.lifecycle.setState index .stopped }
    have stops : stopAt dispatch index e = announced .stopping dispatch slot marked :=
      stopAt_eq found state
    rcases announced_cases .stopping dispatch slot marked with
      ⟨stalled, recorded⟩ | ⟨answer, h, answered, ended⟩
    · have never : (stopAt dispatch index e).1 = .stalled ∧
          Stuck .stop e (stopAt dispatch index e).2 := by
        rw [stops]
        exact ⟨stalled, [], slot.serial, recorded⟩
      exact .inl (Stuck.bind never _)
    · let stopped : Ensemble :=
        { marked with host := h, calls := e.calls ++ slot.called .stop answer.toBool }
      have first : stopAt dispatch index e = (.returned (answer.map fun _ => ()), stopped) :=
        stops.trans ended
      -- nobody is named twice, so whoever is still to be stopped is started as before
      have others : ∀ i ∈ rest, stopped.lifecycle.stateAt i = some .started := by
        intro i member
        have apart : index ≠ i := (ne_of_mem_of_not_mem member away).symm
        have same : stopped.lifecycle.stateAt i = e.lifecycle.stateAt i := by
          rw [Lifecycle.stateAt_setState, if_neg apart]
        rw [same]
        exact started i (List.mem_cons_of_mem _ member)
      have members : stopped.lifecycle.registry.members = e.lifecycle.registry.members :=
        Registry.members_setState _ _ _
      have own : Reply.At e.lifecycle.registry index ⟨slot.serial, slot.plugin, answer⟩ := by
        simp [Reply.At, Registry.members, found]
      rw [stopAll, Act.bind_of_returned (a := answer.map fun _ => ()) (by rw [first]), first]
      rcases ih stopped nodupRest others with
        never | ⟨replies, returned, rest', recorded, called⟩
      · have begun : stopped.calls = e.calls ++ slot.called .stop answer.toBool := rfl
        obtain ⟨stalled, stuck⟩ := Stuck.bind never _
        exact .inl ⟨stalled, stuck.trans begun⟩
      · rw [Act.bind_of_returned returned]
        refine .inr ⟨⟨slot.serial, slot.plugin, answer⟩ :: replies, ?_, .cons answered rest',
          ?_, ?_⟩
        · cases answer <;> rfl
        · refine Eq.trans recorded ?_
          rw [List.flatMap_cons, ← List.append_assoc]
          rfl
        · exact .cons own (called.imp fun _ _ is => by rwa [Reply.At, members] at is)

/-- Stopping all that runs: every plugin answers, and the first failure counts. -/
theorem stop_answers (dispatch : Dispatch) (e : Ensemble) (once : e.lifecycle.running.Nodup)
    (started : ∀ i ∈ e.lifecycle.running, e.lifecycle.stateAt i = some .started) :
    ((stop dispatch e).1 = .stalled ∧ Stuck .stop e (stop dispatch e).2) ∨
    ∃ replies h, (stop dispatch e).1 = .returned (firstFailure replies) ∧
      Answers dispatch .stopping e.host replies h ∧
      (stop dispatch e).2.calls = e.calls ++ replies.flatMap (Reply.calls .stop) ∧
      List.Forall₂ (Reply.At e.lifecycle.registry) e.lifecycle.running.reverse replies ∧
      (stop dispatch e).2.lifecycle =
        { registry := { slots := [], issued := e.lifecycle.registry.issued } } := by
  have answers := stopAll_answers dispatch e.lifecycle.running.reverse
    { lifecycle := { registry := e.lifecycle.registry, initialized := e.lifecycle.initialized }
      host := e.host
      calls := e.calls } (List.nodup_reverse.2 once)
    fun i member => started i (List.mem_reverse.1 member)
  have emptied := stop_stops_of_started dispatch e once started
  simp only [stop, Act.bind_apply, Act.look_apply, changeLifecycle, Act.modify_apply]
    at emptied ⊢
  generalize stopAll dispatch e.lifecycle.running.reverse _ = x at answers emptied ⊢
  obtain ⟨flow, after⟩ := x
  rcases answers with ⟨stalled, stuck⟩ | ⟨replies, returned, answers, recorded, called⟩
  · cases stalled
    exact .inl ⟨rfl, stuck⟩
  · cases returned
    rcases emptied with never | ⟨_, _, _, _, _, empty⟩
    · cases never
    · exact .inr ⟨replies, after.host, rfl, answers, recorded, called, empty⟩

end Ensemble

end PluginHost
