import Mathlib.Data.List.Basic
import PluginHost.Code.Run

set_option autoImplicit false

namespace PluginHost

/-- A piece of code that was run: on which host, how it ended, and the host that it left. -/
structure Invocation where
  code : Code
  before : Host
  flow : Flow (Except Failure Json)
  after : Host

namespace Invocation

/-- The code came to its end, well or not. -/
def Returned (i : Invocation) : Prop := ∃ result, i.flow = .returned result

def Failed (i : Invocation) : Prop := ∃ e, i.flow = .returned (.error e)

def failure? (i : Invocation) : Option Failure :=
  match i.flow with
  | .returned (.error e) => some e
  | _ => none

def reported (report : Failure → Host → Host) (i : Invocation) : Host :=
  match i.flow with
  | .returned (.error e) => report e i.after
  | _ => i.after

theorem Failed.returned {i : Invocation} (failed : i.Failed) : i.Returned :=
  let ⟨e, ended⟩ := failed
  ⟨.error e, ended⟩

theorem reported_of_not_returned {i : Invocation} (unreturned : ¬ i.Returned)
    (report : Failure → Host → Host) : i.reported report = i.after := by
  cases ended : i.flow with
  | returned result => exact absurd ⟨result, ended⟩ unreturned
  | unwound _ | stalled => simp only [reported, ended]

end Invocation

/-- Pieces of code are run on a host one after the other. -/
inductive Invokes (dispatch : Dispatch) (report : Failure → Host → Host) :
    Host → List Invocation → Host → Prop
  | nil (h : Host) : Invokes dispatch report h [] h
  | cons {i : Invocation} {rest : List Invocation} {last : Host}
      (ran : dispatch i.code i.before = (i.flow, i.after))
      (later : Invokes dispatch report (i.reported report) rest last) :
      Invokes dispatch report i.before (i :: rest) last

def Dispatch.invocation (dispatch : Dispatch) (code : Code) (h : Host) : Invocation :=
  ⟨code, h, (dispatch code h).1, (dispatch code h).2⟩

section First

variable {dispatch : Dispatch} {report : Failure → Host → Host} {code : Code} {h last : Host}
  {rest : List Invocation}

theorem Invokes.after_success {value : Json} (succeeded : (dispatch code h).1 = .returned (.ok value))
    (later : Invokes dispatch report (dispatch code h).2 rest last) :
    Invokes dispatch report h (dispatch.invocation code h :: rest) last := by
  have unreported : (dispatch.invocation code h).reported report = (dispatch code h).2 := by
    simp only [Invocation.reported, Dispatch.invocation, succeeded]
  exact .cons (i := dispatch.invocation code h) rfl (unreported ▸ later)

theorem Invokes.after_failure {e : Failure} (failed : (dispatch code h).1 = .returned (.error e))
    (later : Invokes dispatch report (report e (dispatch code h).2) rest last) :
    Invokes dispatch report h (dispatch.invocation code h :: rest) last := by
  have reported : (dispatch.invocation code h).reported report = report e (dispatch code h).2 := by
    simp only [Invocation.reported, Dispatch.invocation, failed]
  exact .cons (i := dispatch.invocation code h) rfl (reported ▸ later)

theorem Invokes.single (unreturned : ¬ (dispatch.invocation code h).Returned) :
    Invokes dispatch report h [dispatch.invocation code h] (dispatch code h).2 := by
  have unreported := Invocation.reported_of_not_returned unreturned report
  refine .cons (i := dispatch.invocation code h) rfl ?_
  rw [unreported]
  exact .nil _

end First

/-- Something breaks off as a part of it did. -/
inductive Flow.BreaksAs {α β : Type} : Flow α → Flow β → Prop
  | unwound (payload : PanicPayload) : BreaksAs (.unwound payload) (.unwound payload)
  | stalled : BreaksAs .stalled .stalled

/-- A sequence of steps breaks off with its first step, unless that returns. -/
theorem Act.bind_breaks {σ α β : Type} {first : Act σ α} {s : σ}
    (unreturned : ∀ a, (first s).1 ≠ .returned a) (next : α → Act σ β) :
    (first s).1.BreaksAs ((first >>= next) s).1 ∧ ((first >>= next) s).2 = (first s).2 := by
  rw [Act.bind_apply]
  generalize first s = x at unreturned
  obtain ⟨flow, t⟩ := x
  cases flow with
  | returned a => exact absurd rfl (unreturned a)
  | unwound payload => exact ⟨.unwound payload, rfl⟩
  | stalled => exact ⟨.stalled, rfl⟩

/-- Invocations of some pieces of code, from the first one on, break off with the last of them. -/
def BreaksOff {α : Type} (codes : List Code) (invoked : List Invocation) (flow : Flow α) : Prop :=
  ∃ earlier last, invoked = earlier ++ [last] ∧ invoked.map Invocation.code <+: codes ∧
    (∀ i ∈ earlier, i.Returned) ∧ last.flow.BreaksAs flow

theorem BreaksOff.cons {α : Type} {codes : List Code} {invoked : List Invocation} {flow : Flow α}
    (breaks : BreaksOff codes invoked flow) {first : Invocation} (returned : first.Returned) :
    BreaksOff (first.code :: codes) (first :: invoked) flow := by
  obtain ⟨earlier, last, rfl, begins, before, breaks⟩ := breaks
  refine ⟨first :: earlier, last, rfl, ?_, List.forall_mem_cons.2 ⟨returned, before⟩, breaks⟩
  exact List.cons_prefix_cons.2 ⟨rfl, begins⟩

/-- What breaks off with its first piece of code does not go on to another one. -/
theorem breaksOff_first {α : Type} {dispatch : Dispatch} {code : Code} {h : Host}
    (unreturned : ¬ (dispatch.invocation code h).Returned)
    (next : Except Failure Json → Act Host α) (report : Failure → Host → Host) (codes : List Code) :
    Invokes dispatch report h [dispatch.invocation code h] ((dispatch code >>= next) h).2 ∧
      BreaksOff (code :: codes) [dispatch.invocation code h] ((dispatch code >>= next) h).1 := by
  obtain ⟨breaks, left⟩ := Act.bind_breaks (fun result ended => unreturned ⟨result, ended⟩) next
  rw [left]
  refine ⟨.single unreturned, [], _, rfl, ?_, fun _ none => absurd none List.not_mem_nil, breaks⟩
  exact List.cons_prefix_cons.2 ⟨rfl, List.nil_prefix⟩

/-- Where invocations break off, one of them does not return. -/
theorem BreaksOff.not_returned {α : Type} {codes : List Code} {invoked : List Invocation}
    {flow : Flow α} (breaks : BreaksOff codes invoked flow) : ¬ ∀ i ∈ invoked, i.Returned := by
  obtain ⟨earlier, last, rfl, _, _, breaks⟩ := breaks
  intro returned
  obtain ⟨result, ended⟩ := returned last (List.mem_append_right _ (List.mem_singleton_self last))
  rw [ended] at breaks
  cases breaks

/-- The first failure among invocations. -/
def verdict (invoked : List Invocation) : Except Failure Unit :=
  match invoked.findSome? Invocation.failure? with
  | some e => .error e
  | none => .ok ()

/-- How a delivery to subscribers ends. -/
inductive Delivered (codes : List Code) (invoked : List Invocation) :
    Flow (Except Failure Unit) → Prop
  /-- All of them were invoked, and the first failure is the answer. -/
  | all (everybody : invoked.map Invocation.code = codes)
      (returned : ∀ i ∈ invoked, i.Returned) : Delivered codes invoked (.returned (verdict invoked))
  | broken {flow : Flow (Except Failure Unit)} (breaks : BreaksOff codes invoked flow) :
      Delivered codes invoked flow

namespace Delivered

variable {codes : List Code} {invoked : List Invocation} {flow : Flow (Except Failure Unit)}
  {first : Invocation}

/-- One who does not fail goes first. -/
theorem after_success (delivered : Delivered codes invoked flow) (returned : first.Returned)
    (none : first.failure? = none) : Delivered (first.code :: codes) (first :: invoked) flow := by
  cases delivered with
  | all everybody later =>
    have same : verdict (first :: invoked) = verdict invoked := by
      simp only [verdict, List.findSome?_cons, none]
    rw [← same]
    refine .all ?_ (List.forall_mem_cons.2 ⟨returned, later⟩)
    rw [List.map_cons, everybody]
  | broken breaks => exact .broken (breaks.cons returned)

/-- One who fails goes first, and the answer is that failure whatever the others do. -/
theorem after_failure (delivered : Delivered codes invoked flow) {e : Failure}
    (failed : first.flow = .returned (.error e)) :
    Delivered (first.code :: codes) (first :: invoked) (flow.map fun _ => .error e) := by
  have returned : first.Returned := ⟨_, failed⟩
  cases delivered with
  | all everybody later =>
    have mine : verdict (first :: invoked) = .error e := by
      simp only [verdict, List.findSome?_cons, Invocation.failure?, failed]
    rw [Flow.map, ← mine]
    refine .all ?_ (List.forall_mem_cons.2 ⟨returned, later⟩)
    rw [List.map_cons, everybody]
  | broken breaks =>
    obtain ⟨earlier, last, split, begins, before, breaks⟩ := breaks.cons returned
    refine .broken ⟨earlier, last, split, begins, before, ?_⟩
    generalize last.flow = ending at breaks
    cases breaks with
    | unwound payload => exact .unwound payload
    | stalled => exact .stalled

/-- Where all that are invoked come to an end, everybody is. -/
theorem everybody (delivered : Delivered codes invoked flow) (returned : ∀ i ∈ invoked, i.Returned) :
    invoked.map Invocation.code = codes ∧ flow = .returned (verdict invoked) := by
  cases delivered with
  | all everybody _ => exact ⟨everybody, rfl⟩
  | broken breaks => exact absurd returned breaks.not_returned

end Delivered

namespace Host

variable (dispatch : Dispatch)

def reportSubscriber (channel : String) (e : Failure) (h : Host) : Host :=
  h.tell .channels .error "Channel subscriber failed"
    [("channel", .text channel), ("error", .text e.display)]

theorem runSubscribers_delivered (channel : String) (codes : List Code) (h : Host) :
    ∃ invoked,
      Invokes dispatch (reportSubscriber channel) h invoked
        (runSubscribers dispatch channel codes h).2 ∧
      Delivered codes invoked (runSubscribers dispatch channel codes h).1 := by
  induction codes generalizing h with
  | nil => exact ⟨[], .nil h, .all rfl fun _ none => absurd none List.not_mem_nil⟩
  | cons code rest ih =>
    by_cases returned : (dispatch.invocation code h).Returned
    · obtain ⟨result, ended⟩ := returned
      have came : (dispatch code h).1 = .returned result := ended
      rw [runSubscribers, Act.bind_of_returned came]
      cases result with
      | ok value =>
        obtain ⟨invoked, invokes, delivered⟩ := ih (dispatch code h).2
        refine ⟨_, invokes.after_success came, delivered.after_success ⟨_, ended⟩ ?_⟩
        simp only [Invocation.failure?, ended]
      | error e =>
        obtain ⟨invoked, invokes, delivered⟩ := ih (reportSubscriber channel e (dispatch code h).2)
        dsimp only
        rw [Act.bind_of_returned (a := ()) rfl, bind_pure_comp, Act.map_apply]
        exact ⟨_, invokes.after_failure came, delivered.after_failure ended⟩
    · obtain ⟨invokes, breaks⟩ := breaksOff_first returned _ (reportSubscriber channel) rest
      exact ⟨_, invokes, .broken breaks⟩

/-- A delivery invokes those who subscribe when it starts. -/
theorem deliver_delivered {channel : Nat} {c : Channel Code Json} {h : Host}
    (found : h.channels[channel]? = some c) (message : Json) :
    ∃ invoked,
      Invokes dispatch (reportSubscriber c.kind.name)
        (h.tell .channels .trace "Delivering message"
          [("subscribers", .number c.count), ("channel", .text c.kind.name)])
        invoked (deliver dispatch channel message h).2 ∧
      Delivered (c.deliveries message) invoked (deliver dispatch channel message h).1 := by
  simp only [deliver, found]
  exact runSubscribers_delivered dispatch c.kind.name (c.deliveries message) _

end Host

/-- How a call of a method ends, where nobody has another answer than this failure. -/
inductive Asked (fallback : Failure) (codes : List Code) (invoked : List Invocation) :
    Flow (Except Failure Json) → Prop
  /-- Nobody provides the method. -/
  | nobody (none : codes = []) (uninvoked : invoked = []) :
      Asked fallback codes invoked (.returned (.error fallback))
  /-- The last one invoked is the first one that succeeded. -/
  | succeeded {earlier : List Invocation} {last : Invocation} {value : Json}
      (split : invoked = earlier ++ [last]) (begins : invoked.map Invocation.code <+: codes)
      (failed : ∀ i ∈ earlier, i.Failed) (success : last.flow = .returned (.ok value)) :
      Asked fallback codes invoked (.returned (.ok value))
  /-- All of them failed. -/
  | exhausted {earlier : List Invocation} {last : Invocation} {e : Failure}
      (split : invoked = earlier ++ [last]) (everybody : invoked.map Invocation.code = codes)
      (failed : ∀ i ∈ earlier, i.Failed) (failure : last.flow = .returned (.error e)) :
      Asked fallback codes invoked (.returned (.error e))
  | broken {flow : Flow (Except Failure Json)} (breaks : BreaksOff codes invoked flow)
      (failed : ∀ i ∈ invoked.dropLast, i.Failed) : Asked fallback codes invoked flow

namespace Host

variable (dispatch : Dispatch)

def reportProvider (method : String) (e : Failure) (h : Host) : Host :=
  h.tell .methods .debug "Method provider failed, trying next"
    [("method", .text method), ("error", .text e.display)]

end Host

/-- One who fails goes first, and the others are asked after that one. -/
theorem Asked.after_failure {codes : List Code} {invoked : List Invocation}
    {flow : Flow (Except Failure Json)} {first : Invocation} {e fallback : Failure}
    (asked : Asked e codes invoked flow) (failed : first.flow = .returned (.error e)) :
    Asked fallback (first.code :: codes) (first :: invoked) flow := by
  have mine : first.Failed := ⟨e, failed⟩
  cases asked with
  | nobody none uninvoked =>
    subst none uninvoked
    have split : [first] = [] ++ [first] := rfl
    exact .exhausted split rfl (fun _ none => absurd none List.not_mem_nil) failed
  | @succeeded earlier last value split begins before success =>
    have longer : first :: invoked = (first :: earlier) ++ [last] := congrArg _ split
    refine .succeeded longer ?_ ?_ success
    · exact List.cons_prefix_cons.2 ⟨rfl, begins⟩
    · exact List.forall_mem_cons.2 ⟨mine, before⟩
  | @exhausted earlier last e split everybody before failure =>
    have longer : first :: invoked = (first :: earlier) ++ [last] := congrArg _ split
    refine .exhausted longer ?_ ?_ failure
    · rw [List.map_cons, everybody]
    · exact List.forall_mem_cons.2 ⟨mine, before⟩
  | broken breaks before =>
    refine .broken (breaks.cons mine.returned) ?_
    obtain ⟨earlier, last, split, _⟩ := breaks
    subst split
    rw [List.dropLast_concat] at before
    rw [← List.cons_append, List.dropLast_concat]
    exact List.forall_mem_cons.2 ⟨mine, before⟩

namespace Asked

variable {fallback : Failure} {codes : List Code} {invoked : List Invocation}
  {flow : Flow (Except Failure Json)}

theorem returned_of_split {earlier : List Invocation} {last : Invocation}
    (failed : ∀ i ∈ earlier, i.Failed) (ended : last.Returned) :
    ∀ i ∈ earlier ++ [last], i.Returned :=
  List.forall_mem_append.2 ⟨fun i member => (failed i member).returned,
    List.forall_mem_singleton.2 ended⟩

/-- A call comes to an end as all that are invoked do, or it breaks off. -/
theorem returned_or_breaks (asked : Asked fallback codes invoked flow) :
    ((∀ i ∈ invoked, i.Returned) ∧ ∃ result, flow = .returned result) ∨
      BreaksOff codes invoked flow := by
  cases asked with
  | nobody none uninvoked =>
    subst uninvoked
    exact .inl ⟨fun _ none => absurd none List.not_mem_nil, _, rfl⟩
  | succeeded split begins failed success =>
    subst split
    exact .inl ⟨returned_of_split failed ⟨_, success⟩, _, rfl⟩
  | exhausted split everybody failed failure =>
    subst split
    exact .inl ⟨returned_of_split failed ⟨_, failure⟩, _, rfl⟩
  | broken breaks failed => exact .inr breaks

/-- Where all that are invoked come to an end, so does the call. -/
theorem returned (asked : Asked fallback codes invoked flow) (returned : ∀ i ∈ invoked, i.Returned) :
    ∃ result, flow = .returned result := by
  rcases asked.returned_or_breaks with ⟨_, came⟩ | breaks
  · exact came
  · exact absurd returned breaks.not_returned

end Asked

namespace Host

variable (dispatch : Dispatch)

theorem askProviders_asked (method : String) (fallback : Failure) (codes : List Code) (h : Host) :
    ∃ invoked,
      Invokes dispatch (reportProvider method) h invoked
        (askProviders dispatch method fallback codes h).2 ∧
      Asked fallback codes invoked (askProviders dispatch method fallback codes h).1 := by
  induction codes generalizing h fallback with
  | nil => exact ⟨[], .nil h, .nobody rfl rfl⟩
  | cons code rest ih =>
    by_cases returned : (dispatch.invocation code h).Returned
    · obtain ⟨result, ended⟩ := returned
      have came : (dispatch code h).1 = .returned result := ended
      rw [askProviders, Act.bind_of_returned came]
      cases result with
      | ok value =>
        let first := dispatch.invocation code h
        have split : [first] = [] ++ [first] := rfl
        refine ⟨[first], (Invokes.nil _).after_success came, ?_⟩
        refine .succeeded split ?_ (fun _ none => absurd none List.not_mem_nil) ended
        exact List.cons_prefix_cons.2 ⟨rfl, List.nil_prefix⟩
      | error e =>
        obtain ⟨invoked, invokes, asked⟩ := ih e (reportProvider method e (dispatch code h).2)
        dsimp only
        rw [Act.bind_of_returned (a := ()) rfl]
        exact ⟨_, invokes.after_failure came, asked.after_failure ended⟩
    · obtain ⟨invokes, breaks⟩ := breaksOff_first returned _ (reportProvider method) rest
      exact ⟨_, invokes, .broken breaks fun _ none => absurd none List.not_mem_nil⟩

/-- A call asks those who provide the method when it begins. -/
theorem call_asked {method : Nat} {m : Method Code Json} {h : Host}
    (found : h.methods[method]? = some m) (argument : Json) :
    ∃ invoked,
      Invokes dispatch (reportProvider m.name) h invoked (call dispatch method argument h).2 ∧
      Asked (.noProvider m.name) (m.attempts argument) invoked
        (call dispatch method argument h).1 := by
  simp only [call, found]
  exact askProviders_asked dispatch m.name (.noProvider m.name) (m.attempts argument) h

end Host

end PluginHost
