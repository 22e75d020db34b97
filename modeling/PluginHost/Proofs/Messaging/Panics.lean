import PluginHost.Proofs.Messaging.Deliveries

/-!
Panics of subscribers and providers. A task is guarded as a whole, and a call of a method is not
guarded at all, so whoever panics is the last one to be run: those who come later in line are left
out, and the panic takes the place of the failures before it.
-/

set_option autoImplicit false

namespace PluginHost

/-- Of the pieces of code in line, this one is the last to be run, after others that came to an
end. -/
def CutAt (codes : List Code) (invoked : List Invocation) (last : Invocation) : Prop :=
  ∃ earlier, invoked = earlier ++ [last] ∧ invoked.map Invocation.code <+: codes ∧
    ∀ i ∈ earlier, i.Returned

variable {codes : List Code} {invoked : List Invocation} {i : Invocation} {payload : PanicPayload}

theorem not_returned_of_unwound (panicked : i.flow = .unwound payload) : ¬ i.Returned := by
  rintro ⟨result, ended⟩
  rw [panicked] at ended
  cases ended

theorem BreaksOff.of_unwound {α : Type} {flow : Flow α} (breaks : BreaksOff codes invoked flow)
    (member : i ∈ invoked) (panicked : i.flow = .unwound payload) :
    CutAt codes invoked i ∧ flow = .unwound payload := by
  obtain ⟨earlier, last, split, begins, returned, breaks⟩ := breaks
  have only : i = last := by
    rw [split, List.mem_append, List.mem_singleton] at member
    rcases member with before | same
    · exact absurd (returned i before) (not_returned_of_unwound panicked)
    · exact same
  subst only
  rw [panicked] at breaks
  cases breaks
  exact ⟨⟨earlier, split, begins, returned⟩, rfl⟩

/-- A subscriber that panics cuts the delivery off. -/
theorem Delivered.of_unwound {flow : Flow (Except Failure Unit)}
    (delivered : Delivered codes invoked flow) (member : i ∈ invoked)
    (panicked : i.flow = .unwound payload) : CutAt codes invoked i ∧ flow = .unwound payload := by
  cases delivered with
  | all everybody returned =>
    exact absurd (returned i member) (not_returned_of_unwound panicked)
  | broken breaks => exact breaks.of_unwound member panicked

/-- A provider that panics cuts the call off, and so those who come later are not tried. -/
theorem Asked.of_unwound {fallback : Failure} {flow : Flow (Except Failure Json)}
    (asked : Asked fallback codes invoked flow) (member : i ∈ invoked)
    (panicked : i.flow = .unwound payload) : CutAt codes invoked i ∧ flow = .unwound payload := by
  rcases asked.returned_or_breaks with ⟨returned, _⟩ | breaks
  · exact absurd (returned i member) (not_returned_of_unwound panicked)
  · exact breaks.of_unwound member panicked

namespace Host

/-- In a delivery that begins nobody is invoked after a subscriber that panics, and the task fails
with the panic, whoever failed before; where nobody panics everybody is invoked, and the task fails
with the first failure. In a call of a method nobody is asked after a provider that panics, and the
call is unwound. -/
theorem panic_cuts_off (dispatch : Dispatch) (h : Host) :
    (∀ channel c begun hint rest message, h.channels[channel]? = some c →
      Executor.Call.begin.make h.executor = (.began begun hint, rest) →
      begun.task.body = .delivery channel message →
        let codes := c.deliveries message
        let ended := execute (Code.run dispatch) h
        ∃ start invoked more, start.executor = rest ∧ start.channels = h.channels ∧
          Invokes dispatch (reportSubscriber c.kind.name) start invoked ended.2 ∧
          ((∀ i ∈ invoked, i.Returned) → invoked.map Invocation.code = codes ∧
            ended.1 = .returned ((verdict invoked).map fun _ => more)) ∧
          ∀ i ∈ invoked, ∀ payload, i.flow = .unwound payload →
            CutAt codes invoked i ∧ ended.1 = .returned (.error (.panicked "task" payload))) ∧
    ∀ method m argument, h.methods[method]? = some m →
      let codes := m.attempts argument
      let called := call dispatch method argument h
      ∃ invoked, Invokes dispatch (reportProvider m.name) h invoked called.2 ∧
        Asked (.noProvider m.name) codes invoked called.1 ∧
        ∀ i ∈ invoked, ∀ payload, i.flow = .unwound payload →
          CutAt codes invoked i ∧ called.1 = .unwound payload := by
  constructor
  · intro channel c begun hint rest message found begins body codes ended
    obtain ⟨start, executor, channels, invoked, flow, more, invokes, delivered, result, all⟩ :=
      execute_handsOut dispatch found begins body
    refine ⟨start, invoked, more, executor, channels, invokes, all, ?_⟩
    intro i member payload panicked
    obtain ⟨cut, unwound⟩ := delivered.of_unwound member panicked
    refine ⟨cut, result.trans ?_⟩
    rw [unwound]
    rfl
  · intro method m argument found codes called
    obtain ⟨invoked, invokes, asked⟩ := call_asked dispatch found argument
    exact ⟨invoked, invokes, asked, fun i member payload => asked.of_unwound member⟩

/-- One of three subscribers fails, the next one panics, and the third one is left out. Of two
providers the first one panics, and the other one, which has an answer, is not asked. -/
theorem panic_cuts_off_of_three :
    let bad : Failure := .new .task "bad"
    let boom : Code := .panic (.text "boom")
    let third : Code := .ask (.say (.note "third")) fun _ => .nothing
    let kind : ChannelKind := ⟨"numbers", 50⟩
    let subscribed (h : Host) (code : Code) : Host := (h.subscribe 0 fun _ => code).2
    let ready := [.fail bad, boom, third].foldl subscribed (({} : Host).channel kind).2
    let h := (ready.post 50 0 (.delivery 0 .null)).2
    let ended := execute (Code.runWithin 2) h
    let provided := ((({} : Host).method "lookup").2.provide 0 100 fun _ => boom).2
    let g := (provided.provide 0 50 fun _ => third).2
    let called := call (Code.runWithin 1) 0 .null g
    (ended.1 = .returned (.error (.panicked "task" (.text "boom"))) ∧
      ∃ start invoked more, start.channels = h.channels ∧
        Invokes (Code.runWithin 1) (reportSubscriber "numbers") start invoked ended.2 ∧
        ((∀ i ∈ invoked, i.Returned) → invoked.map Invocation.code = [.fail bad, boom, third] ∧
          ended.1 = .returned ((verdict invoked).map fun _ => more)) ∧
        ∀ i ∈ invoked, ∀ payload, i.flow = .unwound payload →
          CutAt [.fail bad, boom, third] invoked i ∧
            ended.1 = .returned (.error (.panicked "task" payload))) ∧
    called.1 = .unwound (.text "boom") ∧
      ∃ invoked, Invokes (Code.runWithin 1) (reportProvider "lookup") g invoked called.2 ∧
        Asked (.noProvider "lookup") [boom, third] invoked called.1 ∧
        ∀ i ∈ invoked, ∀ payload, i.flow = .unwound payload →
          CutAt [boom, third] invoked i ∧ called.1 = .unwound payload := by
  intro bad boom third kind subscribed ready h ended provided g called
  have executor : h.executor = ((Executor.Call.post 50 0 (.delivery 0 .null)).make .empty).2 := rfl
  have begins := Executor.begin_first 50 (Code.delivery 0 .null)
  rw [← executor] at begins
  obtain ⟨start, invoked, more, _, channels, invokes, all, cut⟩ :=
    (panic_cuts_off (Code.runWithin 1) h).1 0 _ _ _ _ .null rfl begins rfl
  have asked := (panic_cuts_off (Code.runWithin 1) g).2 0 _ .null rfl
  exact ⟨⟨by decide +kernel, start, invoked, more, channels, invokes, all, cut⟩, rfl, asked⟩

/-- A panic is no failure like others: the task that delivers a message does not fail with the first
failure, and the subscriber after the one that panics never sees the message; the provider after one
that panics, which has an answer, is never asked. -/
theorem panic_not_isolated :
    let bad : Failure := .new .task "bad"
    let boom : Code := .panic (.text "boom")
    let notes (text : String) : Code := .ask (.say (.note text)) fun _ => .nothing
    let subscribed (h : Host) (code : Code) : Host := (h.subscribe 0 fun _ => code).2
    let ready := [.fail bad, boom, notes "third"].foldl subscribed
      (({} : Host).channel ⟨"numbers", 50⟩).2
    let delivered := execute (Code.runWithin 2) (ready.post 50 0 (.delivery 0 .null)).2
    let once := ((({} : Host).method "lookup").2.provide 0 100 fun _ => boom).2
    let twice := (once.provide 0 50 fun _ => notes "asked").2
    let called := execute (Code.runWithin 2) (twice.post 50 0 (.call 0 .null .done)).2
    (delivered.1 ≠ .returned (.error bad) ∧ .note "third" ∉ delivered.2.journal.toList) ∧
      called.1 = .returned (.error (.panicked "task" (.text "boom"))) ∧
      .note "asked" ∉ called.2.journal.toList := by
  decide +kernel

end Host

end PluginHost
