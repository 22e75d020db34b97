import PluginHost.Proofs.Heartbeat.Standing
import PluginHost.Reactor.Run

set_option autoImplicit false

namespace PluginHost

open Act (Leads Keeps)
open Heartbeat (Wiring Tally)

variable {w : Wiring} {t : Tally} {dispatch : Dispatch}

/-- Whatever the tally, it stays when code of others is dispatched. -/
def Dispatch.Heeds (w : Wiring) (dispatch : Dispatch) : Prop :=
  ∀ (t : Tally) (code : Code), code.Foreign w → Keeps (Host.Fits w t) (dispatch code)

namespace Host

variable (heeds : dispatch.Heeds w)
include heeds

theorem runSubscribers_fits (channel : String) {codes : List Code}
    (foreign : ∀ code ∈ codes, code.Foreign w) :
    Keeps (Host.Fits w t) (runSubscribers dispatch channel codes) := by
  induction codes with
  | nil => exact .pure _
  | cons code rest ih =>
    obtain ⟨first, later⟩ := List.forall_mem_cons.1 foreign
    refine (heeds t code first).andThen fun result => ?_
    cases result with
    | ok _ => exact ih later
    | error _ =>
      exact Leads.andThen (.modify fun _ fits => fits.tell .channels nofun _ _ _) fun _ =>
        (ih later).andThen fun _ => .pure _

theorem deliver_fits {channel : Nat} (other : channel ≠ w.channel) (message : Json) :
    Keeps (Host.Fits w t) (deliver dispatch channel message) := by
  intro h fits ended
  unfold deliver at ended ⊢
  cases found : h.channels[channel]? with
  | none => exact fits
  | some c =>
    simp only [found] at ended ⊢
    refine runSubscribers_fits heeds c.kind.name ?_ _ (fits.tell .channels nofun _ _ _) ended
    intro code member
    obtain ⟨s, among, rfl⟩ := List.mem_map.1 member
    exact fits.channels.others channel c other found s among message

theorem askProviders_fits (method : String) (last : Failure) {codes : List Code}
    (foreign : ∀ code ∈ codes, code.Foreign w) :
    Keeps (Host.Fits w t) (askProviders dispatch method last codes) := by
  induction codes generalizing last with
  | nil => exact .pure _
  | cons code rest ih =>
    obtain ⟨first, later⟩ := List.forall_mem_cons.1 foreign
    refine (heeds t code first).andThen fun result => ?_
    cases result with
    | ok _ => exact .pure _
    | error e =>
      exact Leads.andThen (.modify fun _ fits => fits.tell .methods nofun _ _ _) fun _ => ih e later

theorem call_fits (method : Nat) (argument : Json) :
    Keeps (Host.Fits w t) (call dispatch method argument) := by
  intro h fits ended
  unfold call at ended ⊢
  cases found : h.methods[method]? with
  | none => exact fits
  | some m =>
    simp only [found] at ended ⊢
    refine askProviders_fits heeds m.name _ ?_ _ fits ended
    intro code member
    obtain ⟨p, among, rfl⟩ := List.mem_map.1 member
    exact fits.methods.others m (Array.mem_of_getElem? found) p among argument

end Host

namespace Code

theorem run_fits (heeds : dispatch.Heeds w) {code : Code} (foreign : code.Foreign w) :
    Keeps (Host.Fits w t) (run dispatch code) := by
  induction code with
  | done result => exact .pure _
  | panic payload => exact .panic payload
  | hang => exact .stall
  | ask request next ih =>
    exact Leads.andThen (.step fun _ fits => fits.answer foreign.1) fun a => ih a (foreign.2 a)
  | post priority queue body next _ ih =>
    exact Leads.andThen (.step fun _ fits => fits.post priority queue foreign.1) fun r =>
      ih r (foreign.2 r)
  | keep key priority queue body next _ ih =>
    exact Leads.andThen (.modify fun _ fits => fits.keep key foreign.1) fun _ => ih foreign.2
  | invoke key next ih =>
    exact Leads.andThen (.step fun _ fits => fits.invoke key) fun r => ih r (foreign r)
  | subscribe channel subscriber next _ ih =>
    exact Leads.andThen (.step fun _ fits => fits.subscribe channel foreign.1) fun n =>
      ih n (foreign.2 n)
  | provide method priority provider next _ ih =>
    exact Leads.andThen (.step fun _ fits => fits.provide method priority foreign.1) fun n =>
      ih n (foreign.2 n)
  | spawn yields body next _ ih =>
    have mine : Heartbeat.Jobs w (.code yields body) := foreign.1
    exact Leads.andThen (.step fun _ fits => fits.spawn mine) fun r => ih r (foreign.2 r)
  | tick interval watch body next _ ih =>
    have mine : Heartbeat.Jobs w (.ticker ⟨interval, watch, none⟩ body) := foreign.1
    exact Leads.andThen (.step fun _ fits => fits.spawn mine) fun r => ih r (foreign.2 r)
  | listen next ih =>
    exact Leads.andThen (.step fun _ fits => fits.listen) fun l => ih l (foreign l)
  | attempt origin body next ihBody ih =>
    exact ((ihBody foreign.1).guarded origin).andThen fun r => ih r (foreign.2 r)
  | execute next => exact foreign.elim
  | deliver channel message next ih =>
    exact (Host.deliver_fits heeds foreign.1 message).andThen fun r => ih r (foreign.2 r)
  | call method argument next ih =>
    exact (Host.call_fits heeds method argument).andThen fun r => ih r (foreign r)

/-- To whatever depth calls of other code are nested. -/
theorem runWithin_heeds (depth : Nat) : Dispatch.Heeds w (runWithin depth) := by
  induction depth with
  | zero => exact fun _ _ _ => .stall
  | succ depth ih => exact fun _ _ foreign => run_fits ih foreign

end Code

open Heartbeat (Jobs Reacts)

/-- What a turn leaves to be done later is a job of others or the timer. -/
def Turn.Leaves (w : Wiring) : Turn → Prop
  | .finished => True
  | .yielded job | .waiting job => Jobs w job

namespace Host

variable {h : Host}

namespace Fits

theorem listenerTurn (fits : h.Fits w t) (received : List Signal) :
    (listenerTurn received h).2.Fits w t ∧ (Host.listenerTurn received h).1.Leaves w := by
  induction received generalizing h with
  | nil => exact ⟨fits, trivial⟩
  | cons signal rest ih =>
    cases signal with
    | hangup => exact ih { fits with }
    | interrupt | terminate | quit => exact ⟨(fits.tell .signals nofun _ _ _).quit, trivial⟩

theorem tickerTurn (fits : h.Fits w t) (ticker : Ticker) {body : Code}
    (postable : body.Postable w) :
    (tickerTurn ticker body h).2.Fits w t ∧ (Host.tickerTurn ticker body h).1.Leaves w := by
  have looked : ({ h with watches := h.watches.modify ticker.watch Watch.see } : Host).Fits w t :=
    { fits with }
  unfold Host.tickerTurn
  dsimp only
  split
  · exact ⟨looked.tell .ticker nofun _ _ _, trivial⟩
  · split
    · exact ⟨looked, postable⟩
    · split
      · exact ⟨looked, postable⟩
      · have posts := looked.post priority.medium 0 postable
        split <;> rename_i posted <;> rw [posted] at posts
        · exact ⟨posts, postable⟩
        · exact ⟨posts.tell .ticker nofun _ _ _, trivial⟩

theorem tickerStep (fits : h.Fits w t) (ticker : Ticker) {body : Code}
    (postable : body.Postable w) :
    (tickerStep ticker body h).2.Fits w t ∧ (Host.tickerStep ticker body h).1.Leaves w := by
  unfold Host.tickerStep
  dsimp only
  split
  · exact fits.tickerTurn ticker postable
  · exact (fits.tell .ticker nofun _ _ _).tickerTurn ticker postable

theorem nextJob (fits : h.Fits w t) :
    (nextJob h).2.Fits w t ∧ ∀ job, (Host.nextJob h).1 = some job → Jobs w job := by
  unfold Host.nextJob
  split
  · rename_i loop events
    have reacts := fits.reactor
    rw [events] at reacts
    split
    · rename_i job rest ready
      rw [Reacts, ready, List.forall_mem_cons] at reacts
      refine ⟨{ fits with reactor := ⟨reacts.1.2, reacts.2⟩ }, fun other same => ?_⟩
      cases same
      exact reacts.1.1
    · exact ⟨fits, nofun⟩
  · exact ⟨fits, nofun⟩

theorem putWaiting (fits : h.Fits w t) {job : Job Code} (mine : Jobs w job) :
    (putWaiting job h).Fits w t := by
  unfold Host.putWaiting
  split
  · rename_i loop events
    have reacts := fits.reactor
    rw [events] at reacts
    exact { fits with reactor :=
      ⟨reacts.1, List.forall_mem_append.2 ⟨reacts.2, List.forall_mem_singleton.2 mine⟩⟩ }
  · exact fits

theorem resume (fits : h.Fits w t) {jobs : List (Job Code)} (mine : ∀ job ∈ jobs, Jobs w job) :
    (resume jobs h).Fits w t := by
  have reacts : ∀ reactor : Reactor Code, Reacts w reactor →
      Reacts w (jobs.foldl (fun reactor job => reactor.spawn job) reactor) := by
    induction jobs with
    | nil => exact fun _ reacts => reacts
    | cons job rest ih =>
      obtain ⟨first, later⟩ := List.forall_mem_cons.1 mine
      exact fun _ reacts => ih later _ (reacts.spawn first)
  exact { fits with reactor := reacts h.reactor fits.reactor }

theorem passTo (fits : h.Fits w t) {loop : EventLoop Code} (events : h.reactor = .events loop)
    (moment : Nat) : (passTo moment loop h).Fits w t := by
  have reacts := fits.reactor
  rw [events] at reacts
  have moved : Reacts w (.events { loop with clock := moment }) := reacts
  exact { fits with reactor := moved.stir _ }

theorem deliverSignal (fits : h.Fits w t) {loop : EventLoop Code} (reacts : Reacts w (.events loop))
    (signal : Signal) : (deliverSignal signal loop h).Fits w t := by
  have heard : Reacts w (.events { loop with waiting := loop.waiting.map (hear signal) }) := by
    refine ⟨reacts.1, fun job member => ?_⟩
    obtain ⟨waiting, old, rfl⟩ := List.mem_map.1 member
    have mine := reacts.2 waiting old
    cases waiting with
    | code | ticker | listener => exact mine
  exact { fits with reactor := heard.stir _ }

theorem reacts_of_findCue {loop later : EventLoop Code} {signal : Signal}
    (found : findCue h loop = some (signal, later)) (reacts : Reacts w (.events loop)) :
    Reacts w (.events later) := by
  unfold findCue at found
  split at found
  · cases found
  · split at found
    · cases found
    · cases found
      exact reacts

/-- While time passes or a signal comes, jobs only move. -/
theorem idle (fits : h.Fits w t) : (idle h).2.Fits w t := by
  unfold Host.idle
  split
  · rename_i loop events
    have reacts := fits.reactor
    rw [events] at reacts
    split
    · split
      · exact fits.passTo events _
      · split
        · rename_i found
          exact fits.deliverSignal (reacts_of_findCue found reacts) _
        · exact fits.passTo events _
    · split
      · rename_i found
        exact fits.deliverSignal (reacts_of_findCue found reacts) _
      · exact fits
  · exact fits

end Fits

theorem none_yielded : ∀ job ∈ ([] : List (Job Code)), Jobs w job :=
  fun _ none => absurd none List.not_mem_nil

section Polls

variable (heeds : dispatch.Heeds w)
include heeds

theorem runDetached_fits {body : Code} (foreign : body.Foreign w) :
    Keeps (Host.Fits w t) (runDetached dispatch body) := by
  intro h fits ended
  have leads := heeds t body foreign h fits
  unfold runDetached at ended ⊢
  generalize dispatch body h = x at ended leads ⊢
  obtain ⟨flow, k⟩ := x
  cases flow with
  | stalled => exact absurd rfl ended
  | returned | unwound => exact leads nofun

theorem turn_fits {job : Job Code} (mine : Jobs w job) :
    Act.Gives (Host.Fits w t) (Turn.Leaves w) (turn dispatch job) := by
  cases job with
  | code yields body =>
    cases yields with
    | zero =>
      refine ⟨(runDetached_fits heeds mine).andThen fun _ => .pure _, fun h a fits returned => ?_⟩
      obtain ⟨_, _, same⟩ := Act.returned_of_bind returned
      rw [turn, same] at returned
      cases returned
      trivial
    | succ yields =>
      refine ⟨.pure _, fun h a fits returned => ?_⟩
      cases returned
      exact mine
  | ticker ticker body => exact .step fun h fits => fits.tickerStep ticker mine
  | listener received => exact .step fun h fits => fits.listenerTurn received

theorem jobRound_fits (room : Nat) {yielded : List (Job Code)}
    (mine : ∀ job ∈ yielded, Jobs w job) :
    Keeps (Host.Fits w t) (jobRound dispatch room yielded) := by
  induction room generalizing yielded with
  | zero => exact Leads.andThen (.modify fun _ fits => fits.resume mine) fun _ => .pure _
  | succ room ih =>
    have next : Act.Gives (Host.Fits w t) (fun next => ∀ job, next = some job → Jobs w job)
        (Act.step nextJob) := .step fun _ fits => fits.nextJob
    refine next.andThen fun next known => ?_
    cases next with
    | none => exact Leads.andThen (.modify fun _ fits => fits.resume mine) fun _ => .pure _
    | some job =>
      refine (turn_fits heeds (known job rfl)).andThen fun turn left => ?_
      cases turn with
      | finished => exact (ih mine).andThen fun _ => .pure _
      | yielded job =>
        have more : ∀ other ∈ yielded ++ [job], Jobs w other :=
          List.forall_mem_append.2 ⟨mine, List.forall_mem_singleton.2 left⟩
        exact (ih more).andThen fun _ => .pure _
      | waiting job =>
        exact Leads.andThen (.modify fun _ fits => fits.putWaiting left) fun _ =>
          (ih mine).andThen fun _ => .pure _

theorem pollOnce_fits : Keeps (Host.Fits w t) (pollOnce dispatch) := by
  intro h fits ended
  have reacts := fits.reactor
  unfold pollOnce at ended ⊢
  cases reactor : h.reactor with
  | absent => exact fits
  | events loop =>
    simp only [reactor] at ended ⊢
    exact jobRound_fits heeds _ none_yielded h fits ended
  | planned plan polls blocks =>
    rw [reactor] at reacts
    simp only [reactor] at ended ⊢
    have counted : (countPoll plan polls blocks h).Fits w t := { fits with reactor := reacts }
    exact ((heeds t _ (reacts polls).1).andThen fun _ => .pure _) _ counted ended

theorem pollBatch_fits (limit : Nat) : Keeps (Host.Fits w t) (pollBatch dispatch limit) := by
  induction limit with
  | zero => exact .pure _
  | succ limit ih =>
    refine (pollOnce_fits heeds).andThen fun progressed => ?_
    cases progressed with
    | false => exact .pure _
    | true => exact ih.andThen fun _ => .pure _

theorem waitRounds_fits (patience : Nat) :
    Keeps (Host.Fits w t) (waitRounds dispatch patience) := by
  induction patience with
  | zero => exact .stall
  | succ patience ih =>
    refine (Leads.look _).andThen fun waiting => ?_
    cases waiting with
    | false => exact .pure _
    | true =>
      refine (jobRound_fits heeds _ none_yielded).andThen fun _ =>
        (Leads.look _).andThen fun stuck => ?_
      cases stuck with
      | false => exact ih
      | true =>
        refine Leads.andThen (.step fun _ fits => fits.idle) fun happened => ?_
        cases happened with
        | false => exact .stall
        | true => exact ih

theorem block_fits (patience : Nat) : Keeps (Host.Fits w t) (block dispatch patience) := by
  intro h fits ended
  have reacts := fits.reactor
  unfold block at ended ⊢
  cases reactor : h.reactor with
  | absent => exact fits
  | events loop =>
    rw [reactor] at reacts
    simp only [reactor] at ended ⊢
    have waits : ({ h with wake := h.wake.wait, reactor := .events loop } : Host).Fits w t :=
      { fits with reactor := reacts }
    exact waitRounds_fits heeds patience _ waits ended
  | planned plan polls blocks =>
    rw [reactor] at reacts
    simp only [reactor] at ended ⊢
    have counted : ({ h with reactor := .planned plan polls (blocks + 1) } : Host).Fits w t :=
      { fits with reactor := reacts }
    exact ((heeds t _ (reacts blocks).2).andThen fun _ => .pure _) _ counted ended

end Polls

end Host

end PluginHost
