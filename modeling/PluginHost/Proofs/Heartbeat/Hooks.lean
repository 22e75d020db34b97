import PluginHost.Proofs.Heartbeat.Tasks

set_option autoImplicit false

namespace PluginHost

open Act (Leads Keeps Gives)
open Heartbeat (Wiring Tally)

variable {w : Wiring} {t : Tally} {h : Host} {dispatch : Dispatch}

namespace Host.Fits

/-- What the heartbeat and the monitor have beside their counts may change. -/
theorem writeOwn (fits : h.Fits w t) {cell : Nat} (value : Json)
    (own : cell = w.heartbeat.cancel ∨ cell = w.monitor.subscription) :
    (h.write cell value).Fits w t := by
  have distinct := fits.ledger.distinct
  simp only [Wiring.cells, List.nodup_cons, List.mem_cons, List.not_mem_nil, or_false,
    not_or] at distinct
  obtain ⟨_, ⟨_, limit, _, _, limitToo⟩, ⟨ticks, _, _, ticksToo⟩, ⟨seen, last, _⟩,
    ⟨_, seenToo⟩, lastToo, _⟩ := distinct
  rcases own with rfl | rfl
  · exact { fits with ledger := fits.ledger.write value (Ne.symm limit) (Ne.symm ticks) seen last }
  · exact { fits with
      ledger := fits.ledger.write value (Ne.symm limitToo) (Ne.symm ticksToo) (Ne.symm seenToo)
        (Ne.symm lastToo) }

theorem channel_eq (fits : h.Fits w t) (wired : t.wired = true) :
    h.channel beats = (w.channel, h) := by
  unfold Host.channel
  rw [fits.wired wired]

end Host.Fits

namespace Heartbeat

/-- The ticker that is started ticks at the heartbeat's channel and up to its limit. -/
theorem start_fits (wired : t.wired = true) :
    Keeps (Host.Fits w t) (Code.run dispatch (start w.heartbeat)) := by
  have channel : Gives (Host.Fits w t) (· = w.channel) (Act.step (Host.answer (.channel beats))) :=
    .step fun h fits => by
      simp only [Host.answer, fits.channel_eq wired, and_true]
      exact fits
  have limit : Gives (Host.Fits w t) (· = .int w.limit)
      (Act.step (Host.answer (.read w.heartbeat.limit))) :=
    .step fun h fits => ⟨fits, Host.read_of_cell fits.ledger.limit⟩
  refine channel.andThen fun number same => ?_
  subst same
  refine limit.andThen fun content same => ?_
  subst same
  refine Leads.andThen (.step fun _ fits => fits) fun interval => ?_
  refine Leads.andThen (.step fun _ fits => { fits with }) fun watch => ?_
  have ticks : Jobs w (.ticker ⟨interval.toNat, watch, none⟩ w.tick) := .inr rfl
  refine Leads.andThen (.step fun _ fits => fits.spawn ticks) fun result => ?_
  cases result with
  | error _ => exact .pure _
  | ok _ => exact Leads.andThen (.step fun _ fits => fits.writeOwn _ (.inl rfl)) fun _ => .pure _

theorem stop_fits : Keeps (Host.Fits w t) (Code.run dispatch (stop w.heartbeat)) := by
  have told : Keeps (Host.Fits w t) (Code.run dispatch
      (do
        let count ← Steps.read w.heartbeat.sequence
        tell .info "Heartbeat stopped" [("beats", .number count.toNat)] : Steps Unit).code) := by
    refine Leads.andThen (.step fun _ fits => fits) fun count => ?_
    exact Leads.andThen (.step fun _ fits => fits.tell .heartbeat nofun _ _ _) fun _ => .pure _
  refine Leads.andThen (.step fun _ fits => fits) fun cancel => ?_
  cases cancel with
  | int watch =>
    refine Leads.andThen (.step fun _ fits => fits.writeOwn _ (.inl rfl)) fun _ => ?_
    refine Leads.andThen (.step fun _ fits => fits.changeWatch _ _) fun _ => ?_
    exact Leads.andThen (.step fun _ fits => fits.changeWatch _ _) fun _ => told
  | _ => exact told

theorem release_fits (fits : h.Fits w t) : (release w.heartbeat h).Fits w t := by
  unfold release
  split
  · exact fits.changeWatch _ _
  · exact fits

end Heartbeat

namespace Monitor

theorem reload_foreign (w : Wiring) : (reload w.monitor).Foreign w :=
  ⟨trivial, fun _ => ⟨Origin.monitor_not_outOfSequence (by decide) _ _, fun _ => trivial⟩⟩

/-- When the monitor is stopped it takes back a subscription, whichever it has. -/
theorem stop_fits (unheard : t.live = false) :
    Keeps (Host.Fits w t) (Code.run dispatch (stop w.monitor)) := by
  have told : Keeps (Host.Fits w t) (Code.run dispatch
      (do
        let count ← Steps.read w.monitor.seen
        tell .info "Monitor stopped" [("beats", .number count.toNat)] : Steps Unit).code) := by
    refine Leads.andThen (.step fun _ fits => fits) fun count => ?_
    refine Leads.andThen (.step fun _ fits => ?_) fun _ => .pure _
    exact fits.say (Origin.monitor_not_outOfSequence (by decide) _ _)
  refine Leads.andThen (.step fun _ fits => fits) fun (subscription : Json) => ?_
  dsimp only
  split
  · refine Leads.andThen (.step fun _ fits => fits.writeOwn _ (.inr rfl)) fun _ => ?_
    exact Leads.andThen (.step fun _ fits => fits.unsubscribe (.inr unheard)) fun _ => told
  · exact told

/-- Whoever asks how many beats there were is told so, if nobody answers ahead of the monitor. -/
theorem call_counts (fits : h.Fits w t) (counted : t.counted = true)
    (nobody : ∀ m, h.methods[w.method]? = some m → ∀ p ∈ m.providers, p.1 ≤ priority.medium)
    (depth : Nat) (argument : Json) :
    Host.call (Code.runWithin (depth + 1)) w.method argument h =
      (.returned (.ok (.int t.seen)), h) := by
  obtain ⟨m, above, rest, found, split, ahead⟩ := fits.methods.first counted
  have first : m.providers = (priority.medium, fun _ => countSeen w.monitor) :: rest := by
    cases above with
    | nil => exact split
    | cons p above =>
      have among : p ∈ m.providers := split ▸ List.mem_cons_self
      exact absurd (ahead p List.mem_cons_self) (Int.not_lt.2 (nobody m found p among))
  have seen : h.read w.monitor.seen = .int t.seen := Host.read_of_cell fits.ledger.seen
  have answer : Code.runWithin (depth + 1) (countSeen w.monitor) h =
      (.returned (.ok (h.read w.monitor.seen)), h) := rfl
  unfold Host.call
  simp only [found, Method.attempts, first, List.map_cons, Host.askProviders, Act.bind_apply,
    answer, seen, Act.pure_apply]

end Monitor

end PluginHost
