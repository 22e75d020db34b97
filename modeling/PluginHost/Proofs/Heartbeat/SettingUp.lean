import PluginHost.Proofs.Heartbeat.Hooks

set_option autoImplicit false

namespace PluginHost

open Heartbeat (Wiring Tally OnTheWay)

variable {w : Wiring} {t : Tally} {h : Host}

/-- A host in which the monitor may be set up. -/
structure Host.Awaits (w : Wiring) (h : Host) : Prop where
  fits : h.Fits w { Tally.fresh false with live := false }
  way : OnTheWay w 1 0 h.executor
  /-- The next subscription to the beats gets the number that is to be the monitor's. -/
  channel : ∃ c, h.channels[w.channel]? = some c ∧ c.issued = w.subscription ∧
    ∀ s ∈ c.subscribers, s.1 ≠ w.subscription ∧ ∀ message, (s.2 message).Foreign w
  /-- Others may answer how many beats there were. -/
  method :
    (h.shared.find? (Shared.methodKey beatCount) = none ∧ h.methods.size = w.method) ∨
    (h.shared.find? (Shared.methodKey beatCount) = some (.method w.method) ∧
      w.method < h.methods.size)

/-- Whoever is asked before a new provider has a higher priority, or the same. -/
theorem Method.insertProvider_between {β μ : Type} (priority : Int) (provider : μ → β)
    (providers : List (Int × (μ → β))) :
    ∃ early late,
      insertProvider priority provider providers = early ++ (priority, provider) :: late ∧
        ∀ p ∈ early, p ∈ providers ∧ priority ≤ p.1 := by
  induction providers with
  | nil => exact ⟨[], [], rfl, fun _ none => absurd none List.not_mem_nil⟩
  | cons p rest ih =>
    by_cases lower : p.1 < priority
    · refine ⟨[], p :: rest, ?_, fun _ none => absurd none List.not_mem_nil⟩
      simp only [insertProvider, lower, if_true, List.nil_append]
    · obtain ⟨early, late, split, before⟩ := ih
      refine ⟨p :: early, late, ?_, List.forall_mem_cons.2
        ⟨⟨List.mem_cons_self, Int.not_lt.1 lower⟩, fun q member => ?_⟩⟩
      · simp only [insertProvider, lower, if_false, split, List.cons_append]
      · obtain ⟨among, higher⟩ := before q member
        exact ⟨List.mem_cons_of_mem _ among, higher⟩

namespace Heartbeat

variable {methods : Array (Method Code Json)}

/-- The monitor answers how many beats there were. Whoever is asked before it has a higher priority,
or the same. -/
def Provides (w : Wiring) (methods : Array (Method Code Json)) : Prop :=
  ∃ m before rest, methods[w.method]? = some m ∧
    m.providers = before ++ (priority.medium, fun _ => Monitor.countSeen w.monitor) :: rest ∧
    ∀ p ∈ before, priority.medium ≤ p.1

/-- The first one to answer at the monitor's priority is the monitor. -/
def Earliest (w : Wiring) (methods : Array (Method Code Json)) : Prop :=
  ∀ m, methods[w.method]? = some m → m.providers.find? (fun p => p.1 = priority.medium) =
    some (priority.medium, fun _ => Monitor.countSeen w.monitor)

theorem Provides.foremost (provides : Provides w methods) (earliest : Earliest w methods) :
    Foremost w methods := by
  obtain ⟨m, before, rest, found, split, higher⟩ := provides
  obtain ⟨_, above, later, splitToo, others⟩ :=
    List.find?_eq_some_iff_append.1 (earliest m found)
  have apart : ∀ p ∈ above, p.1 ≠ priority.medium := fun p member => by simpa using others p member
  refine ⟨m, above, later, found, splitToo, fun p member => ?_⟩
  -- the part that lacks the priority ends where the monitor comes first
  have early : p ∈ before := by
    rcases List.append_eq_append_iff.1 (split.symm.trans splitToo) with
      ⟨between, whole, same⟩ | ⟨between, whole, _⟩
    · cases between with
      | nil => rwa [whole, List.append_nil] at member
      | cons q between =>
        obtain ⟨rfl, _⟩ := List.cons.inj same
        exact absurd rfl (apart _ (whole ▸ List.mem_append_right _ List.mem_cons_self))
    · exact whole ▸ List.mem_append_left _ member
  exact Int.lt_iff_le_and_ne.2 ⟨higher p early, Ne.symm (apart p member)⟩

end Heartbeat

namespace Host.Fits

/-- The monitor listens from now on. -/
theorem listens (fits : h.Fits w { t with live := false })
    (way : OnTheWay w t.next t.published h.executor) {c : Channel Code Json}
    (found : h.channels[w.channel]? = some c) (issued : c.issued = w.subscription)
    (others : ∀ s ∈ c.subscribers, s.1 ≠ w.subscription ∧ ∀ message, (s.2 message).Foreign w) :
    (h.subscribe w.channel (Monitor.seeBeat w.monitor)).1 = w.subscription ∧
      (h.subscribe w.channel (Monitor.seeBeat w.monitor)).2.Fits w { t with live := true } := by
  unfold Host.subscribe
  simp only [found, issued, true_and]
  have inside := fits.channels.inside
  have tuned : Heartbeat.Tuned w (c.subscribe (Monitor.seeBeat w.monitor)) := by
    refine ⟨?_, c.subscribers, [], ?_, others, fun _ none => absurd none List.not_mem_nil⟩
    · simp only [Channel.subscribe, issued]
      exact Nat.lt_succ_self _
    · simp only [Channel.subscribe, issued]
  exact { fits with
    way := fun _ => way
    channels :=
      { inside := by rwa [Array.size_setIfInBounds]
        others := fun number d apart foundToo => by
          rw [Array.getElem?_setIfInBounds_ne (Ne.symm apart)] at foundToo
          exact fits.channels.others number d apart foundToo
        tuned := fun _ => ⟨_, Array.getElem?_setIfInBounds_self_of_lt inside, tuned⟩ }
    methods := { fits.methods with }
    ledger := { fits.ledger with } }

/-- Nobody of the monitor's priority is asked before it. -/
theorem counts (fits : h.Fits w { t with counted := false })
    (foremost : Heartbeat.Foremost w h.methods) : h.Fits w { t with counted := true } :=
  { fits with
    channels := { fits.channels with }
    ledger := { fits.ledger with }
    methods := { first := fun _ => foremost, others := fits.methods.others } }

end Host.Fits

namespace Monitor

def subscribed (w : Wiring) (h : Host) : Host :=
  (h.subscribe w.channel (seeBeat w.monitor)).2.write w.monitor.subscription
    (.array [.int w.channel, .int w.subscription])

theorem method_subscribed (awaits : h.Awaits w) :
    ((subscribed w h).method beatCount).1 = w.method ∧
      ((subscribed w h).method beatCount).2.shared.find? (Shared.methodKey beatCount) =
        some (.method w.method) ∧
      ∃ m, ((subscribed w h).method beatCount).2.methods[w.method]? = some m := by
  have same : (subscribed w h).shared = h.shared ∧ (subscribed w h).methods = h.methods := by
    unfold subscribed Host.subscribe
    split <;> exact ⟨rfl, rfl⟩
  unfold Host.method
  rw [same.1]
  rcases awaits.method with ⟨absent, size⟩ | ⟨named, inside⟩
  · simp only [absent, same.2, size, Host.shareNew, Members.find?_insert, if_true, true_and]
    refine ⟨.new beatCount, ?_⟩
    rw [← size, Array.getElem?_push_size]
  · simp only [named, same.1, same.2, true_and]
    exact ⟨_, Array.getElem?_eq_getElem inside⟩

theorem run_setUp (dispatch : Dispatch) (cells : Cells) (h : Host) :
    Code.run dispatch (setUp cells) h =
      let channel := h.channel beats
      let subscription := channel.2.subscribe channel.1 (seeBeat cells)
      let method := (subscription.2.write cells.subscription
        (.array [.int channel.1, .int subscription.1])).method beatCount
      (.returned (.ok .null), (method.2.provide method.1 priority.medium fun _ =>
        countSeen cells).2) := rfl

/-- Whoever else answers, the monitor does from now on. -/
theorem provides_provide {m : Method Code Json} (found : h.methods[w.method]? = some m) :
    Heartbeat.Provides w
      (h.provide w.method priority.medium fun _ => countSeen w.monitor).2.methods := by
  obtain ⟨early, late, split, before⟩ := Method.insertProvider_between priority.medium
    (fun _ => countSeen w.monitor) m.providers
  have inside : w.method < h.methods.size := (Array.getElem?_eq_some_iff.1 found).1
  simp only [Host.provide, found]
  exact ⟨_, early, late, Array.getElem?_setIfInBounds_self_of_lt inside, split,
    fun p member => (before p member).2⟩

/-- What the monitor does to set itself up makes it part of the tally. -/
theorem setUp_fits (awaits : h.Awaits w) (dispatch : Dispatch) :
    (Code.run dispatch (setUp w.monitor) h).1 = .returned (.ok .null) ∧
      (Code.run dispatch (setUp w.monitor) h).2.Fits w (Tally.fresh false) ∧
      (Code.run dispatch (setUp w.monitor) h).2.shared.find? (Shared.methodKey beatCount) =
        some (.method w.method) ∧
      Heartbeat.Provides w (Code.run dispatch (setUp w.monitor) h).2.methods := by
  obtain ⟨c, found, issued, others⟩ := awaits.channel
  obtain ⟨number, listens⟩ := Host.Fits.listens (t := Tally.fresh false) awaits.fits awaits.way
    found issued others
  obtain ⟨method, named, m, known⟩ := method_subscribed awaits
  have fits : (subscribed w h).Fits w (Tally.fresh false) := listens.writeOwn _ (.inr rfl)
  have foreign : (countSeen w.monitor).Foreign w := ⟨trivial, fun _ => trivial⟩
  have counts := (fits.method beatCount).provide w.method priority.medium fun _ => foreign
  have runs : Code.run dispatch (setUp w.monitor) h = (.returned (.ok .null),
      (((subscribed w h).method beatCount).2.provide w.method priority.medium fun _ =>
        countSeen w.monitor).2) := by
    rw [run_setUp, awaits.fits.channel_eq rfl]
    dsimp only
    rw [number]
    show (_, (((subscribed w h).method beatCount).2.provide ((subscribed w h).method beatCount).1
      priority.medium fun _ => countSeen w.monitor).2) = _
    rw [method]
  rw [runs]
  refine ⟨rfl, counts, ?_, provides_provide known⟩
  unfold Host.provide
  simp only [known]
  exact named

end Monitor

end PluginHost
