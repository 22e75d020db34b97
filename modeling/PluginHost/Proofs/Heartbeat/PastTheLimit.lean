import PluginHost.Proofs.Heartbeat.Beside
import Mathlib.Logic.Relation

/-!
Ticks past the limit. The task that quits at the limit waits behind ticks that are queued already,
and they are counted when they run, though they publish nothing. So the count that a heartbeat
tells, and logs when it is stopped, is that of its ticks; it is that of its beats up to the limit.
-/

set_option autoImplicit false

namespace PluginHost.Heartbeat

open Relation (ReflTransGen)

variable {w : Wiring} {h start last : Host}

structure Created (w : Wiring) (start : Host) : Prop where
  counts : Counts w 0 start
  apart : w.heartbeat.cancel ≠ w.heartbeat.sequence
  spared : start.Spared w

theorem created (made : create h = (plugin w.heartbeat, start))
    (queue : 0 < h.executor.queues.size) (spared : h.Spared w) : Created w start := by
  have cells := congrArg (fun made => made.1.cells) made
  have after := congrArg Prod.snd made
  simp only [create, Host.allocate, plugin, Array.size_push, List.cons.injEq, and_true] at cells
  obtain ⟨_, _, sequence, cancel⟩ := cells
  subst after
  refine ⟨⟨queue, ?_⟩, by omega, spared.tasks, { spared.kept with }⟩
  let own := (h.cells.push (.int 1000)).push (.int 0)
  have place : own.size = w.heartbeat.sequence := by
    rw [← sequence, Array.size_push, Array.size_push]
  have fresh : (own.push (.int 0))[w.heartbeat.sequence]? = some (.int 0) := by
    rw [← place]
    exact Array.getElem?_push_size
  exact getElem?_push_of_some fresh .null

/-- What happens on a host with a heartbeat: code of others runs with all that it sets off, ticks
among that, or something is done at once that leaves the heartbeat's count alone. -/
inductive Goes (w : Wiring) (h : Host) : Host → Prop
  | runs (depth : Nat) {code : Code} (spares : code.Spares w)
      (ended : (Code.runWithin depth code h).1 ≠ .stalled) :
      Goes w h (Code.runWithin depth code h).2
  | aside {after : Host} (sparing : h.Sparing w after) : Goes w h after

theorem Created.follows (created : Created w start) (goes : ReflTransGen (Goes w) start last) :
    start.Follows w last := by
  induction goes with
  | refl => exact ⟨created.spared, 0, 0, .none⟩
  | tail _ goes ih =>
    cases goes with
    | runs depth spares ended =>
      exact Code.runWithin_follows created.counts depth _ (.inl spares) _ ih ended
    | aside sparing => exact ih.sparing sparing

theorem Counts.beatsSoFar {ticks : Nat} (counts : Counts w ticks h) :
    beatsSoFar (plugin w.heartbeat) h = ticks := by
  show (h.read w.heartbeat.sequence).toNat = ticks
  rw [Host.read_of_cell counts.count]
  rfl

/-- When it is stopped, the heartbeat logs what it has counted. -/
theorem stop_logs {ticks : Nat} (counts : Counts w ticks h)
    (apart : w.heartbeat.cancel ≠ w.heartbeat.sequence) (dispatch : Dispatch) :
    (Code.run dispatch (stop w.heartbeat) h).2.journal = h.journal.push
      (.event (Origin.heartbeat.event .info "Heartbeat stopped" [("beats", .number ticks)])) := by
  have told : ∀ k : Host, Counts w ticks k → k.journal = h.journal →
      (Code.run dispatch (do
        let count ← Steps.read w.heartbeat.sequence
        tell .info "Heartbeat stopped" [("beats", .number count.toNat)] : Steps Unit).code
        k).2.journal = h.journal.push
      (.event (Origin.heartbeat.event .info "Heartbeat stopped" [("beats", .number ticks)])) := by
    intro k counts same
    have number : ((k.read w.heartbeat.sequence).toNat : Int) = ticks :=
      congrArg Nat.cast counts.beatsSoFar
    show (k.tell .heartbeat .info "Heartbeat stopped"
      [("beats", .number (k.read w.heartbeat.sequence).toNat)]).journal = _
    rw [number, ← same]
    rfl
  have reads : ∀ next : Json → Code,
      Code.run dispatch (.ask (.read w.heartbeat.cancel) next) h =
        Code.run dispatch (next (h.read w.heartbeat.cancel)) h := fun _ => rfl
  refine (congrArg (fun ran => ran.2.journal) (reads _)).trans ?_
  generalize h.read w.heartbeat.cancel = cancel
  cases cancel with
  | int watch =>
    refine told _ ⟨counts.queue, ?_⟩ rfl
    exact (Array.getElem?_setIfInBounds_ne apart).trans counts.count
  | _ => exact told h counts rfl

/-- The count is that of the ticks that have run, and so is what is logged at the end. The beats
that were published are as many, but for those past the limit. -/
theorem beats_of_ticks (made : create h = (plugin w.heartbeat, start))
    (queue : 0 < h.executor.queues.size) (spared : h.Spared w)
    (goes : ReflTransGen (Goes w) start last) :
    ∃ ticks published, Beats w start ticks published last ∧
      beatsSoFar (plugin w.heartbeat) last = ticks ∧
      (∀ dispatch, (Code.run dispatch (stop w.heartbeat) last).2.journal = last.journal.push
        (.event (Origin.heartbeat.event .info "Heartbeat stopped" [("beats", .number ticks)]))) ∧
      published = (if w.limit = 0 then ticks else min ticks w.limit) ∧
      (beatsSoFar (plugin w.heartbeat) last = published ↔ w.limit = 0 ∨ ticks ≤ w.limit) := by
  have created := created made queue spared
  obtain ⟨ticks, published, beats⟩ := (created.follows goes).beats
  obtain ⟨counts, amount⟩ := beats.counted created.counts
  refine ⟨ticks, published, beats, counts.beatsSoFar, stop_logs counts created.apart, amount, ?_⟩
  rw [counts.beatsSoFar, amount, Wiring.published]
  split <;> omega

/-- A heartbeat that is to publish one beat. -/
def oneBeat : Wiring :=
  { heartbeat := ⟨0, 1, 2, 3⟩, monitor := ⟨4, 5, 6⟩, channel := 0, subscription := 0, method := 0,
    limit := 1 }

/-- Two of its ticks are queued before the first of them runs. -/
def twoTicks : Host :=
  (((create {}).2.post priority.medium 0 oneBeat.tick).2.post priority.medium 0 oneBeat.tick).2

def runsOne : Code := .execute fun _ => .nothing

def bothRan : Host :=
  (Code.runWithin 2 runsOne (Code.runWithin 2 runsOne twoTicks).2).2

theorem spared_empty (w : Wiring) : ({} : Host).Spared w where
  tasks := nofun
  kept := ⟨nofun, nofun, nofun⟩

theorem create_oneBeat : create {} = (plugin oneBeat.heartbeat, (create {}).2) := rfl

theorem bothRan_goes : ReflTransGen (Goes oneBeat) (create {}).2 bothRan := by
  have mine : oneBeat.tick.Spares oneBeat ∨ oneBeat.tick = oneBeat.tick := .inr rfl
  have queued : ReflTransGen (Goes oneBeat) (create {}).2 twoTicks :=
    (ReflTransGen.single (.aside (.post _ _ _ mine))).tail (.aside (.post _ _ _ mine))
  have spares : runsOne.Spares oneBeat := fun _ => trivial
  have ends : ∀ h, (Code.runWithin 2 runsOne h).1.map Except.toBool = .returned true →
      (Code.runWithin 2 runsOne h).1 ≠ .stalled := by
    intro h returned stalled
    rw [stalled] at returned
    cases returned
  exact (queued.tail (.runs 2 spares (ends _ (by decide +kernel)))).tail
    (.runs 2 spares (ends _ (by decide +kernel)))

/-- The general theorem where two ticks have run and one beat was published. -/
theorem beats_of_ticks_of_two :
    create {} = (plugin oneBeat.heartbeat, (create {}).2) ∧
    0 < ({} : Host).executor.queues.size ∧ ({} : Host).Spared oneBeat ∧
    ReflTransGen (Goes oneBeat) (create {}).2 bothRan ∧
    Beats oneBeat (create {}).2 2 1 bothRan ∧
    bothRan.journal.size + 1 =
      (Code.run (Code.runWithin 0) (stop oneBeat.heartbeat) bothRan).2.journal.size := by
  obtain ⟨ticks, published, beats, counted, logs, amount, _⟩ :=
    beats_of_ticks create_oneBeat (by decide) (spared_empty _) bothRan_goes
  have two : beatsSoFar (plugin oneBeat.heartbeat) bothRan = 2 := by decide +kernel
  have ticks : ticks = 2 := counted.symm.trans two
  subst ticks
  have one : published = 1 := amount
  subst one
  refine ⟨rfl, by decide, spared_empty _, bothRan_goes, beats, ?_⟩
  rw [logs, Array.size_push]

/-- The second tick runs before the task that quits, and it is counted though no beat is left. -/
theorem beats_ne_published :
    ∃ ticks published, ReflTransGen (Goes oneBeat) (create {}).2 bothRan ∧
      Beats oneBeat (create {}).2 ticks published bothRan ∧
      beatsSoFar (create {}).1 bothRan = 2 ∧ published = 1 ∧ oneBeat.deliveries bothRan = 1 := by
  have created := created create_oneBeat (by decide) (spared_empty _)
  obtain ⟨ticks, published, beats⟩ := (created.follows bothRan_goes).beats
  obtain ⟨counts, amount⟩ := beats.counted created.counts
  have two : beatsSoFar (plugin oneBeat.heartbeat) bothRan = 2 := by decide +kernel
  have ticked : ticks = 2 := counts.beatsSoFar.symm.trans two
  subst ticked
  exact ⟨2, published, bothRan_goes, beats, two, amount, by decide +kernel⟩

end PluginHost.Heartbeat
