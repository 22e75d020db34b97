import PluginHost.Proofs.Along
import PluginHost.Proofs.RunLoop.Polls

set_option autoImplicit false

namespace PluginHost

open Act (Keeps)

namespace Reactor

variable {β : Type} {reactor : Reactor β}

/-- How often a reactor has been polled, if it keeps count. -/
def polls : Reactor β → Nat
  | planned _ polls _ => polls
  | _ => 0

theorem spawn_of_cannot (cannot : reactor.canSpawn = false) (job : Job β) :
    reactor.spawn job = reactor := by
  cases reactor with
  | events loop => cases cannot
  | absent | planned => rfl

theorem stir_of_cannot (cannot : reactor.canSpawn = false) (happened : Job β → Bool) :
    reactor.stir happened = reactor := by
  cases reactor with
  | events loop => cases cannot
  | absent | planned => rfl

end Reactor

namespace Host

/-- The reactor is left alone unless it is one of events. -/
def SparesReactor (h after : Host) : Prop := h.reactor.canSpawn = false → after.reactor = h.reactor

theorem sparesReactor_post (h : Host) (priority : Int) (queue : Nat) (body : Code) :
    h.SparesReactor (h.post priority queue body).2 := by
  intro _
  unfold post
  split <;> rfl

theorem sparesReactor_changeWatch (h : Host) (watch : Nat) (change : Watch → Watch) :
    h.SparesReactor (h.changeWatch watch change) := fun cannot => Reactor.stir_of_cannot cannot _

theorem sparesReactor_answer (request : Request) (h : Host) :
    h.SparesReactor (answer request h).2 := by
  cases request with
  | send watch value => exact h.sparesReactor_changeWatch watch _
  | closeWatch watch => exact h.sparesReactor_changeWatch watch _
  | clear =>
    intro _
    simp only [answer, Host.clear]
    split <;> rfl
  | quit =>
    intro _
    simp only [answer, Host.quit]
    split <;> rfl
  | channel kind =>
    intro _
    simp only [answer, Host.channel]
    split <;> rfl
  | unsubscribe channel subscription =>
    intro _
    simp only [answer, Host.unsubscribe]
    split <;> rfl
  | method name =>
    intro _
    simp only [answer, Host.method]
    split <;> rfl
  | shared kind start =>
    intro _
    simp only [answer, Host.sharedCell]
    split <;> rfl
  | _ => exact fun _ => rfl

/-- Code leaves every reactor alone that is not one of events. -/
theorem upheld_sparesReactor : Upheld SparesReactor where
  refl _ _ := rfl
  trans := by
    intro h between last first later cannot
    have same := first cannot
    rw [← same] at cannot ⊢
    exact later cannot
  journal _ _ _ := rfl
  answer := sparesReactor_answer
  post priority queue body h := h.sparesReactor_post priority queue body
  keep _ _ _ _ := rfl
  invoke key h := by
    unfold Host.invoke
    split
    · exact fun _ => rfl
    · exact sparesReactor_post { h with keptPosts := h.keptPosts.filter fun k => k.1 ≠ key } _ _ _
  subscribe channel subscriber h := by
    unfold Host.subscribe
    split <;> exact fun _ => rfl
  provide method priority provider h := by
    unfold Host.provide
    split <;> exact fun _ => rfl
  spawn job h cannot := by
    unfold Host.spawn
    rw [if_neg (by rw [cannot]; exact nofun)]
  listen h cannot := Reactor.spawn_of_cannot cannot _
  begins _ _ := rfl

/-- The reactor does what a plan lays down, and has been polled so many times. -/
def Planned (plan : Plan Code) (polls : Nat) (h : Host) : Prop :=
  ∃ blocks, h.reactor = .planned plan polls blocks

variable {plan : Plan Code} {polls : Nat} {depth : Nat}

theorem Planned.polls_eq {h : Host} (planned : h.Planned plan polls) : h.reactor.polls = polls := by
  obtain ⟨blocks, reactor⟩ := planned
  rw [reactor]
  rfl

theorem Planned.spared {h after : Host} (planned : h.Planned plan polls)
    (spares : h.SparesReactor after) : after.Planned plan polls := by
  obtain ⟨blocks, reactor⟩ := planned
  exact ⟨blocks, (spares (by rw [reactor]; rfl)).trans reactor⟩

/-- What leaves other reactors alone keeps a planned one. -/
theorem Along.planned {α : Type} {act : Act Host α} (along : Along SparesReactor act) :
    Keeps (Planned plan polls) act :=
  fun h planned ended => planned.spared (along h h (upheld_sparesReactor.refl h) ended)

theorem runWithin_planned (code : Code) : Keeps (Planned plan polls) (Code.runWithin depth code) :=
  (upheld_sparesReactor.runWithin depth code).planned

theorem execute_planned : Keeps (Planned plan polls) (execute (Code.runWithin depth)) :=
  (upheld_sparesReactor.execute (upheld_sparesReactor.runWithin depth)).planned

/-- A wait is no poll. -/
theorem block_planned (patience : Nat) :
    Keeps (Planned plan polls) (block (Code.runWithin depth) patience) := by
  rintro h ⟨blocks, reactor⟩ ended
  have waits : Keeps (Planned plan polls)
      (Code.runWithin depth (plan.onBlock blocks) >>= fun _ => (pure () : Act Host Unit)) :=
    (runWithin_planned _).andThen fun _ => .pure _
  simp only [block, reactor] at ended ⊢
  exact waits _ ⟨blocks + 1, rfl⟩ ended

/-- The reactor has counted what is counted beside it. -/
def CountedBeside (plan : Plan Code) (polls : Nat) (x : Host × Nat) : Prop :=
  x.1.Planned plan (polls + x.2)

theorem counted_pollOnce_planned (plan : Plan Code) (polls depth : Nat) :
    Keeps (CountedBeside plan polls) (Polling.counted (pollOnce (Code.runWithin depth))) := by
  rintro ⟨h, made⟩ ⟨blocks, reactor⟩ ended
  have polled : Keeps (Planned plan (polls + made + 1))
      (Code.runWithin depth (plan.onPoll (polls + made)) >>= fun _ =>
        (pure (plan.productive (polls + made)) : Act Host Bool)) :=
    (runWithin_planned _).andThen fun _ => .pure _
  dsimp only at reactor
  simp only [Polling.counted, CountedBeside, pollOnce, reactor] at ended ⊢
  exact polled _ ⟨blocks, rfl⟩ ended

/-- A batch adds the polls that it makes to those that a planned reactor has counted. -/
theorem pollBatch_planned {limit : Nat} {h : Host} (planned : h.Planned plan polls)
    (ended : (pollBatch (Code.runWithin depth) limit h).1 ≠ .stalled) :
    (pollBatch (Code.runWithin depth) limit h).2.Planned plan
      (polls + Polling.pollsMade (pollOnce (Code.runWithin depth)) limit h) := by
  rw [pollBatch_eq_pollUpTo] at ended ⊢
  have counts :=
    Polling.pollUpTo_keeps (counted_pollOnce_planned plan polls depth) limit (h, 0) planned
  rw [Polling.pollUpTo_counted, Nat.zero_add] at counts
  exact counts ended

end Host

end PluginHost
