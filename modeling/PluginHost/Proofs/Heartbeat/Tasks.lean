import PluginHost.Proofs.Executor.Work
import PluginHost.Proofs.Heartbeat.Beating

set_option autoImplicit false

namespace PluginHost

open Heartbeat (Wiring Tally)

variable {w : Wiring} {t : Tally} {h : Host}

namespace Host.Fits

/-- What holds of a host while the monitor listens holds of it when nobody asks any more whether it
does. -/
theorem unheard (fits : h.Fits w t) : h.Fits w { t with live := false } :=
  { fits with
    way := nofun
    channels := { fits.channels with tuned := nofun }
    methods := { fits.methods with }
    ledger := { fits.ledger with } }

theorem quits (fits : h.Fits w t) : h.quit.Fits w { t with quitting := true } :=
  { fits.quit with
    quitting := fun _ => rfl
    channels := { fits.quit.channels with }
    methods := { fits.quit.methods with }
    ledger := { fits.quit.ledger with } }

end Host.Fits

theorem Host.notes_fits (fits : h.Fits w t) (notes : List String) :
    (notes.foldl Host.note h).Fits w t := by
  induction notes generalizing h with
  | nil => exact fits
  | cons text rest ih => exact ih (fits.note text)

namespace Heartbeat

/-- What comes after a tally: the monitor sees the next beat or none. When the ticks reach the limit
the task that quits is the last one that has been posted. -/
structure Tally.Next (w : Wiring) (t after : Tally) (posted : Nat) : Prop where
  steady : after.Steady w
  counted : after.counted = t.counted
  seen : after.seen = t.seen ∨ after.seen = t.seen + 1
  quitter : after.quitter =
    if t.ticks < w.limit ∧ w.limit ≤ after.ticks then some (posted - 1) else t.quitter

theorem Tally.Next.of_ticks {after : Tally} (steady : after.Steady w)
    (counted : after.counted = t.counted) (seen : after.seen = t.seen ∨ after.seen = t.seen + 1)
    (ticks : after.ticks = t.ticks) (quitter : after.quitter = t.quitter) (posted : Nat) :
    t.Next w after posted := by
  refine ⟨steady, counted, seen, ?_⟩
  rw [ticks, if_neg fun ⟨below, reached⟩ => Nat.not_le.2 below reached]
  exact quitter

theorem Tally.Next.refl (steady : t.Steady w) (posted : Nat) : t.Next w t posted :=
  .of_ticks steady rfl (.inl rfl) rfl rfl posted

theorem Tally.Next.tick (steady : t.Steady w) (posted : Nat) :
    t.Next w (t.tick w (posted - 1)) posted := by
  refine ⟨steady.tick _, rfl, .inl rfl, ?_⟩
  have last : t.ticks + 1 = w.limit ↔ t.ticks < w.limit ∧ w.limit ≤ t.ticks + 1 := by omega
  simp only [Tally.tick, Tally.mark, last]

/-- A host fits the tally that comes next, in which the monitor listens if nothing fails. -/
def Comes (w : Wiring) (t : Tally) (h : Host) (fails : Prop) : Prop :=
  ∃ after : Tally, t.Next w after h.executor.posted ∧ after.wired = t.wired ∧ h.Fits w after ∧
    (after.live = true ∨ fails)

variable {depth : Nat}

/-- A task of others, or a tick. -/
theorem postable_comes (steady : t.Steady w) (live : t.live = true) (fits : h.Fits w t)
    {task : Task Code} (postable : task.body.Postable w)
    (ended : (Code.runWithin depth task.body h).1 ≠ .stalled) :
    Comes w t (Code.runWithin depth task.body h).2
      (∃ payload, (Code.runWithin depth task.body h).1 = .unwound payload) := by
  cases depth with
  | zero => exact absurd rfl ended
  | succ depth =>
    rcases postable with foreign | ticks
    · have kept := Code.runWithin_heeds (depth + 1) t task.body foreign h fits ended
      exact ⟨t, .refl steady _, rfl, kept, .inl live⟩
    · rw [ticks]
      have ran := (tick_runs fits steady (Code.runWithin depth)).2
      exact ⟨t.tick w _, .tick steady _, rfl, ran, .inl live⟩

/-- The task that delivers the next beat. -/
theorem carries_comes (steady : t.Steady w) (live : t.live = true) (room : t.next ≤ t.published)
    (fits : h.Fits w { t with next := t.next + 1 }) {task : Task Code}
    (carries : Carries w t.next task)
    (ended : (Code.runWithin depth task.body h).1 ≠ .stalled) :
    Comes w t (Code.runWithin depth task.body h).2
      (∃ payload, (Code.runWithin depth task.body h).1 = .unwound payload) := by
  obtain ⟨beat, number, body⟩ := carries.beat
  rw [body] at ended ⊢
  have next := steady.next live
  have expected : Monitor.seqOf (Beat.codec.write beat) = t.seen + 1 := by
    rw [Monitor.seqOf_write, number, next]
  cases depth with
  | zero => exact absurd rfl ended
  | succ depth =>
    have sees : Host.Sees w { t with next := t.next + 1 }
        (Code.runWithin (depth + 1) (w.delivery beat) h) :=
      Host.Sees.andThen ended (Host.deliver_sees expected live fits) fun _ => .pure _
    rcases sees with seen | ⟨unwound, unseen⟩
    · let after : Tally := { t with next := t.next + 1, seen := t.seen + 1 }
      have steadyToo : after.Steady w :=
        ⟨steady.published, Nat.le_trans (Nat.le_of_eq next.symm) room,
          fun _ => congrArg (· + 1) next, steady.quitter⟩
      have nextToo := Tally.Next.of_ticks (t := t) steadyToo rfl (.inr rfl) rfl rfl
      exact ⟨after, nextToo _, rfl, seen, .inl live⟩
    · let after : Tally := { t with next := t.next + 1, live := false }
      have steadyToo : after.Steady w :=
        ⟨steady.published, steady.behind, (nomatch ·), steady.quitter⟩
      have nextToo := Tally.Next.of_ticks (t := t) steadyToo rfl (.inl rfl) rfl rfl
      exact ⟨after, nextToo _, rfl, unseen.unheard, .inr unwound⟩

theorem runTask_comes {task : Task Code} {hint : Bool}
    (comes : ∀ k : Host, h.tell .executor .trace "Running task"
        [("priority", .number task.priority), ("sequence", .number task.sequence)] = k →
      (Code.runWithin depth task.body k).1 ≠ .stalled →
      Comes w t (Code.runWithin depth task.body k).2
        (∃ payload, (Code.runWithin depth task.body k).1 = .unwound payload))
    (ended : (Host.runTask (Code.runWithin depth) task hint h).1 ≠ .stalled) :
    Comes w t (Host.runTask (Code.runWithin depth) task hint h).2
      (∃ e, (Host.runTask (Code.runWithin depth) task hint h).1 = .returned (.error e)) := by
  unfold Host.runTask at ended ⊢
  rw [Act.bind_apply, Act.modify_apply] at ended ⊢
  dsimp only at ended ⊢
  generalize told : h.tell .executor .trace "Running task"
    [("priority", .number task.priority), ("sequence", .number task.sequence)] = k at ended ⊢
  have comes := comes k told
  rw [Act.bind_apply, Act.guarded] at ended ⊢
  generalize Code.runWithin depth task.body k = out at ended comes ⊢
  obtain ⟨flow, k⟩ := out
  cases flow with
  | stalled => exact absurd rfl ended
  | returned result =>
    obtain ⟨after, next, wired, fits, live | ⟨_, none⟩⟩ := comes (by simp)
    · exact ⟨after, next, wired, fits, .inl live⟩
    · cases none
  | unwound payload =>
    obtain ⟨after, next, wired, fits, _⟩ := comes (by simp)
    exact ⟨after, next, wired, fits, .inr ⟨_, rfl⟩⟩

/-- A task that is taken out of its queue and run. -/
theorem taken_comes (steady : t.Steady w) (live : t.live = true) (fits : h.Fits w t)
    {queue : Nat} {task : Task Code} {rest : Executor Code}
    (takes : h.executor.Takes queue task rest) {hint : Bool}
    (ended : (Host.runTask (Code.runWithin depth) task hint { h with executor := rest }).1 ≠
      .stalled) :
    Comes w t (Host.runTask (Code.runWithin depth) task hint { h with executor := rest }).2
      (∃ e, (Host.runTask (Code.runWithin depth) task hint { h with executor := rest }).1 =
        .returned (.error e)) := by
  refine runTask_comes (fun later same ended => ?_) ended
  subst same
  have inside : 0 < rest.queues.size := Nat.lt_of_lt_of_eq fits.queue takes.count.symm
  have marked := fits.marked.take takes
  rcases (fits.way live).take takes with ⟨postable, left⟩ | ⟨carries, left⟩
  · have taken : ({ h with executor := rest } : Host).Fits w t :=
      { fits with queue := inside, way := fun _ => left, marked := marked }
    exact postable_comes steady live (taken.tell .executor nofun _ _ _) postable ended
  · have taken : ({ h with executor := rest } : Host).Fits w { t with next := t.next + 1 } :=
      { fits with
        queue := inside
        way := fun _ => left
        marked := marked
        channels := { fits.channels with }
        methods := { fits.methods with }
        ledger := { fits.ledger with } }
    have room : t.next ≤ t.published := Nat.le_of_succ_le_succ left.next_le
    exact carries_comes steady live room (taken.tell .executor nofun _ _ _) carries ended

/-- An attempt to run a task runs one, or leaves the tally as it is. -/
theorem execute_comes (depth : Nat) (steady : t.Steady w) (live : t.live = true)
    (fits : h.Fits w t) (ended : (Host.execute (Code.runWithin depth) h).1 ≠ .stalled) :
    Comes w t (Host.execute (Code.runWithin depth) h).2
      (∃ e, (Host.execute (Code.runWithin depth) h).1 = .returned (.error e)) := by
  have stays : ∀ {k : Host} {fails : Prop}, k.Fits w t → Comes w t k fails :=
    fun kept => ⟨t, .refl steady _, rfl, kept, .inl live⟩
  unfold Host.execute at ended ⊢
  dsimp only at ended ⊢
  generalize said : (h.executor.policy.select h.executor.views).notes.foldl Host.note h = k
    at ended ⊢
  have noted : k.Fits w t := said ▸ Host.notes_fits fits _
  cases selected : (h.executor.policy.select h.executor.views).selection with
  | error payload =>
    exact stays noted
  | ok selection =>
    simp only [selected] at ended ⊢
    cases followed : k.executor.follow selection with
    | idle more =>
      exact stays noted
    | nothing queue more =>
      exact stays (noted.tell .executor nofun _ _ _)
    | task task rest hint =>
      simp only [followed] at ended ⊢
      obtain ⟨_, taken⟩ := Executor.follow_eq_task followed
      exact taken_comes steady live noted (Executor.takes_of_take? taken) ended

end Heartbeat

end PluginHost
