import PluginHost.Proofs.Heartbeat.Others

set_option autoImplicit false

namespace PluginHost

open Act (Leads Keeps)
open Heartbeat (Wiring Tally Carries)

variable {w : Wiring} {t : Tally} {dispatch : Dispatch} {h : Host}

namespace Code

theorem run_post (dispatch : Dispatch) (priority : Int) (queue : Nat) (body : Code)
    (next : Except Failure Unit → Code) (h : Host) :
    run dispatch (.post priority queue body next) h =
      run dispatch (next (h.post priority queue body).1) (h.post priority queue body).2 := rfl

end Code

namespace Heartbeat

namespace Wiring

theorem published_of_beyond {ticks : Nat} (beyond : 0 < w.limit ∧ w.limit < ticks + 1) :
    w.published (ticks + 1) = w.published ticks := by
  obtain ⟨limited, past⟩ := beyond
  simp only [published, Nat.ne_of_gt limited, if_false]
  omega

theorem published_of_within {ticks : Nat} (within : ¬ (0 < w.limit ∧ w.limit < ticks + 1)) :
    w.published ticks = ticks ∧ w.published (ticks + 1) = ticks + 1 := by
  simp only [published]
  split
  · exact ⟨rfl, rfl⟩
  · omega

theorem published_le {ticks : Nat} (limited : 0 < w.limit) : w.published ticks ≤ w.limit := by
  simp only [published, Nat.ne_of_gt limited, if_false]
  exact Nat.min_le_right _ _

end Wiring

/-- As many beats are published as there are ticks, up to the limit, and the monitor has seen those
that are delivered. -/
structure Tally.Steady (w : Wiring) (t : Tally) : Prop where
  published : t.published = w.published t.ticks
  behind : t.seen ≤ t.published
  next : t.live = true → t.next = t.seen + 1
  quitter : ∀ number, t.quitter = some number → 0 < w.limit ∧ w.limit ≤ t.ticks

/-- The tally of a heartbeat and a monitor that have just been set up. -/
def Tally.fresh (counted : Bool) : Tally :=
  { live := true, wired := true, counted := counted, ticks := 0, published := 0, next := 1,
    seen := 0, quitter := none, quitting := false }

theorem Tally.steady_fresh (w : Wiring) (counted : Bool) : (Tally.fresh counted).Steady w := by
  refine ⟨?_, Nat.le_refl _, fun _ => rfl, nofun⟩
  simp only [fresh, Wiring.published, Nat.zero_min, ite_self]

namespace Ledger

variable {cells : Array Json}

/-- A tick is counted. -/
theorem count (ledger : Ledger w t cells) :
    Ledger w { t with ticks := t.ticks + 1 }
      (cells.setIfInBounds w.heartbeat.sequence (.int ((t.ticks + 1 : Nat) : Int))) := by
  have distinct := ledger.distinct
  simp only [Wiring.cells, List.nodup_cons, List.mem_cons, List.not_mem_nil, or_false,
    not_or] at distinct
  obtain ⟨_, ⟨limit, _⟩, ⟨_, seen, last, _⟩, _⟩ := distinct
  have inside : w.heartbeat.sequence < cells.size := ledger.allotted _ (by simp [Wiring.cells])
  refine ⟨ledger.distinct, fun cell member => ?_, ?_, ?_, ?_, fun positive => ?_⟩
  · rw [Array.size_setIfInBounds]
    exact ledger.allotted cell member
  · rw [Array.getElem?_setIfInBounds_ne (Ne.symm limit)]
    exact ledger.limit
  · exact Array.getElem?_setIfInBounds_self_of_lt inside
  · rw [Array.getElem?_setIfInBounds_ne seen]
    exact ledger.seen
  · obtain ⟨beat, found, number⟩ := ledger.last positive
    refine ⟨beat, ?_, number⟩
    rw [Array.getElem?_setIfInBounds_ne last]
    exact found

/-- A beat that is seen is counted and kept as the last one. -/
theorem see (ledger : Ledger w t cells) {beat : Json} (number : Monitor.seqOf beat = t.seen + 1) :
    Ledger w { t with seen := t.seen + 1 }
      ((cells.setIfInBounds w.monitor.seen (.int ((t.seen + 1 : Nat) : Int))).setIfInBounds
        w.monitor.last beat) := by
  have distinct := ledger.distinct
  simp only [Wiring.cells, List.nodup_cons, List.mem_cons, List.not_mem_nil, or_false,
    not_or] at distinct
  obtain ⟨_, ⟨_, _, limitSeen, limitLast, _⟩, ⟨_, ticksSeen, ticksLast, _⟩, _, ⟨apart, _⟩, _⟩ :=
    distinct
  have seen : w.monitor.seen < cells.size := ledger.allotted _ (by simp [Wiring.cells])
  have last : w.monitor.last < cells.size := ledger.allotted _ (by simp [Wiring.cells])
  refine ⟨ledger.distinct, fun cell member => ?_, ?_, ?_, ?_, fun _ => ⟨beat, ?_, number⟩⟩
  · rw [Array.size_setIfInBounds, Array.size_setIfInBounds]
    exact ledger.allotted cell member
  · rw [Array.getElem?_setIfInBounds_ne (Ne.symm limitLast),
      Array.getElem?_setIfInBounds_ne (Ne.symm limitSeen)]
    exact ledger.limit
  · rw [Array.getElem?_setIfInBounds_ne (Ne.symm ticksLast),
      Array.getElem?_setIfInBounds_ne (Ne.symm ticksSeen)]
    exact ledger.ticks
  · rw [Array.getElem?_setIfInBounds_ne (Ne.symm apart)]
    exact Array.getElem?_setIfInBounds_self_of_lt seen
  · refine Array.getElem?_setIfInBounds_self_of_lt ?_
    rw [Array.size_setIfInBounds]
    exact last

end Ledger

end Heartbeat

namespace Host

theorem read_of_cell {cell : Nat} {value : Json} (found : h.cells[cell]? = some value) :
    h.read cell = value := by
  simp only [read, found, Option.getD_some]

theorem post_ok (inside : 0 < h.executor.queues.size) (priority : Int) (body : Code) :
    (h.post priority 0 body).1 = .ok () ∧
      (h.post priority 0 body).2.executor.posted = h.executor.posted + 1 := by
  unfold post
  split
  · rename_i none
    exact absurd (Executor.post?_eq_none_iff.1 none) (Nat.not_le.2 inside)
  · rename_i executor posted
    exact ⟨rfl, (Executor.posted_post? posted).1⟩

namespace Fits

theorem count (fits : h.Fits w t) :
    (h.write w.heartbeat.sequence (.int ((t.ticks + 1 : Nat) : Int))).Fits w
      { t with ticks := t.ticks + 1 } :=
  { fits with
    ledger := fits.ledger.count
    channels := { fits.channels with }
    methods := { fits.methods with } }

theorem publish (fits : h.Fits w t) {beat : Beat} (number : beat.seq = t.published + 1) :
    (h.post priority.medium 0 (w.delivery beat)).2.Fits w
      { t with published := t.published + 1 } := by
  refine post_cases (fun none => ?_) fun executor posted => ?_
  · exact absurd (Executor.post?_eq_none_iff.1 none) (Nat.not_le.2 fits.queue)
  · exact { fits with
      queue := Nat.lt_of_lt_of_eq fits.queue (Executor.size_queues_post? posted).symm
      way := fun live => (fits.way live).publish number posted
      marked := fits.marked.post posted
      channels := { fits.channels with }
      methods := { fits.methods with }
      ledger := { fits.ledger with } }

/-- The task that quits gets its number. -/
theorem postQuit (fits : h.Fits w t) :
    (h.post priority.lowest 0 Heartbeat.quitCode).2.Fits w
      { t with quitter := some h.executor.posted } := by
  have foreign : Heartbeat.quitCode.Foreign w := ⟨trivial, fun _ => trivial⟩
  refine post_cases (fun none => ?_) fun executor posted => ?_
  · exact absurd (Executor.post?_eq_none_iff.1 none) (Nat.not_le.2 fits.queue)
  · exact { fits with
      queue := Nat.lt_of_lt_of_eq fits.queue (Executor.size_queues_post? posted).symm
      way := fun live => (fits.way live).post posted (.inl foreign)
      marked := fits.marked.mark posted
      channels := { fits.channels with }
      methods := { fits.methods with }
      ledger := { fits.ledger with } }

end Fits

end Host

namespace Heartbeat

/-- After the last beat the number of a task is that of the one that quits. -/
def Tally.mark (w : Wiring) (beats number : Nat) (t : Tally) : Tally :=
  { t with quitter := if beats = w.limit then some number else t.quitter }

/-- What a tick makes of the tally, if the last task that it posts has a number. -/
def Tally.tick (w : Wiring) (number : Nat) (t : Tally) : Tally :=
  ({ t with ticks := t.ticks + 1, published := w.published (t.ticks + 1) } : Tally).mark w
    (t.ticks + 1) number

theorem Tally.Steady.tick (steady : t.Steady w) (number : Nat) : (t.tick w number).Steady w := by
  refine ⟨rfl, ?_, steady.next, fun quitter given => ?_⟩
  · refine Nat.le_trans steady.behind (Nat.le_trans (Nat.le_of_eq steady.published) ?_)
    show w.published t.ticks ≤ w.published (t.ticks + 1)
    by_cases beyond : 0 < w.limit ∧ w.limit < t.ticks + 1
    · exact Nat.le_of_eq (Wiring.published_of_beyond beyond).symm
    · obtain ⟨before, after⟩ := Wiring.published_of_within beyond
      rw [before, after]
      exact Nat.le_succ _
  · by_cases last : t.ticks + 1 = w.limit
    · exact ⟨last ▸ Nat.succ_pos _, Nat.le_of_eq last.symm⟩
    · simp only [Tally.tick, Tally.mark, last, if_false] at given
      obtain ⟨limited, reached⟩ := steady.quitter quitter given
      exact ⟨limited, Nat.le_succ_of_le reached⟩

def Wiring.afterwards (w : Wiring) (number : Nat) : Steps Unit :=
  if number = w.limit then do
    tell .info "Heartbeat limit reached, quitting" [("limit", .number w.limit)]
    Steps.orFail (← Steps.post priority.lowest 0 quitCode)
  else pure ()

def Wiring.counted (w : Wiring) (number : Nat) : Steps Unit :=
  if 0 < w.limit ∧ w.limit < number then pure () else do
    tell .debug "Heartbeat" [("seq", .number number)]
    let now ← Steps.clock
    let beat : Beat := ⟨number, Time.Instant.epoch.addMillis now⟩
    Steps.orFail (← Steps.publish beats w.channel (Beat.codec.write beat))
    w.afterwards number

theorem run_tick (dispatch : Dispatch) (h : Host) :
    Code.run dispatch w.tick h =
      Code.run dispatch (w.counted ((h.read w.heartbeat.sequence).toNat + 1)).code
        (h.write w.heartbeat.sequence
          (.int (((h.read w.heartbeat.sequence).toNat + 1 : Nat) : Int))) := rfl

/-- The task that quits is posted after the last beat. -/
theorem afterwards_runs (fits : h.Fits w t) (number : Nat) (dispatch : Dispatch) :
    (Code.run dispatch (w.afterwards number).code h).1 = .returned (.ok .null) ∧
      (Code.run dispatch (w.afterwards number).code h).2.Fits w
        (t.mark w number
          ((Code.run dispatch (w.afterwards number).code h).2.executor.posted - 1)) := by
  unfold Wiring.afterwards Tally.mark
  by_cases last : number = w.limit
  · simp only [last, if_true]
    generalize told : h.tell .heartbeat .info "Heartbeat limit reached, quitting"
      [("limit", .number w.limit)] = said
    have fits : said.Fits w t := told ▸ fits.tell .heartbeat nofun _ _ _
    obtain ⟨accepted, counted⟩ := Host.post_ok fits.queue priority.lowest quitCode
    have runs : Code.run dispatch (do
          tell .info "Heartbeat limit reached, quitting" [("limit", .number w.limit)]
          Steps.orFail (← Steps.post priority.lowest 0 quitCode) : Steps Unit).code h =
        (.returned (.ok .null), (said.post priority.lowest 0 quitCode).2) := by
      show Code.run dispatch (.post priority.lowest 0 quitCode fun result =>
        (Steps.orFail result).code) (h.tell .heartbeat .info "Heartbeat limit reached, quitting"
          [("limit", .number w.limit)]) = _
      rw [told, Code.run_post, accepted]
      rfl
    rw [runs]
    refine ⟨rfl, ?_⟩
    rw [counted, Nat.add_sub_cancel]
    exact fits.postQuit
  · simp only [last, if_false]
    exact ⟨rfl, fits⟩

/-- The next beat is published, unless the limit is passed. -/
theorem counted_runs (fits : h.Fits w t) {number : Nat} (next : number = t.published + 1)
    (within : ¬ (0 < w.limit ∧ w.limit < number)) (dispatch : Dispatch) :
    (Code.run dispatch (w.counted number).code h).1 = .returned (.ok .null) ∧
      (Code.run dispatch (w.counted number).code h).2.Fits w
        (({ t with published := number } : Tally).mark w number
          ((Code.run dispatch (w.counted number).code h).2.executor.posted - 1)) := by
  have told : (h.tell .heartbeat .debug "Heartbeat" [("seq", .number number)]).Fits w t :=
    fits.tell .heartbeat nofun _ _ _
  let beat : Beat := ⟨number, Time.Instant.epoch.addMillis h.reactor.clock⟩
  obtain ⟨accepted, _⟩ := Host.post_ok told.queue priority.medium (w.delivery beat)
  have published := told.publish (show beat.seq = t.published + 1 from next)
  rw [← next] at published
  have runs : Code.run dispatch (w.counted number).code h =
      Code.run dispatch (w.afterwards number).code
        ((h.tell .heartbeat .debug "Heartbeat" [("seq", .number number)]).post
          priority.medium 0 (w.delivery beat)).2 := by
    unfold Wiring.counted
    rw [if_neg within]
    show Code.run dispatch (.post priority.medium 0 (w.delivery beat) fun result =>
        (do Steps.orFail result; w.afterwards number : Steps Unit).code)
      (h.tell .heartbeat .debug "Heartbeat" [("seq", .number number)]) = _
    rw [Code.run_post, accepted]
    rfl
  rw [runs]
  exact afterwards_runs published number dispatch

/-- A tick publishes the next beat, unless the limit is passed. -/
theorem tick_runs (fits : h.Fits w t) (steady : t.Steady w) (dispatch : Dispatch) :
    (Code.run dispatch w.tick h).1 = .returned (.ok .null) ∧
      (Code.run dispatch w.tick h).2.Fits w
        (t.tick w ((Code.run dispatch w.tick h).2.executor.posted - 1)) := by
  have ticks : h.read w.heartbeat.sequence = .int t.ticks := Host.read_of_cell fits.ledger.ticks
  have number : (h.read w.heartbeat.sequence).toNat + 1 = t.ticks + 1 := by
    rw [ticks]
    rfl
  rw [run_tick, number]
  by_cases beyond : 0 < w.limit ∧ w.limit < t.ticks + 1
  · have passed : t.ticks + 1 ≠ w.limit := Nat.ne_of_gt beyond.2
    have same : ∀ number, t.tick w number = { t with ticks := t.ticks + 1 } := fun number => by
      simp only [Tally.tick, Tally.mark, Wiring.published_of_beyond beyond, steady.published,
        passed, if_false]
    unfold Wiring.counted
    rw [if_pos beyond, same]
    exact ⟨rfl, fits.count⟩
  · obtain ⟨before, after⟩ := Wiring.published_of_within beyond
    rw [Tally.tick, after]
    exact counted_runs fits.count (by rw [steady.published, before]) beyond dispatch

end Heartbeat

namespace Monitor

theorem seqOf_write (beat : Beat) : seqOf (Beat.codec.write beat) = beat.seq := by
  have found : Members.find? "seq" (Members.ofList [("seq", Json.int beat.seq),
      ("at", Codec.instant.write beat.at_)]) = some (.int beat.seq) := by
    simp only [Members.ofList, List.foldl_cons, List.foldl_nil]
    rw [Members.find?_insert, if_neg (by decide), Members.find?_insert, if_pos rfl]
  simp only [seqOf, Beat.codec, Codec.write, Codec.writeFields, Codec.word, Json.get?,
    Int.ofNat_eq_natCast, found]
  rfl

/-- The beat that the monitor expects is seen without a warning. -/
theorem seeBeat_runs (fits : h.Fits w t) {beat : Json} (number : seqOf beat = t.seen + 1)
    (dispatch : Dispatch) :
    (Code.run dispatch (seeBeat w.monitor beat) h).1 = .returned (.ok .null) ∧
      (Code.run dispatch (seeBeat w.monitor beat) h).2.Fits w { t with seen := t.seen + 1 } := by
  have seen : (h.read w.monitor.seen).toNat = t.seen := by
    rw [Host.read_of_cell fits.ledger.seen]
    rfl
  have after : ((h.write w.monitor.seen (.int ((t.seen + 1 : Nat) : Int))).write w.monitor.last
      beat).Fits w { t with seen := t.seen + 1 } :=
    { fits with
      ledger := fits.ledger.see number
      channels := { fits.channels with }
      methods := { fits.methods with } }
  have runs : Code.run dispatch (seeBeat w.monitor beat) h =
      (.returned (.ok .null), (h.write w.monitor.seen (.int ((t.seen + 1 : Nat) : Int))).write
        w.monitor.last beat) := by
    rw [← seen] at number ⊢
    show Code.run dispatch (do
        if seqOf beat = (h.read w.monitor.seen).toNat + 1 then pure ()
        else
          tell .warn "Heartbeat out of sequence"
            [("expected", .number (((h.read w.monitor.seen).toNat + 1 : Nat) : Int)),
              ("got", .number (seqOf beat))]
        Steps.write w.monitor.last beat : Steps Unit).code (h.write _ _) = _
    rw [if_pos number]
    rfl
  rw [runs]
  exact ⟨rfl, after⟩

end Monitor

namespace Host

variable {depth : Nat}

/-- Whoever is before the monitor may panic, and then it does not see the beat. -/
def Sees (w : Wiring) (t : Tally) {α : Type} (out : Flow α × Host) : Prop :=
  out.2.Fits w { t with seen := t.seen + 1 } ∨
    (∃ payload, out.1 = .unwound payload) ∧ out.2.Fits w t

/-- What comes after the monitor may do what it likes. -/
theorem Sees.andThen {α β : Type} {first : Act Host α} {next : α → Act Host β}
    (ended : ((first >>= next) h).1 ≠ .stalled)
    (sees : (first h).1 ≠ .stalled → Sees w t (first h))
    (keeps : ∀ a, Keeps (Host.Fits w { t with seen := t.seen + 1 }) (next a)) :
    Sees w t ((first >>= next) h) := by
  rw [Act.bind_apply] at ended ⊢
  generalize first h = x at ended sees ⊢
  obtain ⟨flow, k⟩ := x
  cases flow with
  | stalled => exact absurd rfl ended
  | unwound payload =>
    rcases sees nofun with seen | ⟨_, fits⟩
    · exact .inl seen
    · exact .inr ⟨⟨payload, rfl⟩, fits⟩
  | returned a =>
    rcases sees nofun with seen | ⟨⟨_, unwound⟩, _⟩
    · exact .inl (keeps a k seen ended)
    · cases unwound

theorem runSubscribers_sees (channel : String) {beat : Json}
    (number : Monitor.seqOf beat = t.seen + 1) {before after : List Code}
    (early : ∀ code ∈ before, code.Foreign w) (late : ∀ code ∈ after, code.Foreign w)
    (fits : h.Fits w t)
    (ended : (runSubscribers (Code.runWithin depth) channel
      (before ++ Monitor.seeBeat w.monitor beat :: after) h).1 ≠ .stalled) :
    Sees w t (runSubscribers (Code.runWithin depth) channel
      (before ++ Monitor.seeBeat w.monitor beat :: after) h) := by
  have heeds := Code.runWithin_heeds (w := w) depth
  induction before generalizing h with
  | nil =>
    refine Sees.andThen ended (fun ran => ?_) fun result => ?_
    · cases depth with
      | zero => exact absurd rfl ran
      | succ depth => exact .inl (Monitor.seeBeat_runs fits number (Code.runWithin depth)).2
    · cases result with
      | ok _ => exact runSubscribers_fits heeds channel late
      | error _ =>
        exact Leads.andThen (.modify fun _ fits => fits.tell .channels nofun _ _ _) fun _ =>
          (runSubscribers_fits heeds channel late).andThen fun _ => .pure _
  | cons code rest ih =>
    obtain ⟨first, others⟩ := List.forall_mem_cons.1 early
    have kept := heeds t code first h fits
    simp only [List.cons_append, runSubscribers] at ended ⊢
    rw [Act.bind_apply] at ended ⊢
    generalize Code.runWithin depth code h = x at ended kept ⊢
    obtain ⟨flow, k⟩ := x
    cases flow with
    | stalled => exact absurd rfl ended
    | unwound payload => exact .inr ⟨⟨payload, rfl⟩, kept nofun⟩
    | returned result =>
      have fits := kept nofun
      cases result with
      | ok _ => exact ih others fits ended
      | error e =>
        have told := fits.tell .channels nofun .error "Channel subscriber failed"
          [("channel", .text channel), ("error", .text e.display)]
        let rest := runSubscribers (Code.runWithin depth) channel
          (rest ++ Monitor.seeBeat w.monitor beat :: after)
        let failed := rest >>= fun _ => pure (.error e : Except Failure Unit)
        have sees : Sees w t (failed (k.tell _ _ _ _)) :=
          Sees.andThen ended (ih others told) fun _ => .pure _
        exact sees

theorem deliver_sees {message : Json} (number : Monitor.seqOf message = t.seen + 1)
    (live : t.live = true) (fits : h.Fits w t)
    (ended : (deliver (Code.runWithin depth) w.channel message h).1 ≠ .stalled) :
    Sees w t (deliver (Code.runWithin depth) w.channel message h) := by
  obtain ⟨c, found, _, before, after, split, early, late⟩ := fits.channels.tuned live
  have codes : c.deliveries message = before.map (fun s => s.2 message) ++
      Monitor.seeBeat w.monitor message :: after.map fun s => s.2 message := by
    simp only [Channel.deliveries, split, List.map_append, List.map_cons]
  unfold deliver at ended ⊢
  simp only [found, codes] at ended ⊢
  refine runSubscribers_sees _ number ?_ ?_ (fits.tell .channels (by decide) _ _ _) ended
  · intro code member
    obtain ⟨s, among, rfl⟩ := List.mem_map.1 member
    exact (early s among).2 message
  · intro code member
    obtain ⟨s, among, rfl⟩ := List.mem_map.1 member
    exact (late s among).2 message

end Host

end PluginHost
