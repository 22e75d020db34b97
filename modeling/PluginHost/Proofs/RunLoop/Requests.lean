import PluginHost.Proofs.RunLoop.Drain

/-!
Requests to reload. They share one flag, which the loop takes once in each turn, after it has looked
at the quit flag and before it polls the reactor and takes a task. So there are no more answers than
requests, and a request that comes too late for one turn comes before all tasks of the next, unless
somebody else takes it away.
-/

set_option autoImplicit false

namespace PluginHost

def Change.asksReload : Change → Bool
  | .requestReload => true
  | _ => false

def Deed.takesReload : Deed → Bool
  | .takeReload => true
  | _ => false

/-- A request to reload stays until it is taken. -/
theorem Change.reload_make? {change : Change} {c after : Common}
    (made : change.make? c = some after) :
    after.control.reload = (change.asksReload || c.control.reload) := by
  cases change with
  | post priority queue body =>
    obtain ⟨_, _, rfl⟩ := Option.map_eq_some_iff.1 made
    rfl
  | quit | requestReload =>
    cases made
    rfl

theorem Deed.reload_make (deed : Deed) (c : Common) :
    (deed.make c).control.reload = (!deed.takesReload && c.control.reload) := by
  cases deed with
  | take queue =>
    simp only [make]
    cases c.executor.take? queue <;> rfl
  | _ => rfl

namespace RunLoop

variable {Party : Type}

def Sign.answers : Sign → Bool
  | .reloads => true
  | _ => false

def Event.asksReload : Event Party → Bool
  | .happens (.changes _ change) => change.asksReload
  | _ => false

def Event.answers : Event Party → Bool
  | .happens (.moves sign) => sign.answers
  | _ => false

/-- Somebody beside the loop takes a request to reload away. -/
def Event.takesReload : Event Party → Bool
  | .happens (.does _ deed) => deed.takesReload
  | _ => false

/-- How many tasks the loop may still begin before it looks for a request to reload. -/
def Stage.late : Stage → Nat
  | .reloading | .before .poll | .before .execute => 1
  | _ => 0

theorem Stage.late_le (stage : Stage) : stage.late ≤ 1 := by
  unfold late
  split <;> omega

theorem Stage.late_next (more : Bool) : (Stage.next more).late = 0 := by
  cases more <;> rfl

/-- An answer uses the request up. -/
theorem Move.answers {c after : Common} {stage next : Stage} {sign : Sign}
    (move : Move c stage sign after next) :
    sign.answers.toNat + after.control.reload.toNat ≤ c.control.reload.toNat := by
  cases move with
  | reload asked =>
    rw [asked]
    exact Nat.le_refl 1
  | _ => exact Nat.le_of_eq (Nat.zero_add _)

/-- While a request waits to be answered, a task that begins uses up the only chance. -/
theorem Move.late {c after : Common} {stage next : Stage} {sign : Sign}
    (move : Move c stage sign after next) (asked : c.control.reload = true)
    (unanswered : sign.answers = false) :
    after.control.reload = true ∧ sign.begun.length + next.late ≤ stage.late := by
  cases move with
  | reload => cases unanswered
  | unasked unasked =>
    rw [asked] at unasked
    cases unasked
  | idle | measured =>
    rw [Stage.late_next]
    exact ⟨asked, Nat.zero_le _⟩
  | _ => exact ⟨asked, Nat.le_refl _⟩

namespace Life

def asked (l : Life Party) : Bool := l.scene.common.control.reload

def late (l : Life Party) : Nat := if l.running then l.scene.stage.late else 0

variable {start l after : Life Party} {event : Event Party} {history : List (Passage Party)}

theorem Step.answers (step : Step l event after) :
    event.answers.toNat + after.asked.toNat ≤ event.asksReload.toNat + l.asked.toNat := by
  cases step with
  | happens step _ =>
    cases step with
    | @changes _ change _ _ made =>
      have asks := Change.reload_make? made
      simp only [Life.asked, Event.answers, Event.asksReload, asks]
      cases change.asksReload <;> cases l.scene.common.control.reload <;> decide
    | wakes => exact Nat.le_refl _
    | @does _ deed _ =>
      simp only [Life.asked, Event.answers, Event.asksReload, Deed.reload_make]
      cases deed.takesReload <;> cases l.scene.common.control.reload <;> decide
    | moves move => exact Nat.le_trans move.answers (Nat.le_add_left _ _)
  | enters | unwinds | drains => exact Nat.le_refl _

/-- After a request one waits to be answered. -/
theorem Step.asked (step : Step l event after) (asks : event.asksReload = true) :
    after.asked = true := by
  cases step with
  | happens step _ =>
    cases step with
    | @changes _ change _ _ made =>
      have request : change.asksReload = true := asks
      rw [Life.asked, Change.reload_make? made, request, Bool.true_or]
    | wakes | does | moves => cases asks
  | enters | drains | unwinds => cases asks

theorem Run.answers (run : Run start history after) :
    history.countP (fun p => p.event.answers) + after.asked.toNat ≤
      history.countP (fun p => p.event.asksReload) + start.asked.toNat := by
  induction run with
  | nil => exact Nat.le_refl _
  | @snoc _ _ _ event _ step ih =>
    have last := step.answers
    simp only [List.countP_append, List.countP_singleton]
    cases answers : event.answers <;> cases asks : event.asksReload <;>
      simp only [answers, asks, Bool.toNat_true, Bool.toNat_false, if_true, if_false,
        Bool.false_eq_true] at last ⊢ <;>
      omega

theorem Step.late (step : Step l event after) (asked : l.asked = true)
    (unanswered : event.answers = false) (untaken : event.takesReload = false) :
    after.asked = true ∧ (Passage.begun ⟨l, event, after⟩).length + after.late ≤ l.late := by
  unfold Life.asked at asked ⊢
  cases step with
  | happens step inside =>
    cases step with
    | changes _ made =>
      rw [Change.reload_make? made, asked, Bool.or_true]
      exact ⟨rfl, Nat.le_of_eq (Nat.zero_add _)⟩
    | wakes => exact ⟨asked, Nat.le_of_eq (Nat.zero_add _)⟩
    | @does _ deed _ =>
      have other : deed.takesReload = false := untaken
      rw [Deed.reload_make, asked, other]
      exact ⟨rfl, Nat.le_of_eq (Nat.zero_add _)⟩
    | moves move =>
      obtain ⟨still, fewer⟩ := move.late asked unanswered
      refine ⟨still, ?_⟩
      simp only [Life.late, inside trivial, if_true]
      exact fewer
  | enters | drains | unwinds => exact ⟨asked, Nat.zero_le _⟩

/-- As long as a request is neither answered nor taken away, no more tasks begin than the loop may
begin before it looks. -/
theorem Run.late (run : Run start history after) (asked : start.asked = true)
    (unanswered : ∀ p ∈ history, p.event.answers = false)
    (untaken : ∀ p ∈ history, p.event.takesReload = false) :
    after.asked = true ∧ (history.flatMap Passage.begun).length + after.late ≤ start.late := by
  induction run with
  | nil => exact ⟨asked, Nat.le_of_eq (Nat.zero_add _)⟩
  | snoc run step ih =>
    obtain ⟨still, earlier⟩ := ih (fun p member => unanswered p (List.mem_append_left _ member))
      fun p member => untaken p (List.mem_append_left _ member)
    obtain ⟨last, fewer⟩ := step.late still (unanswered _ List.mem_concat_self)
      (untaken _ List.mem_concat_self)
    refine ⟨last, ?_⟩
    simp only [List.flatMap_append, List.flatMap_singleton, List.length_append]
    omega

theorem late_le (l : Life Party) : l.late ≤ 1 := by
  unfold late
  split
  · exact l.scene.stage.late_le
  · exact Nat.zero_le _

theorem Run.append {middle : Life Party} {later : List (Passage Party)}
    (run : Run start history middle) (others : Run middle later after) :
    Run start (history ++ later) after := by
  induction others with
  | nil => rwa [List.append_nil]
  | snoc _ step ih =>
    rw [← List.append_assoc]
    exact ih.snoc step

/-- What happens while the application is run is a stretch of its life. -/
theorem Run.of_reaches {s t : Scene Party}
    (reaches : Reaches (fun happening => happening ≠ .moves .reloads) s t) :
    ∃ passages, Run ⟨s, true⟩ passages ⟨t, true⟩ ∧
      passages.countP (fun p => p.event.answers) = 0 := by
  obtain ⟨history, run, quiet⟩ := reaches
  induction run with
  | nil => exact ⟨[], .nil _, rfl⟩
  | @snoc _ _ _ happening _ step ih =>
    obtain ⟨earlier, last⟩ := List.forall_mem_append.1 quiet
    obtain ⟨passages, run, unanswered⟩ := ih earlier
    refine ⟨_, run.snoc (.happens step fun _ => rfl), ?_⟩
    have silent : (Event.happens happening).answers = false := by
      cases happening with
      | moves sign =>
        cases sign with
        | reloads => exact absurd rfl (last _ List.mem_cons_self)
        | _ => rfl
      | _ => rfl
    simp only [List.countP_append, unanswered, List.countP_singleton, silent, if_false,
      Bool.false_eq_true]

/-- A run comes to a life between any two of its events. -/
theorem Run.split {earlier later : List (Passage Party)} (run : Run start history after)
    (all : history = earlier ++ later) :
    ∃ middle, Run start earlier middle ∧ Run middle later after := by
  induction run generalizing later with
  | nil =>
    obtain ⟨rfl, rfl⟩ := List.append_eq_nil_iff.1 all.symm
    exact ⟨_, .nil _, .nil _⟩
  | snoc run step ih =>
    rcases List.eq_nil_or_concat later with rfl | ⟨rest, p, rfl⟩
    · rw [List.append_nil] at all
      exact ⟨_, all ▸ run.snoc step, .nil _⟩
    · rw [List.concat_eq_append, ← List.append_assoc] at all
      obtain ⟨same, single⟩ := List.append_inj' all rfl
      obtain ⟨middle, before, others⟩ := ih same
      rw [List.concat_eq_append, ← single]
      exact ⟨middle, before, others.snoc step⟩

/-- After a request no more than one task begins until the loop begins to answer it, unless somebody
else takes it away. -/
theorem Run.tasks_after_request {earlier later rest : List (Passage Party)} {asking : Passage Party}
    (run : Run start (earlier ++ [asking] ++ later ++ rest) after)
    (asks : asking.event.asksReload = true)
    (unanswered : ∀ p ∈ later, p.event.answers = false)
    (untaken : ∀ p ∈ later, p.event.takesReload = false) :
    (later.flatMap Passage.begun).length ≤ 1 := by
  obtain ⟨_, run, _⟩ := run.split rfl
  obtain ⟨asked, run, others⟩ := run.split rfl
  have pending : asked.asked = true := by
    generalize all : earlier ++ [asking] = passages at run
    cases run with
    | nil => simp at all
    | snoc _ step =>
      obtain ⟨_, single⟩ := List.append_inj' all rfl
      cases single
      exact step.asked asks
  obtain ⟨_, few⟩ := others.late pending unanswered untaken
  have most := asked.late_le
  omega

/-- A request that comes when the loop is about to poll the reactor comes too late for one task. -/
theorem Run.task_after_request :
    ∃ (start after : Life Unit) (asking : Passage Unit) (later : List (Passage Unit)),
      Run start (asking :: later) after ∧ start.asked = false ∧
      asking.event.asksReload = true ∧ (∀ p ∈ later, p.event.answers = false) ∧
      (∀ p ∈ later, p.event.takesReload = false) ∧ (later.flatMap Passage.begun).length = 1 := by
  obtain ⟨one, posted⟩ :
      ∃ one, (Executor.empty : Executor Code).post? 50 0 .nothing = some one :=
    Option.isSome_iff_exists.1 (by decide)
  have works : one.HasWork :=
    Executor.hasWork_of_post? posted (.inl rfl) (Policy.serves_defaultQueue.2 rfl)
  rcases Executor.select_builtIn works.1 with ⟨none, _⟩ | ⟨_, _, task, rest, selected, followed⟩
  · exact absurd works none
  let stands (asked : Bool) (executor : Executor Code) (stage : Stage) (owes : Unit → Prop) :
      Life Unit := ⟨⟨{ executor := executor, control := { reload := asked } }, stage, owes⟩, true⟩
  let owing : Unit → Prop := fun p => p = () ∨ False
  have asks : Step (stands false one (.before .poll) fun _ => False)
      (.happens (.changes () .requestReload)) (stands true one (.before .poll) owing) :=
    .happens (.changes id rfl) nofun
  have polls : Step (stands true one (.before .poll) owing) (.happens (.moves .nothing))
      (stands true one (.before .execute) owing) := .happens (.moves .polled) fun _ => rfl
  have begins : Step (stands true one (.before .execute) owing) (.happens (.moves (.begins task)))
      (stands true rest (.running true) owing) :=
    .happens (.moves (.begin selected followed)) fun _ => rfl
  have run := ((Run.nil _).snoc asks).append (((Run.nil _).snoc polls).snoc begins)
  refine ⟨_, _, _, _, run, rfl, rfl, ?_, ?_, rfl⟩ <;>
    exact List.forall_mem_cons.2 ⟨rfl, List.forall_mem_singleton.2 rfl⟩

end Life

end RunLoop

end PluginHost
