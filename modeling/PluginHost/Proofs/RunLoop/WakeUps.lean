import PluginHost.Proofs.Executor.Work
import PluginHost.Proofs.RunLoop.Parties

/-!
Why the loop does not sleep through what calls for it. Once the loop has looked at a matter for the
last time before it waits, the matter comes up only by a change, and whoever makes a change owes a
wake-up from then on. The one thing that brings work up without a wake-up is another policy.
-/

set_option autoImplicit false

namespace PluginHost

/-- What the loop looks at in each turn. -/
inductive Matter where
  | quit
  | reload
  | work
deriving DecidableEq, Repr

/-- A matter calls for the loop. -/
def Common.Calls (c : Common) : Matter → Prop
  | .quit => c.control.quitting = true
  | .reload => c.control.reload = true
  | .work => c.executor.HasWork

/-- What is done without waking the loop brings nothing up, other than another policy. -/
theorem Deed.calls {deed : Deed} {c : Common} {m : Matter} (calls : (deed.make c).Calls m) :
    c.Calls m ∨ m = .work ∧ ∃ policy, deed = .setPolicy policy := by
  cases deed with
  | setPolicy policy =>
    cases m with
    | quit | reload => exact .inl calls
    | work => exact .inr ⟨rfl, policy, rfl⟩
  | addQueue =>
    cases m with
    | quit | reload => exact .inl calls
    | work => exact .inl (Executor.HasWork.of_addQueue calls)
  | clear =>
    cases m with
    | quit | reload => exact .inl calls
    | work => exact absurd calls (Executor.not_hasWork_of_tasks (Executor.tasks_clear _))
  | take queue =>
    simp only [make] at calls
    cases taken : c.executor.take? queue with
    | none =>
      rw [taken] at calls
      exact .inl calls
    | some pair =>
      rw [taken] at calls
      cases m with
      | quit | reload => exact .inl calls
      | work => exact .inl (Executor.HasWork.of_take taken calls)
  | takeReload =>
    cases m with
    | quit | work => exact .inl calls
    | reload => cases calls

theorem Deed.wake_make (deed : Deed) (c : Common) : (deed.make c).wake = c.wake := by
  cases deed with
  | take queue =>
    simp only [make]
    cases c.executor.take? queue <;> rfl
  | _ => rfl

theorem Change.wake_make? {change : Change} {c after : Common}
    (made : change.make? c = some after) : after.wake = c.wake := by
  cases change with
  | post priority queue body =>
    obtain ⟨_, _, rfl⟩ := Option.map_eq_some_iff.1 made
    rfl
  | quit | requestReload =>
    cases made
    rfl

namespace RunLoop

/-- The loop will not look at a matter again before it waits. -/
def Stage.Past : Stage → Matter → Prop
  | .parking, _ | .parked, _ => True
  | .before .rest, .work | .before .rest, .reload => True
  | .before .poll, .reload | .before .execute, .reload => True
  | .reloading, .reload | .running _, .reload | .measuring _, .reload => True
  | _, _ => False

/-- The loop goes on past a matter only if it does not call. -/
theorem Move.calls {c after : Common} {stage next : Stage} {sign : Sign} {m : Matter}
    (move : Move c stage sign after next) (past : next.Past m) (calls : after.Calls m) :
    stage.Past m ∧ c.Calls m := by
  cases move with
  | leave | stay | pass | early | resume | skip | rouses | quits | failed =>
    cases m <;> cases past
  | reload asked =>
    cases m with
    | quit | work => cases past
    | reload => cases calls
  | unasked asked =>
    cases m with
    | quit | work => cases past
    | reload =>
      rw [Common.Calls, asked] at calls
      cases calls
  | reloaded | polled | ran =>
    cases m with
    | quit | work => cases past
    | reload => exact ⟨trivial, calls⟩
  | begin selected taken =>
    cases m with
    | quit | work => cases past
    | reload => exact ⟨trivial, calls⟩
  | @idle selection selected none =>
    cases m with
    | quit =>
      unfold Stage.next at past
      split at past <;> cases past
    | reload => exact ⟨trivial, calls⟩
    | work =>
      rcases Executor.select_builtIn calls.1 with
        ⟨idle, _⟩ | ⟨_, queue, task, rest, chosen, taken⟩
      · exact absurd calls idle
      · rw [chosen, Except.ok.injEq] at selected
        subst selected
        exact absurd taken (none task rest true)
  | @measured hint =>
    cases m with
    | quit =>
      unfold Stage.next at past
      split at past <;> cases past
    | reload => exact ⟨trivial, calls⟩
    | work =>
      rw [Stage.next, (Executor.hasWork_iff_more calls.1 hint).1 calls] at past
      cases past
  | park quitting =>
    cases m with
    | quit =>
      rw [Common.Calls, quitting] at calls
      cases calls
    | reload | work => exact ⟨trivial, calls⟩
  | wait => exact ⟨trivial, calls⟩

/-- Before the loop is back at its first look a stored wake-up stays. -/
theorem Move.stored {c after : Common} {stage next : Stage} {sign : Sign} {m : Matter}
    (move : Move c stage sign after next) (past : next.Past m) (stored : c.wake.stored = true) :
    after.wake.stored = true := by
  cases move with
  | pass | rouses => cases m <;> cases past
  | wait none =>
    rw [stored] at none
    cases none
  | _ => exact stored

/-- Only the loop waits, and it goes on only when it waits no longer. -/
theorem Move.waiting {c after : Common} {stage next : Stage} {sign : Sign}
    (move : Move c stage sign after next) (parked : c.wake.waiting = true → stage = .parked)
    (waiting : after.wake.waiting = true) : next = .parked := by
  cases move with
  | wait => rfl
  | resume woken =>
    rw [woken] at waiting
    cases waiting
  | rouses =>
    unfold Common.rouse Wake.wake at waiting
    split at waiting
    · cases waiting
    · exact absurd (parked waiting) nofun
  | pass stored =>
    simp only [Wake.wait, stored, if_true] at waiting
    exact absurd (parked waiting) nofun
  | _ => exact absurd (parked waiting) nofun

variable {Party : Type}

namespace Scene

/-- Only a loop that has parked waits. -/
def Sane (s : Scene Party) : Prop := s.common.wake.waiting = true → s.stage = .parked

/-- A wake-up is stored, or somebody has yet to make one, or the loop was woken already. -/
def Answered (s : Scene Party) : Prop :=
  s.common.wake.stored = true ∨ (∃ party, s.owes party) ∨
    s.stage = .parked ∧ s.common.wake.waiting = false

/-- A matter calls for the loop, which will wait without looking at it, and nobody wakes it. -/
structure Missed (s : Scene Party) (m : Matter) : Prop where
  past : s.stage.Past m
  calls : s.common.Calls m
  unanswered : ¬ s.Answered

/-- The loop waits or is about to, no wake-up is stored, and nobody has yet to make one. -/
structure Asleep (s : Scene Party) : Prop where
  waits : s.stage = .parking ∨ s.stage = .parked ∧ s.common.wake.waiting = true
  unstored : s.common.wake.stored = false
  settled : ∀ party, ¬ s.owes party

theorem Asleep.unanswered {s : Scene Party} (asleep : s.Asleep) : ¬ s.Answered := by
  rintro (stored | ⟨party, owes⟩ | ⟨parked, woken⟩)
  · rw [asleep.unstored] at stored
    cases stored
  · exact asleep.settled party owes
  · rcases asleep.waits with parking | ⟨_, waiting⟩
    · rw [parked] at parking
      cases parking
    · rw [woken] at waiting
      cases waiting

theorem Asleep.missed {s : Scene Party} (asleep : s.Asleep) {m : Matter}
    (calls : s.common.Calls m) : s.Missed m := by
  refine ⟨?_, calls, asleep.unanswered⟩
  rcases asleep.waits with parking | ⟨parked, _⟩
  · rw [parking]
    trivial
  · rw [parked]
    trivial

end Scene

/-- Another policy brings work up that nobody wakes the loop for. -/
structure Transition.Strands (t : Transition Party) : Prop where
  policy : ∃ party policy, t.happening = .does party (.setPolicy policy)
  past : t.before.stage.Past .work
  unanswered : ¬ t.before.Answered
  none : ¬ t.before.common.executor.HasWork
  works : t.after.common.executor.HasWork

variable {s after start : Scene Party} {happening : Happening Party}
  {history : List (Transition Party)} {m : Matter}

theorem Step.sane (step : Step s happening after) (sane : s.Sane) : after.Sane := by
  cases step with
  | changes _ made =>
    intro waiting
    exact sane (Change.wake_make? made ▸ waiting)
  | wakes =>
    intro waiting
    simp only [Common.rouse, Wake.wake] at waiting
    split at waiting
    · cases waiting
    · exact sane waiting
  | does =>
    intro waiting
    exact sane (Deed.wake_make _ _ ▸ waiting)
  | moves move => exact move.waiting sane

/-- A matter is missed only if it was missed before, or another policy brought it up. -/
theorem Step.missed (step : Step s happening after) (sane : s.Sane) (missed : after.Missed m) :
    s.Missed m ∨ m = .work ∧ Transition.Strands ⟨s, happening, after⟩ := by
  obtain ⟨past, calls, unanswered⟩ := missed
  cases step with
  | @changes party => exact absurd (.inr (.inl ⟨party, .inl rfl⟩)) unanswered
  | wakes =>
    -- a wake-up is stored, or it has ended the wait
    exfalso
    apply unanswered
    by_cases waiting : s.common.wake.waiting = true
    · refine .inr (.inr ⟨sane waiting, ?_⟩)
      simp only [Common.rouse, Wake.wake, waiting, if_true]
    · left
      simp only [Common.rouse, Wake.wake, waiting, if_false, Bool.false_eq_true]
  | @does party deed free =>
    have before : ¬ s.Answered := by
      intro answered
      apply unanswered
      unfold Scene.Answered at answered ⊢
      rwa [Deed.wake_make]
    by_cases called : s.common.Calls m
    · exact .inl ⟨past, called, before⟩
    · rcases Deed.calls calls with same | ⟨rfl, policy, rfl⟩
      · exact absurd same called
      · exact .inr ⟨rfl, ⟨party, policy, rfl⟩, past, before, called, calls⟩
  | moves move =>
    obtain ⟨pastBefore, called⟩ := move.calls past calls
    refine .inl ⟨pastBefore, called, ?_⟩
    rintro (stored | owes | ⟨parked, woken⟩)
    · exact unanswered (.inl (move.stored past stored))
    · exact unanswered (.inr (.inl owes))
    · rw [parked] at move
      cases move with
      | resume => cases m <;> cases past

/-- A loop that has begun at its first look, and waits for nothing. -/
structure Scene.Opens (s : Scene Party) : Prop where
  stage : s.stage = .before .check
  woken : s.common.wake.waiting = false

theorem Scene.Opens.sane (opens : s.Opens) : s.Sane := by
  intro waiting
  rw [opens.woken] at waiting
  cases waiting

theorem Scene.Opens.heard (opens : s.Opens) (m : Matter) : ¬ s.Missed m := by
  rintro ⟨past, _, _⟩
  rw [opens.stage] at past
  cases m <;> cases past

/-- Along a run no matter is missed, unless another policy strands work. -/
theorem Run.heard (run : Run start history s) (opens : start.Opens)
    (awakes : m = .work → ∀ t ∈ history, ¬ t.Strands) :
    ¬ s.Missed m ∧ ∀ t ∈ history, ¬ t.after.Missed m := by
  induction run with
  | nil => exact ⟨opens.heard m, fun _ none => absurd none List.not_mem_nil⟩
  | @snoc s after history happening run step ih =>
    obtain ⟨here, earlier⟩ := ih fun same t member =>
      awakes same t (List.mem_append_left _ member)
    have sane := (run.keeps (fun _ _ _ step => step.sane) opens.sane).1
    have next : ¬ after.Missed m := by
      intro missed
      rcases step.missed sane missed with before | ⟨same, strands⟩
      · exact here before
      · exact awakes same _ List.mem_concat_self strands
    exact ⟨next, List.forall_mem_append.2 ⟨earlier, List.forall_mem_singleton.2 next⟩⟩

/-- With nothing asked and nothing to run the loop comes to the point where it would wait. -/
theorem reaches_parking {c : Common} (owes : Party → Prop) (quitting : c.control.quitting = false)
    (asked : c.control.reload = false) (builtIn : c.executor.policy.BuiltIn)
    (none : ¬ c.executor.HasWork) :
    Reaches Happening.OfLoop ⟨c, .before .check, owes⟩ ⟨c, .parking, owes⟩ := by
  have selected : (c.executor.policy.select c.executor.views).selection = .ok .none := by
    rcases Executor.select_builtIn builtIn with ⟨_, selected⟩ | ⟨works, _⟩
    · exact selected
    · exact absurd works none
  exact ((((Reaches.refl _).move (.stay quitting)).move (.unasked asked)).move .polled).move
    (.idle selected fun _ _ _ => nofun) |>.move (.park quitting)

/-- A stored wake-up makes the loop look once more before it waits. -/
theorem reaches_parked {c : Common} (owes : Party → Prop) (quitting : c.control.quitting = false)
    (asked : c.control.reload = false) (builtIn : c.executor.policy.BuiltIn)
    (none : ¬ c.executor.HasWork) :
    Reaches Happening.OfLoop ⟨{ c with wake := { stored := true } }, .parking, owes⟩
      ⟨{ c with wake := { waiting := true } }, .parked, owes⟩ := by
  have again : Reaches Happening.OfLoop
      (⟨{ c with wake := { stored := true } }, .parking, owes⟩ : Scene Party)
      ⟨{ c with wake := {} }, .before .check, owes⟩ := (Reaches.refl _).move (.pass rfl)
  exact (again.trans (reaches_parking owes quitting asked builtIn none)).move (.wait rfl)

/-- With nothing asked and a task to run the loop runs it. -/
theorem reaches_measuring {c : Common} (owes : Party → Prop)
    (quitting : c.control.quitting = false) (asked : c.control.reload = false)
    (works : c.executor.HasWork) :
    ∃ queue task rest, c.executor.take? queue = some (task, rest) ∧
      Reaches Happening.OfLoop ⟨c, .before .check, owes⟩
        ⟨{ c with executor := rest }, .measuring true, owes⟩ := by
  rcases Executor.select_builtIn works.1 with ⟨none, _⟩ | ⟨_, _, task, rest, selected, followed⟩
  · exact absurd works none
  · obtain ⟨queue, taken⟩ := Executor.follow_eq_task followed
    exact ⟨queue, task, rest, taken, ((((Reaches.refl _).move (.stay quitting)).move
      (.unasked asked)).move .polled).move (.begin selected followed) |>.move .ran⟩

theorem Move.policy_eq {c after : Common} {stage next : Stage} {sign : Sign}
    (move : Move c stage sign after next) : after.executor.policy = c.executor.policy := by
  cases move with
  | begin _ followed =>
    obtain ⟨queue, taken⟩ := Executor.follow_eq_task followed
    exact (Executor.take?_perm taken).2.1
  | _ => rfl

theorem Step.policy_eq (step : Step s happening after)
    (fixed : ∀ party policy, happening ≠ .does party (.setPolicy policy)) :
    after.common.executor.policy = s.common.executor.policy := by
  cases step with
  | @changes party change _ _ made =>
    cases change with
    | post priority queue body =>
      obtain ⟨_, posted, rfl⟩ := Option.map_eq_some_iff.1 made
      exact (Executor.posted_post? posted).2
    | quit | requestReload =>
      cases made
      rfl
  | wakes => rfl
  | @does party deed =>
    cases deed with
    | setPolicy policy => exact absurd rfl (fixed party policy)
    | take queue =>
      simp only [Deed.make]
      cases taken : s.common.executor.take? queue with
      | none => rfl
      | some pair => exact (Executor.take?_perm taken).2.1
    | addQueue | clear | takeReload => rfl
  | moves move => exact move.policy_eq

theorem Run.policy_eq (run : Run start history s)
    (fixed : ∀ t ∈ history, ∀ party policy, t.happening ≠ .does party (.setPolicy policy)) :
    s.common.executor.policy = start.common.executor.policy := by
  induction run with
  | nil => rfl
  | snoc _ step ih =>
    rw [step.policy_eq (fixed _ List.mem_concat_self)]
    exact ih fun t member => fixed t (List.mem_append_left _ member)

/-- No wake-up is lost. With the policy fixed, whenever the loop waits or is about to, no wake-up is
stored and nobody has yet to make one, then nobody asked to quit or to reload and no queue that the
policy serves holds a task. -/
theorem Run.nothing_calls (run : Run start history s) (opens : start.Opens)
    (builtIn : start.common.executor.policy.BuiltIn)
    (fixed : ∀ t ∈ history, ∀ party policy, t.happening ≠ .does party (.setPolicy policy))
    (asleep : s.Asleep) :
    s.common.control.quitting = false ∧ s.common.control.reload = false ∧
      ∀ queue q, s.common.executor.policy.Serves queue →
        s.common.executor.queues[queue]? = some q → q.toList = [] := by
  have silent : ∀ m, ¬ s.common.Calls m := by
    intro m calls
    refine (run.heard opens ?_).1 (asleep.missed calls)
    intro _ t member strands
    obtain ⟨party, policy, same⟩ := strands.policy
    exact fixed t member party policy same
  refine ⟨Bool.eq_false_iff.2 (silent .quit), Bool.eq_false_iff.2 (silent .reload), ?_⟩
  intro queue q serves found
  cases waiting : q.toList with
  | nil => rfl
  | cons task rest =>
    have nonempty : q.toList ≠ [] := by
      rw [waiting]
      exact List.cons_ne_nil task rest
    have occupied := Executor.mem_occupied.2 ⟨q, found, nonempty⟩
    exact absurd ⟨run.policy_eq fixed ▸ builtIn, queue, occupied, serves⟩ (silent .work)

/-- A task was posted before the loop began. The loop runs it, comes to wait, uses up the wake-up of
the post, looks once more and waits. -/
theorem Run.nothing_calls_of_post :
    ∃ executor, (Executor.empty : Executor Code).post? 50 0 .nothing = some executor ∧
      ∃ (history : List (Transition Unit)) (s : Scene Unit),
        Run ⟨{ executor := executor, wake := { stored := true } }, .before .check, fun _ => False⟩
          history s ∧ s.Asleep ∧ ∀ q, s.common.executor.queues[0]? = some q → q.toList = [] := by
  obtain ⟨executor, posted⟩ :
      ∃ executor, (Executor.empty : Executor Code).post? 50 0 .nothing = some executor :=
    Option.isSome_iff_exists.1 (by decide)
  have policy : executor.policy = .defaultQueue := (Executor.posted_post? posted).2
  have works : executor.HasWork :=
    Executor.hasWork_of_post? posted (.inl rfl) (Policy.serves_defaultQueue.2 rfl)
  obtain ⟨queue, task, rest, taken, runs⟩ :=
    reaches_measuring (c := { executor := executor, wake := { stored := true } })
      (fun _ : Unit => False) rfl rfl works
  obtain ⟨perm, samePolicy, _⟩ := Executor.take?_perm taken
  have builtIn : rest.policy.BuiltIn := by
    rw [samePolicy, policy]
    exact .inl rfl
  have none : ¬ rest.HasWork := by
    have length := (perm.trans (Executor.tasks_post? posted)).length_eq
    exact Executor.not_hasWork_of_tasks (List.eq_nil_of_length_eq_zero (Nat.succ.inj length))
  have done : rest.more true = false := by
    rwa [Executor.hasWork_iff_more builtIn true, Bool.not_eq_true] at none
  have measured := runs.move .measured
  rw [done] at measured
  obtain ⟨history, run, all⟩ :=
    (measured.move (.park rfl)).trans (reaches_parked (c := { executor := rest }) _ rfl rfl builtIn none)
  have asleep : Scene.Asleep
      (⟨{ executor := rest, wake := { waiting := true } }, .parked, fun _ => False⟩ : Scene Unit) :=
    ⟨.inr ⟨rfl, rfl⟩, rfl, fun _ => id⟩
  have fixed : ∀ t ∈ history, ∀ party policy, t.happening ≠ .does party (.setPolicy policy) := by
    intro t member party policy same
    have kind := all t member
    rw [same] at kind
    exact kind
  have calm := run.nothing_calls ⟨rfl, rfl⟩ (policy ▸ .inl rfl) fixed asleep
  refine ⟨executor, posted, history, _, run, asleep, fun q found => calm.2.2 0 q ?_ found⟩
  rw [samePolicy, policy]
  exact Policy.serves_defaultQueue.2 rfl

theorem Step.does_eq {party : Party} {deed : Deed} (step : Step s (.does party deed) after) :
    after = { s with common := deed.make s.common } := by
  cases step
  rfl

theorem Transition.Strands.missed {t : Transition Party} (strands : t.Strands)
    (step : Step t.before t.happening t.after) : t.after.Missed .work := by
  obtain ⟨party, policy, changed⟩ := strands.policy
  rw [changed] at step
  have works := strands.works
  rw [step.does_eq] at works ⊢
  exact ⟨strands.past, works, strands.unanswered⟩

def Happening.Rouses : Happening Party → Prop
  | .changes _ _ | .wakes _ => True
  | .does _ _ | .moves _ => False

/-- A loop that waits goes on doing so until somebody makes a change or wakes it. -/
theorem Run.sleeps (run : Run start history s) (asleep : start.Asleep)
    (parked : start.stage = .parked) (quiet : ∀ t ∈ history, ¬ t.happening.Rouses) :
    s.Asleep ∧ s.stage = .parked := by
  induction run with
  | nil => exact ⟨asleep, parked⟩
  | @snoc s after history happening _ step ih =>
    obtain ⟨sleeps, stays⟩ := ih fun t member => quiet t (List.mem_append_left _ member)
    have calm : ¬ happening.Rouses := quiet _ List.mem_concat_self
    have waiting : s.common.wake.waiting = true := by
      rcases sleeps.waits with parking | ⟨_, waiting⟩
      · rw [stays] at parking
        cases parking
      · exact waiting
    cases step with
    | changes | wakes => exact absurd trivial calm
    | does =>
      refine ⟨⟨.inr ⟨stays, ?_⟩, ?_, sleeps.settled⟩, stays⟩
      · exact (Deed.wake_make _ _).symm ▸ waiting
      · exact (Deed.wake_make _ _).symm ▸ sleeps.unstored
    | moves move =>
      rw [stays] at move
      cases move with
      | resume woken =>
        rw [waiting] at woken
        cases woken

/-- Along a run no work is missed exactly if no change of the policy strands any: none that comes
when the loop has looked at the queues, with no wake-up stored or on its way, and makes a task that
waits one to be run. -/
theorem Run.work_heard_iff (run : Run start history s) (opens : start.Opens) :
    (∀ t ∈ history, ¬ t.after.Missed .work) ↔ ∀ t ∈ history, ¬ t.Strands := by
  constructor
  · intro heard t member strands
    exact heard t member (strands.missed (run.steps t member))
  · intro awakes
    exact (run.heard opens fun _ => awakes).2

/-- The loop's own moves strand nothing. -/
theorem Transition.Strands.not_ofLoop {t : Transition Party} (strands : t.Strands) :
    ¬ t.happening.OfLoop := by
  obtain ⟨party, policy, changed⟩ := strands.policy
  rw [changed]
  exact id

/-- A task waits in the second queue, the default queue is served, and the loop has found nothing to
do. Another policy strands nothing while a wake-up is stored: the loop looks once more and runs the
task. When the wake-up has been used up and the loop waits, the same policy strands the task. -/
theorem Run.work_heard_iff_of_waiting_task :
    let second : TaskQueue Code := TaskQueue.empty.push ⟨50, 0, .nothing⟩
    let executor : Executor Code := ⟨#[.empty, second], .defaultQueue, 1⟩
    let start : Scene Unit :=
      ⟨{ executor := executor, wake := { stored := true } }, .before .check, fun _ => False⟩
    (∃ (earlier later : List (Transition Unit)) (t : Transition Unit) (s : Scene Unit),
      Run start (earlier ++ [t] ++ later) s ∧
      t.before.stage = .parking ∧ t.happening = .does () (.setPolicy .highestPriority) ∧
      ¬ t.before.common.executor.HasWork ∧ t.after.common.executor.HasWork ∧
      (∀ u ∈ earlier ++ [t] ++ later, ¬ u.after.Missed .work) ∧
      s.stage = .measuring true ∧ s.common.executor.tasks = []) ∧
    ∃ (earlier : List (Transition Unit)) (t : Transition Unit),
      Run start (earlier ++ [t]) t.after ∧
      t.before.stage = .parked ∧ t.happening = .does () (.setPolicy .highestPriority) ∧
      ¬ ∀ u ∈ earlier ++ [t], ¬ u.after.Missed .work := by
  intro second executor start
  have builtIn : executor.policy.BuiltIn := .inl rfl
  have none : ¬ executor.HasWork := by
    rw [Executor.hasWork_defaultQueue rfl]
    decide
  have works : (executor.setPolicy .highestPriority).HasWork :=
    (Executor.hasWork_highestPriority rfl).2 (by decide +kernel)
  have opens : start.Opens := ⟨rfl, rfl⟩
  have looked := reaches_parking (c := start.common) start.owes rfl rfl builtIn none
  constructor
  · obtain ⟨earlier, before, all⟩ := looked
    let deed : Deed := .setPolicy .highestPriority
    let changed : Scene Unit := ⟨deed.make start.common, .parking, start.owes⟩
    let t : Transition Unit := ⟨⟨start.common, .parking, start.owes⟩, .does () deed, changed⟩
    have passes : Reaches Happening.OfLoop changed
        ⟨{ changed.common with wake := {} }, .before .check, start.owes⟩ :=
      (Reaches.refl _).move (.pass rfl)
    obtain ⟨queue, task, rest, taken, turn⟩ := reaches_measuring
      (c := { changed.common with wake := {} }) start.owes rfl rfl works
    obtain ⟨later, after, allLater⟩ := passes.trans turn
    have run : Run start (earlier ++ [t] ++ later) _ := (before.snoc (.does id)).append after
    have awakes : ∀ u ∈ earlier ++ [t] ++ later, ¬ u.Strands := by
      intro u member strands
      rcases List.mem_append.1 member with first | last
      · rcases List.mem_append.1 first with old | now
        · exact strands.not_ofLoop (all u old)
        · rw [List.mem_singleton.1 now] at strands
          exact strands.unanswered (.inl rfl)
      · exact strands.not_ofLoop (allLater u last)
    have length := (Executor.take?_perm taken).1.length_eq
    have one : (executor.setPolicy .highestPriority).tasks.length = 1 := by decide +kernel
    refine ⟨earlier, later, t, _, run, rfl, rfl, none, works, (run.work_heard_iff opens).2 awakes,
      rfl, ?_⟩
    exact List.eq_nil_of_length_eq_zero (Nat.succ.inj (length.trans one))
  · obtain ⟨earlier, before, _⟩ :=
      looked.trans (reaches_parked (c := { executor := executor }) start.owes rfl rfl builtIn none)
    have asked {s : Scene Unit} (free : ¬ s.owes ()) :
        Step s (.does () (.setPolicy .highestPriority)) _ := .does free
    have run := before.snoc (asked id)
    refine ⟨earlier, _, run, rfl, rfl, fun heard => ?_⟩
    refine (run.work_heard_iff opens).1 heard _ List.mem_concat_self ?_
    exact ⟨⟨(), _, rfl⟩, trivial, Scene.Asleep.unanswered ⟨.inr ⟨rfl, rfl⟩, rfl, fun _ => id⟩, none,
      works⟩

/-- A task waits in the second queue and the loop waits too, when the queue of the highest priority
is to be served. The loop does not go on until somebody makes a change or wakes it. -/
theorem Run.asleep_of_late_policy :
    let second : TaskQueue Code := TaskQueue.empty.push ⟨50, 0, .nothing⟩
    let executor : Executor Code := ⟨#[.empty, second], .defaultQueue, 1⟩
    ∃ history, ∃ before after : Scene Unit,
      Run ⟨{ executor := executor, wake := { stored := true } }, .before .check, fun _ => False⟩
        history before ∧ before.Asleep ∧
      Step before (.does () (.setPolicy .highestPriority)) after ∧
      after.common.executor.HasWork ∧
      ∀ later last, Run after later last → (∀ t ∈ later, ¬ t.happening.Rouses) →
        last.Asleep ∧ last.stage = .parked := by
  intro second executor
  have none : ¬ executor.HasWork := by
    rw [Executor.hasWork_defaultQueue rfl]
    decide
  have builtIn : executor.policy.BuiltIn := .inl rfl
  have looked := reaches_parking (c := { executor := executor, wake := { stored := true } })
    (fun _ : Unit => False) rfl rfl builtIn none
  obtain ⟨history, run, _⟩ :=
    looked.trans (reaches_parked (c := { executor := executor }) _ rfl rfl builtIn none)
  have works : (executor.setPolicy .highestPriority).HasWork := by
    have member : (⟨50, 0, .nothing⟩ : Task Code) ∈ second.toList :=
      (TaskQueue.push_perm _ _).mem_iff.2 List.mem_cons_self
    rw [Executor.hasWork_highestPriority rfl]
    have among : second ∈ (executor.setPolicy .highestPriority).queues.toList :=
      List.mem_cons_of_mem _ List.mem_cons_self
    exact List.ne_nil_of_mem (Executor.mem_tasks.2 ⟨second, among, member⟩)
  refine ⟨history, _, _, run, ⟨.inr ⟨rfl, rfl⟩, rfl, fun _ => id⟩, .does id, works, ?_⟩
  intro later last runs quiet
  exact runs.sleeps ⟨.inr ⟨rfl, rfl⟩, rfl, fun _ => id⟩ rfl quiet

end RunLoop

end PluginHost
