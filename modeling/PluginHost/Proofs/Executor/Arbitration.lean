import PluginHost.Proofs.Executor.Pending

set_option autoImplicit false

namespace PluginHost

variable {β : Type}

namespace QueueViews

theorem lessThan_of_top {views : List QueueView} {a b : Nat} {x y : Task.Key}
    (left : top views a = some x) (right : top views b = some y) :
    lessThan views a b = y.runsBefore x := by
  simp only [lessThan, left, right]

/-- Among queues that hold tasks, ranking not below is transitive. -/
theorem lessThan_trans {views : List QueueView} {a b c : Nat} {x y z : Task.Key}
    (topA : top views a = some x) (topB : top views b = some y) (topC : top views c = some z)
    (left : lessThan views a b = false) (right : lessThan views b c = false) :
    lessThan views a c = false := by
  rw [lessThan_of_top topA topB] at left
  rw [lessThan_of_top topB topC] at right
  rw [lessThan_of_top topA topC]
  have result := Task.Key.not_runsBefore_trans (a := z) (b := y) (c := x)
    (by simp only [right]; decide) (by simp only [left]; decide)
  simpa only [Bool.not_eq_true] using result

/-- Of the best queue so far and the others, none ranks above the one that comes out. -/
theorem foldl_better {views : List QueueView} (queues : List Nat) (best : Nat)
    (topped : ∀ q ∈ best :: queues, ∃ k, top views q = some k) :
    ∃ chosen, queues.foldl (better views) (some best) = some chosen ∧ chosen ∈ best :: queues ∧
      ∀ q ∈ best :: queues, lessThan views chosen q = false := by
  induction queues generalizing best with
  | nil =>
    obtain ⟨k, top⟩ := topped best List.mem_cons_self
    refine ⟨best, rfl, List.mem_cons_self, ?_⟩
    intro q member
    rw [List.mem_singleton] at member
    subst member
    rw [lessThan_of_top top top]
    simpa only [Bool.not_eq_true] using Task.Key.runsBefore_irrefl k
  | cons q rest ih =>
    obtain ⟨k, topBest⟩ := topped best List.mem_cons_self
    obtain ⟨l, topQ⟩ := topped q (by simp)
    -- the winner of the two, before which neither of them ranks
    obtain ⟨next, step, member, notBest, notQ⟩ : ∃ next, better views (some best) q = some next ∧
        next ∈ [best, q] ∧ lessThan views next best = false ∧ lessThan views next q = false := by
      by_cases below : lessThan views best q = true
      · refine ⟨q, by simp only [better, below, if_true], by simp, ?_, ?_⟩
        · rw [lessThan_of_top topQ topBest]
          rw [lessThan_of_top topBest topQ] at below
          simpa only [Bool.not_eq_true] using Task.Key.runsBefore_asymm below
        · rw [lessThan_of_top topQ topQ]
          simpa only [Bool.not_eq_true] using Task.Key.runsBefore_irrefl l
      · rw [Bool.not_eq_true] at below
        refine ⟨best, ?_, by simp, ?_, below⟩
        · simp only [better, below, Bool.false_eq_true, if_false]
        · rw [lessThan_of_top topBest topBest]
          simpa only [Bool.not_eq_true] using Task.Key.runsBefore_irrefl k
    have nextTopped : ∃ m, top views next = some m := by
      rcases List.mem_cons.1 member with rfl | member
      · exact ⟨k, topBest⟩
      · rw [List.mem_singleton] at member
        subst member
        exact ⟨l, topQ⟩
    obtain ⟨chosen, folded, among, notBelow⟩ := ih next (by
      intro r found
      rcases List.mem_cons.1 found with rfl | found
      · exact nextTopped
      · exact topped r (by simp [found]))
    have subset : ∀ r ∈ next :: rest, r ∈ best :: q :: rest := by
      intro r found
      simp only [List.mem_cons, List.not_mem_nil, or_false] at member found ⊢
      rcases found with rfl | found
      · rcases member with rfl | rfl <;> simp
      · simp [found]
    obtain ⟨m, topNext⟩ := nextTopped
    obtain ⟨n, topChosen⟩ := topped chosen (subset chosen among)
    refine ⟨chosen, by rw [List.foldl_cons, step]; exact folded, subset chosen among, ?_⟩
    intro r found
    have below := notBelow next List.mem_cons_self
    rcases List.mem_cons.1 found with rfl | found
    · exact lessThan_trans topChosen topNext topBest below notBest
    · rcases List.mem_cons.1 found with rfl | found
      · exact lessThan_trans topChosen topNext topQ below notQ
      · exact notBelow r (by simp [found])

theorem highest_of_none {views : List QueueView} (none : occupied views = []) :
    highest views = .none := by
  simp only [highest, none, List.foldl_nil]

/-- If any queue holds a task, one is chosen, and no queue that holds a task ranks above it. -/
theorem highest_of_occupied {views : List QueueView} (some : occupied views ≠ [])
    (topped : ∀ q ∈ occupied views, ∃ k, top views q = .some k) :
    ∃ chosen, highest views = .some chosen ∧ chosen ∈ occupied views ∧
      ∀ q ∈ occupied views, lessThan views chosen q = false := by
  cases queues : occupied views with
  | nil => exact absurd queues some
  | cons first rest =>
    rw [queues] at topped
    obtain ⟨chosen, folded, among, notBelow⟩ := foldl_better rest first topped
    refine ⟨chosen, ?_, among, notBelow⟩
    simpa only [highest, queues, List.foldl_cons, better] using folded

end QueueViews

namespace Executor

theorem views_getElem? (e : Executor β) (queue : Nat) :
    e.views[queue]? = e.queues[queue]?.map view := by
  simp [views]

theorem top_views (e : Executor β) (queue : Nat) :
    QueueViews.top e.views queue = e.queues[queue]?.bind fun q => q.peek?.map Task.key := by
  rw [QueueViews.top, views_getElem?]
  cases e.queues[queue]? <;> rfl

theorem mem_occupied {e : Executor β} {queue : Nat} :
    queue ∈ QueueViews.occupied e.views ↔ ∃ q, e.queues[queue]? = some q ∧ q.toList ≠ [] := by
  simp only [QueueViews.occupied, List.mem_filter, List.mem_range, QueueViews.size, views_getElem?,
    decide_eq_true_eq]
  constructor
  · rintro ⟨inside, holds⟩
    cases found : e.queues[queue]? with
    | none => simp [found] at holds
    | some q =>
      refine ⟨q, rfl, ?_⟩
      intro empty
      simp [found, view, TaskQueue.size_eq_length, empty] at holds
  · rintro ⟨q, found, holds⟩
    constructor
    · obtain ⟨inside, _⟩ := Array.getElem?_eq_some_iff.1 found
      simpa [views] using inside
    · simpa [found, view, TaskQueue.size_eq_length] using holds

theorem occupied_eq_nil_iff {e : Executor β} :
    QueueViews.occupied e.views = [] ↔ e.tasks = [] := by
  rw [List.eq_nil_iff_forall_not_mem, List.eq_nil_iff_forall_not_mem]
  constructor
  · intro none t waiting
    obtain ⟨q, member, inside⟩ := mem_tasks.1 waiting
    obtain ⟨queue, found⟩ := List.mem_iff_getElem?.1 member
    have occupied : queue ∈ QueueViews.occupied e.views :=
      mem_occupied.2 ⟨q, by simpa using found, List.ne_nil_of_mem inside⟩
    exact none queue occupied
  · intro none queue member
    obtain ⟨q, found, holds⟩ := mem_occupied.1 member
    obtain ⟨t, inside⟩ := List.exists_mem_of_ne_nil _ holds
    exact none t (mem_tasks.2 ⟨q, List.mem_of_getElem? (by simpa using found), inside⟩)

/-- A queue that holds a task shows the key of one that runs before no other of that queue. -/
theorem top_of_occupied {e : Executor β} {queue : Nat}
    (holds : queue ∈ QueueViews.occupied e.views) :
    ∃ t rest, e.take? queue = some (t, rest) ∧ QueueViews.top e.views queue = some t.key := by
  obtain ⟨q, found, nonempty⟩ := mem_occupied.1 holds
  obtain ⟨inside, same⟩ := Array.getElem?_eq_some_iff.1 found
  obtain ⟨t, top⟩ := Option.ne_none_iff_exists'.1 (mt TaskQueue.peek?_eq_none_iff.1 nonempty)
  obtain ⟨rest, popped⟩ := TaskQueue.pop?_of_peek? top
  refine ⟨t, { e with queues := e.queues.set queue rest }, ?_, ?_⟩
  · simp only [take?, inside, dif_pos, same, popped, Option.map_some]
  · rw [top_views, found]
    simp only [Option.bind_some, top, Option.map_some]

/-- Which tasks a queue holds is bounded by the key it shows. -/
theorem not_runsBefore_top {e : Executor β} {queue : Nat} {q : TaskQueue β} {t u : Task β}
    (found : e.queues[queue]? = some q) (top : QueueViews.top e.views queue = some t.key)
    (member : u ∈ q.toList) : ¬ u.runsBefore t := by
  rw [top_views, found, Option.bind_some, Option.map_eq_some_iff] at top
  obtain ⟨s, peeked, same⟩ := top
  obtain ⟨rest, popped⟩ := TaskQueue.pop?_of_peek? peeked
  have first := TaskQueue.pop?_first popped u member
  unfold Task.runsBefore at first ⊢
  rwa [same] at first

/-- What the policy of the highest priority does: it takes a task that runs before no other, and
nothing only if nothing waits. -/
theorem select_highest (e : Executor β) (policy : e.policy = .highestPriority) :
    (e.tasks = [] ∧ e.policy.select e.views = ⟨[], .ok .none⟩) ∨
      ∃ queue t rest, e.policy.select e.views = ⟨[], .ok (.run queue true)⟩ ∧
        e.follow (.run queue true) = .task t rest true ∧ e.TakesFirst t rest := by
  by_cases idle : e.tasks = []
  · left
    refine ⟨idle, ?_⟩
    simp only [policy, Policy.select, QueueViews.highest_of_none (occupied_eq_nil_iff.2 idle)]
  · right
    have topped : ∀ q ∈ QueueViews.occupied e.views, ∃ k, QueueViews.top e.views q = some k := by
      intro q holds
      obtain ⟨t, _, _, top⟩ := top_of_occupied holds
      exact ⟨_, top⟩
    obtain ⟨queue, chosen, holds, notBelow⟩ :=
      QueueViews.highest_of_occupied (mt occupied_eq_nil_iff.1 idle) topped
    obtain ⟨t, rest, taken, top⟩ := top_of_occupied holds
    obtain ⟨perm, samePolicy, samePosted, sameCount⟩ := take?_perm taken
    refine ⟨queue, t, rest, ?_, ?_, perm, ?_, samePolicy, samePosted, sameCount⟩
    · simp only [policy, Policy.select, chosen]
    · simp only [follow, Selection.run, taken]
    · intro u waiting before
      obtain ⟨q, member, inside⟩ := mem_tasks.1 waiting
      obtain ⟨other, found⟩ := List.mem_iff_getElem?.1 member
      rw [Array.getElem?_toList] at found
      have occupied := mem_occupied.2 ⟨q, found, List.ne_nil_of_mem inside⟩
      obtain ⟨s, _, _, topOther⟩ := top_of_occupied occupied
      have ranked := notBelow other occupied
      rw [QueueViews.lessThan_of_top top topOther] at ranked
      -- the task runs before its own queue's top or that top runs before the chosen one
      have notBefore : ¬ s.key.runsBefore t.key := by simp only [ranked]; decide
      have notAbove := not_runsBefore_top found topOther inside
      exact Task.Key.not_runsBefore_trans notAbove notBefore before

end Executor

end PluginHost
