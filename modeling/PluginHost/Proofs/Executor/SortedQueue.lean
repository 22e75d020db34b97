import Mathlib.Order.Defs.Unbundled
import PluginHost.Proofs.Executor.Conservation

/-!
A queue of tasks is a sorted multiset. Whatever tasks are pushed, equal keys included, a pop takes
one before which no other runs, and what was pushed was popped or dropped or is still there. The
order of tasks is a strict weak order, and the tasks that it does not tell apart have one key.
-/

set_option autoImplicit false

namespace PluginHost

variable {β : Type}

namespace Task

namespace Key

theorem order_eq_gt_iff {a b : Key} : a.order b = .gt ↔ a.runsBefore b := by
  rw [order, runsBefore_iff, Ordering.then_eq_gt, Int.compare_eq_gt, Int.compare_eq_eq,
    Nat.compare_eq_gt]

theorem order_eq_iff {a b : Key} : a.order b = .eq ↔ a = b := by
  rw [order, Ordering.then_eq_eq, Int.compare_eq_eq, Nat.compare_eq_eq, @eq_comm _ b.sequence]
  cases a
  cases b
  rw [Key.mk.injEq]

theorem swap_order (a b : Key) : (a.order b).swap = b.order a := by
  rw [order, Ordering.swap_then, Int.compare_swap, Nat.compare_swap, order]

end Key

/-- Neither of two tasks runs before the other exactly if they have one key. -/
theorem tie_iff {a b : Task β} : ¬ a.runsBefore b ∧ ¬ b.runsBefore a ↔ a.key = b.key := by
  constructor
  · rintro ⟨notBefore, notAfter⟩
    exact Key.eq_of_not_runsBefore notBefore notAfter
  · intro same
    rw [runsBefore, runsBefore, same]
    exact ⟨Key.runsBefore_irrefl _, Key.runsBefore_irrefl _⟩

instance : IsStrictWeakOrder (Task β) fun a b => a.runsBefore b where
  irrefl a := Key.runsBefore_irrefl a.key
  trans _ _ _ := Key.runsBefore_trans
  incomp_trans _ _ _ first second := tie_iff.2 ((tie_iff.1 first).trans (tie_iff.1 second))

end Task

namespace TaskQueue

inductive Use (β : Type) where
  | push (task : Task β)
  | pop
  | peek
  | clear

inductive Outcome (β : Type) where
  | pushed
  | popped (task : Option (Task β))
  | shown (task : Option (Task β))
  | cleared (tasks : List (Task β))

def Use.make : Use β → TaskQueue β → Outcome β × TaskQueue β
  | .push task, q => (.pushed, q.push task)
  | .pop, q =>
    match q.pop? with
    | some (task, rest) => (.popped (some task), rest)
    | none => (.popped none, q)
  | .peek, q => (.shown q.peek?, q)
  | .clear, q => (.cleared q.toList, .empty)

def makeAll : List (Use β) → TaskQueue β → List (Outcome β) × TaskQueue β
  | [], q => ([], q)
  | use :: rest, q =>
    let (outcome, after) := use.make q
    let (outcomes, last) := makeAll rest after
    (outcome :: outcomes, last)

def Use.added : Use β → List (Task β)
  | .push task => [task]
  | _ => []

def Outcome.taken : Outcome β → List (Task β)
  | .popped task => task.toList
  | _ => []

def Outcome.dropped : Outcome β → List (Task β)
  | .cleared tasks => tasks
  | _ => []

theorem Use.make_conserves (use : Use β) (q : TaskQueue β) :
    ((use.make q).1.taken ++ ((use.make q).1.dropped ++ (use.make q).2.toList)).Perm
      (use.added ++ q.toList) := by
  cases use with
  | push task => exact push_perm q task
  | pop =>
    cases popped : q.pop? with
    | none => simp [make, popped, Outcome.taken, Outcome.dropped, added]
    | some pair =>
      obtain ⟨task, rest⟩ := pair
      simpa [make, popped, Outcome.taken, Outcome.dropped, added] using pop?_perm popped
  | peek => exact .refl _
  | clear => simp [make, Outcome.taken, Outcome.dropped, added]

/-- What is there at first or is pushed later is popped, dropped, or there at last. -/
theorem makeAll_conserves (uses : List (Use β)) (q : TaskQueue β) :
    ((makeAll uses q).1.flatMap Outcome.taken ++
        ((makeAll uses q).1.flatMap Outcome.dropped ++ (makeAll uses q).2.toList)).Perm
      (uses.flatMap Use.added ++ q.toList) := by
  induction uses generalizing q with
  | nil => exact .refl _
  | cons use rest ih =>
    exact Executor.perm_of_stretches (use.make_conserves q) (ih (use.make q).2)

/-- What a pop comes to. -/
inductive Pops (q : TaskQueue β) : Outcome β × TaskQueue β → Prop
  | nothing (gone : q.toList = []) : Pops q (.popped none, q)
  | first {task : Task β} {rest : TaskQueue β} (taken : (task :: rest.toList).Perm q.toList)
      (first : ∀ other ∈ q.toList, ¬ other.runsBefore task) : Pops q (.popped (some task), rest)

theorem pop_pops (q : TaskQueue β) : Pops q (Use.pop.make q) := by
  cases popped : q.pop? with
  | none =>
    simp only [Use.make, popped]
    exact .nothing (pop?_eq_none_iff.1 popped)
  | some pair =>
    obtain ⟨task, rest⟩ := pair
    simp only [Use.make, popped]
    exact .first (pop?_perm popped) (pop?_first popped)

/-- A pop takes what a peek shows. -/
theorem pop_eq_peek (q : TaskQueue β) : (Use.pop.make q).1 = .popped q.peek? := by
  cases popped : q.pop? with
  | none => simp only [Use.make, popped, peek?_eq_none_iff.2 (pop?_eq_none_iff.1 popped)]
  | some pair => simp only [Use.make, popped, peek?_eq_of_pop? popped]

theorem makeAll_peeks (n : Nat) (q : TaskQueue β) :
    (makeAll (List.replicate n .peek ++ [.pop]) q).1 =
      List.replicate n (.shown q.peek?) ++ [.popped q.peek?] := by
  induction n with
  | zero => exact congrArg (fun outcome => [outcome]) (pop_eq_peek q)
  | succ n ih => exact congrArg (Outcome.shown q.peek? :: ·) ih

/-- As many pops as there are tasks take all of them, and none before one that runs before it. -/
theorem makeAll_pops {n : Nat} {q : TaskQueue β} (count : q.size = n) :
    ∃ (tasks : List (Task β)) (last : TaskQueue β),
      makeAll (List.replicate n .pop) q = (tasks.map fun t => .popped (some t), last) ∧
      last.toList = [] ∧ tasks.Perm q.toList ∧ tasks.Pairwise fun a b => ¬ b.runsBefore a := by
  induction n generalizing q with
  | zero =>
    rw [size_eq_length, List.length_eq_zero_iff] at count
    exact ⟨[], q, rfl, count, by rw [count], .nil⟩
  | succ n ih =>
    have pops := pop_pops q
    generalize made : Use.pop.make q = x at pops
    cases pops with
    | nothing gone =>
      rw [size_eq_length, gone] at count
      cases count
    | @first task rest taken first =>
      have fewer : rest.size = n := by
        have length := taken.length_eq
        rw [List.length_cons, ← size_eq_length, ← size_eq_length, count] at length
        exact Nat.succ.inj length
      obtain ⟨tasks, last, popped, gone, perm, sorted⟩ := ih fewer
      refine ⟨task :: tasks, last, ?_, gone, (perm.cons task).trans taken, sorted.cons ?_⟩
      · simp only [List.replicate_succ, makeAll, made, popped, List.map_cons]
      · intro later member
        exact first later (taken.subset (List.mem_cons_of_mem _ (perm.subset member)))

/-- Key by key: the priority falls, and among equal priorities the number rises. -/
def InOrder (a b : Task.Key) : Prop :=
  b.priority < a.priority ∨ a.priority = b.priority ∧ a.sequence ≤ b.sequence

theorem inOrder_of_not_runsBefore {a b : Task β} (notBefore : ¬ b.runsBefore a) :
    InOrder a.key b.key := by
  rw [Task.runsBefore, Task.Key.runsBefore_iff] at notBefore
  unfold InOrder
  omega

/-- What a queue answers that is a sorted multiset. -/
structure Sorted (q : TaskQueue β) : Prop where
  pops : Pops q (Use.pop.make q)
  /-- A pop takes a task of the key that was shown last. -/
  shows : ∀ n, ∃ shown popped,
    (makeAll (List.replicate n .peek ++ [.pop]) q).1 =
        List.replicate n (.shown shown) ++ [.popped popped] ∧
      popped.map Task.key = shown.map Task.key
  /-- Pops until the queue is empty take everything, in order. -/
  drains : ∃ (tasks : List (Task β)) (last : TaskQueue β),
    makeAll (List.replicate q.size .pop) q = (tasks.map fun t => .popped (some t), last) ∧
      last.toList = [] ∧ tasks.Perm q.toList ∧ (tasks.map Task.key).Pairwise InOrder

theorem sorted (q : TaskQueue β) : Sorted q where
  pops := pop_pops q
  shows n := ⟨_, _, makeAll_peeks n q, rfl⟩
  drains := by
    obtain ⟨tasks, last, popped, gone, perm, inOrder⟩ := makeAll_pops (q := q) rfl
    refine ⟨tasks, last, popped, gone, perm, List.pairwise_map.2 (inOrder.imp ?_)⟩
    exact inOrder_of_not_runsBefore

/-- After any uses of a fresh queue, with any tasks: what was pushed was popped, was dropped, or is
there, and a pop, a peek before it, and pops until the queue is empty come to what they should. The
order behind it is a strict weak order, whose ties are the equal keys, and it agrees with the
comparison of keys. -/
theorem sorted_multiset (uses : List (Use β)) :
    (uses.flatMap Use.added).Perm ((makeAll uses empty).1.flatMap Outcome.taken ++
        ((makeAll uses empty).1.flatMap Outcome.dropped ++ (makeAll uses empty).2.toList)) ∧
      Sorted (makeAll uses empty).2 ∧
      IsStrictWeakOrder (Task β) (fun a b => a.runsBefore b) ∧
      ∀ a b : Task β, (¬ a.runsBefore b ∧ ¬ b.runsBefore a ↔ a.key = b.key) ∧
        (a.key.order b.key = .gt ↔ a.runsBefore b) ∧ (a.key.order b.key = .eq ↔ a.key = b.key) ∧
        (a.key.order b.key).swap = b.key.order a.key := by
  refine ⟨?_, sorted _, inferInstance, fun a b => ⟨Task.tie_iff, ?_, ?_, ?_⟩⟩
  · have conserved := makeAll_conserves uses (empty : TaskQueue β)
    rw [toList_empty, List.append_nil] at conserved
    exact conserved.symm
  · exact Task.Key.order_eq_gt_iff
  · exact Task.Key.order_eq_iff
  · exact Task.Key.swap_order a.key b.key

/-- Two tasks have one key, and the lowest priority there is comes last. -/
example :
    let push := fun (priority : Int) (sequence : Nat) => Use.push ⟨priority, sequence, ()⟩
    ((makeAll ([push 10 4, push priority.lowest 3, push 50 1, push 10 4, push 50 0, push 100 2] ++
        List.replicate 7 .pop) empty).1.flatMap Outcome.taken).map Task.key =
      [⟨100, 2⟩, ⟨50, 0⟩, ⟨50, 1⟩, ⟨10, 4⟩, ⟨10, 4⟩, ⟨priority.lowest, 3⟩] := by
  decide +kernel

end TaskQueue

end PluginHost
