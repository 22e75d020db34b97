import PluginHost.Executor.Task

/-!
The queue of pending tasks: a binary heap, the task that runs next at its root. Of tasks with one
and the same key the heap decides which comes first. `push_perm` and `pop?_perm` say what a push and
a pop do to the tasks, `pop?_first` which task a pop takes.
-/

set_option autoImplicit false

namespace PluginHost

variable {β : Type}

namespace Heap

/-- The task at the upper place may stay above the one at the lower place. -/
def Settled (a : Array (Task β)) (upper lower : Nat) : Prop :=
  ∀ s t, a[upper]? = some s → a[lower]? = some t → ¬ t.runsBefore s

/-- No task runs before the one at its parent's place. -/
def IsHeap (a : Array (Task β)) : Prop := ∀ j, 0 < j → Settled a ((j - 1) / 2) j

/-- A heap but for the task at one place, which may run before its parent. -/
structure RisingAt (a : Array (Task β)) (i : Nat) : Prop where
  other : ∀ j, 0 < j → j ≠ i → Settled a ((j - 1) / 2) j
  grand : ∀ j, 0 < j → (j - 1) / 2 = i → 0 < i → Settled a ((i - 1) / 2) j

/-- A heap but for the task at one place, which may run before its parent or after its children. -/
structure SinkingAt (a : Array (Task β)) (i : Nat) : Prop where
  other : ∀ j, 0 < j → j ≠ i → (j - 1) / 2 ≠ i → Settled a ((j - 1) / 2) j
  grand : ∀ j, 0 < j → (j - 1) / 2 = i → 0 < i → Settled a ((i - 1) / 2) j

/-- The task at the parent's place. -/
def parentOf (a : Array (Task β)) (i : Nat) (h : i < a.size) : Task β :=
  have : (i - 1) / 2 < a.size := by omega
  a[(i - 1) / 2]

theorem getElem?_parentOf (a : Array (Task β)) (i : Nat) (h : i < a.size) :
    a[(i - 1) / 2]? = some (parentOf a i h) := by
  have parent : (i - 1) / 2 < a.size := by omega
  simp [parentOf, parent]

/-- Moves a task towards the root while it runs before its parent. -/
def siftUp (a : Array (Task β)) (i : Nat) (h : i < a.size) : Array (Task β) :=
  if up : 0 < i ∧ (a[i]).runsBefore (parentOf a i h) then
    siftUp (a.swap i ((i - 1) / 2) h (by omega)) ((i - 1) / 2) (by simp; omega)
  else a
termination_by i
decreasing_by omega

/-- Moves a task down to a leaf, always to the place of the child that runs first. The answer
holds the place it came to. -/
def sink (a : Array (Task β)) (i : Nat) (h : i < a.size) :
    { r : Array (Task β) × Nat // r.2 < r.1.size } :=
  if both : 2 * i + 2 < a.size then
    if (a[2 * i + 1]).runsBefore a[2 * i + 2] then
      sink (a.swap i (2 * i + 1) h (by omega)) (2 * i + 1) (by simp; omega)
    else sink (a.swap i (2 * i + 2) h both) (2 * i + 2) (by simpa using both)
  else if one : 2 * i + 1 < a.size then
    ⟨(a.swap i (2 * i + 1) h one, 2 * i + 1), by simpa using one⟩
  else ⟨(a, i), h⟩
termination_by a.size - i
decreasing_by all_goals (simp; omega)

theorem siftUp_perm (a : Array (Task β)) (i : Nat) (h : i < a.size) : (siftUp a i h).Perm a := by
  fun_induction siftUp a i h with
  | case1 a i h up ih => exact ih.trans (Array.swap_perm h (by omega))
  | case2 => exact .refl _

theorem sink_perm (a : Array (Task β)) (i : Nat) (h : i < a.size) : (sink a i h).1.1.Perm a := by
  fun_induction sink a i h with
  | case1 a i h both before ih => exact ih.trans (Array.swap_perm h (by omega))
  | case2 a i h both notBefore ih => exact ih.trans (Array.swap_perm h both)
  | case3 a i h both one => exact Array.swap_perm h one
  | case4 => exact .refl _

theorem getElem?_swap_of (a : Array (Task β)) (i j : Nat) (hi : i < a.size) (hj : j < a.size)
    (k : Nat) : (a.swap i j hi hj)[k]? = if k = i then a[j]? else if k = j then a[i]? else a[k]? := by
  grind

theorem settled_of_size_le {a : Array (Task β)} {upper lower : Nat} (h : a.size ≤ lower) :
    Settled a upper lower := by
  intro s t _ ht
  grind

/-- Swapping a task with its parent, before which it runs, moves the disorder to the parent. -/
theorem RisingAt.swap_parent {a : Array (Task β)} {i : Nat} (rising : RisingAt a i)
    (h : i < a.size) (positive : 0 < i)
    (before : (a[i]).runsBefore (parentOf a i h)) :
    RisingAt (a.swap i ((i - 1) / 2) h (by omega)) ((i - 1) / 2) := by
  have parent : (i - 1) / 2 < a.size := by omega
  have here : a[i]? = some a[i] := by simp [h]
  have above := getElem?_parentOf a i h
  constructor
  · intro j hj away s t
    rw [getElem?_swap_of, getElem?_swap_of]
    have other := rising.other j hj
    have grand := rising.grand j hj
    by_cases same : j = i
    · subst same
      have : (j - 1) / 2 ≠ j := by omega
      simp only [this, if_false, if_true, here, above, Option.some.injEq]
      rintro rfl rfl
      exact Task.Key.runsBefore_asymm before
    · by_cases below : (j - 1) / 2 = i
      · simp only [below, same, away, if_true, if_false]
        exact grand below positive s t
      · by_cases sibling : (j - 1) / 2 = (i - 1) / 2
        · have apart : (i - 1) / 2 ≠ i := by omega
          simp only [sibling, same, away, apart, if_true, if_false, here, Option.some.injEq]
          rintro rfl ht hts
          refine other same _ t (by rw [sibling]; exact above) ht ?_
          exact Task.Key.runsBefore_trans hts before
        · simp only [below, sibling, same, away, if_false]
          exact other same s t
  · intro j hj child higher s t
    rw [getElem?_swap_of, getElem?_swap_of]
    have far : ((i - 1) / 2 - 1) / 2 ≠ i := by omega
    have far' : ((i - 1) / 2 - 1) / 2 ≠ (i - 1) / 2 := by omega
    have apart : j ≠ (i - 1) / 2 := by omega
    have upper := rising.other _ higher (by omega)
    simp only [far, far', apart, if_false]
    by_cases same : j = i
    · simp only [same, if_true]
      exact upper s t
    · simp only [same, if_false]
      intro hs ht
      have lower := rising.other j hj same
      rw [child] at lower
      exact Task.Key.not_runsBefore_trans (lower _ t above ht) (upper s _ hs above)

theorem isHeap_siftUp (a : Array (Task β)) (i : Nat) (h : i < a.size) (rising : RisingAt a i) :
    IsHeap (siftUp a i h) := by
  fun_induction siftUp a i h with
  | case1 a i h up ih => exact ih (rising.swap_parent h up.1 up.2)
  | case2 a i h up =>
    intro j hj
    by_cases same : j = i
    · subst same
      intro s t hs ht
      rw [getElem?_parentOf a j h, Option.some.injEq] at hs
      rw [Array.getElem?_eq_getElem h, Option.some.injEq] at ht
      subst hs ht
      exact fun before => up ⟨hj, before⟩
    · exact rising.other j hj same

/-- Swapping a task with the child that runs first moves the disorder to that child. -/
theorem SinkingAt.swap_child {a : Array (Task β)} {i c : Nat} (sinking : SinkingAt a i)
    (h : i < a.size) (hc : c < a.size) (positive : 0 < c) (child : (c - 1) / 2 = i)
    (first : ∀ d, 0 < d → (d - 1) / 2 = i → d ≠ c → Settled a c d) :
    SinkingAt (a.swap i c h hc) c := by
  have here : a[i]? = some a[i] := by simp [h]
  have below : a[c]? = some a[c] := by simp [hc]
  have apart : c ≠ i := by omega
  constructor
  · intro j hj away notBelow s t
    rw [getElem?_swap_of, getElem?_swap_of]
    by_cases same : j = i
    · subst same
      have up : (j - 1) / 2 ≠ j := by omega
      simp only [up, notBelow, if_true, if_false]
      exact sinking.grand c positive child hj s t
    · by_cases sibling : (j - 1) / 2 = i
      · simp only [sibling, same, away, if_true, if_false]
        exact first j hj sibling away s t
      · simp only [sibling, notBelow, same, away, if_false]
        exact sinking.other j hj same sibling s t
  · intro j hj parent _ s t
    rw [getElem?_swap_of, getElem?_swap_of]
    have notHere : j ≠ i := by omega
    have notChild : j ≠ c := by omega
    have notSibling : (j - 1) / 2 ≠ i := by omega
    simp only [child, notHere, notChild, if_true, if_false]
    have other := sinking.other j hj notHere notSibling
    rw [parent] at other
    exact other s t

/-- A task without children is in place but for its parent. -/
theorem SinkingAt.rising {a : Array (Task β)} {i : Nat} (sinking : SinkingAt a i)
    (leaf : a.size ≤ 2 * i + 1) : RisingAt a i where
  other j hj away := by
    by_cases child : (j - 1) / 2 = i
    · exact settled_of_size_le (by omega)
    · exact sinking.other j hj away child
  grand j hj child _ := settled_of_size_le (by omega)

theorem risingAt_sink (a : Array (Task β)) (i : Nat) (h : i < a.size) (sinking : SinkingAt a i) :
    RisingAt (sink a i h).1.1 (sink a i h).1.2 := by
  fun_induction sink a i h with
  | case1 a i h both before ih =>
    refine ih (sinking.swap_child h (by omega) (by omega) (by omega) ?_)
    intro d hd child other s t hs ht
    have right : d = 2 * i + 2 := by omega
    subst right
    rw [Array.getElem?_eq_getElem (by omega), Option.some.injEq] at hs ht
    subst hs ht
    exact Task.Key.runsBefore_asymm before
  | case2 a i h both notBefore ih =>
    refine ih (sinking.swap_child h (by omega) (by omega) (by omega) ?_)
    intro d hd child other s t hs ht
    have left : d = 2 * i + 1 := by omega
    subst left
    rw [Array.getElem?_eq_getElem (by omega), Option.some.injEq] at hs ht
    subst hs ht
    exact notBefore
  | case3 a i h both one =>
    refine (sinking.swap_child h one (by omega) (by omega) ?_).rising (by simp; omega)
    intro d hd child other
    exact settled_of_size_le (by omega)
  | case4 a i h both one => exact sinking.rising (by omega)

/-- The root of a heap runs before no task later. -/
theorem IsHeap.root {a : Array (Task β)} (heap : IsHeap a) (i : Nat) : Settled a 0 i := by
  induction i using Nat.strongRecOn with
  | _ i ih =>
    intro s t hs ht
    by_cases zero : i = 0
    · subst zero
      rw [hs, Option.some.injEq] at ht
      subst ht
      exact Task.Key.runsBefore_irrefl _
    · have parent : (i - 1) / 2 < a.size := by grind
      have up : a[(i - 1) / 2]? = some a[(i - 1) / 2] := by simp [parent]
      exact Task.Key.not_runsBefore_trans (heap i (by omega) _ t up ht)
        (ih ((i - 1) / 2) (by omega) s _ hs up)

def push (a : Array (Task β)) (t : Task β) : Array (Task β) :=
  siftUp (a.push t) a.size (by simp)

theorem sub_one_lt_size {a : Array (Task β)} (many : 1 < a.size) : a.size - 1 < a.size := by
  omega

theorem size_pop_pos {a : Array (Task β)} (many : 1 < a.size) : 0 < a.pop.size := by
  rw [Array.size_pop]
  omega

theorem size_set_pop_pos {a : Array (Task β)} (many : 1 < a.size) (t : Task β) :
    0 < (a.pop.set 0 t (size_pop_pos many)).size := by
  rw [Array.size_set]
  exact size_pop_pos many

/-- The rest of a heap without its root: the last task goes from the root to a leaf and back up. -/
def dropRoot (a : Array (Task β)) : Array (Task β) :=
  if many : 1 < a.size then
    have last := sub_one_lt_size many
    let sunk := sink (a.pop.set 0 a[a.size - 1] (size_pop_pos many)) 0 (size_set_pop_pos many _)
    siftUp sunk.1.1 sunk.1.2 sunk.2
  else #[]

theorem push_perm (a : Array (Task β)) (t : Task β) : (push a t).Perm (a.push t) := siftUp_perm ..

theorem isHeap_push {a : Array (Task β)} (heap : IsHeap a) (t : Task β) : IsHeap (push a t) := by
  refine isHeap_siftUp _ _ _ ⟨fun j hj away => ?_, fun j hj child _ => ?_⟩
  · by_cases inside : j < a.size
    · intro s u hs hu
      exact heap j hj s u (by rw [← hs]; grind) (by rw [← hu]; grind)
    · exact settled_of_size_le (by simp; omega)
  · exact settled_of_size_le (by simp; omega)

theorem isHeap_dropRoot {a : Array (Task β)} (heap : IsHeap a) : IsHeap (dropRoot a) := by
  unfold dropRoot
  split
  · refine isHeap_siftUp _ _ _ (risingAt_sink _ _ _ ⟨fun j hj away parent => ?_, ?_⟩)
    · intro s t hs ht
      have := heap j hj s t
      grind
    · intro j hj child positive
      exact absurd positive (by omega)
  · intro j hj s t hs
    simp at hs

theorem dropRoot_perm (a : Array (Task β)) (h : 0 < a.size) :
    (a[0] :: (dropRoot a).toList).Perm a.toList := by
  unfold dropRoot
  split
  next many =>
    have sunk := (siftUp_perm _ _ (sink (a.pop.set 0 (a[a.size - 1]) (by simp; omega)) 0
      (by simp; omega)).2).trans (sink_perm _ _ _)
    refine ((List.Perm.cons a[0] sunk.toList).trans ?_)
    obtain ⟨l⟩ := a
    obtain ⟨x, rest, rfl⟩ : ∃ x rest, l = x :: rest := List.exists_cons_of_length_pos h
    simp only [List.size_toArray, List.length_cons] at many
    have nonempty : rest ≠ [] := by rintro rfl; simp at many
    have last : (x :: rest)[rest.length] = rest.getLast nonempty := by
      rw [List.getLast_eq_getElem]; grind
    simp [List.dropLast_cons_of_ne_nil nonempty, last]
    exact (List.perm_append_singleton _ _).symm.trans
      (by rw [List.dropLast_concat_getLast nonempty])
  next few =>
    have one : a.size = 1 := by omega
    obtain ⟨x, rfl⟩ := Array.size_eq_one_iff.1 one
    simp

end Heap

/-- Pending tasks. -/
structure TaskQueue (β : Type) where
  heap : Array (Task β)
  ordered : Heap.IsHeap heap

namespace TaskQueue

def empty : TaskQueue β := ⟨#[], by intro j _ s t hs; simp at hs⟩

instance : Inhabited (TaskQueue β) := ⟨empty⟩

def toList (q : TaskQueue β) : List (Task β) := q.heap.toList

def size (q : TaskQueue β) : Nat := q.heap.size

def isEmpty (q : TaskQueue β) : Bool := q.size = 0

/-- The task that runs next. -/
def peek? (q : TaskQueue β) : Option (Task β) := q.heap[0]?

def push (q : TaskQueue β) (t : Task β) : TaskQueue β :=
  ⟨Heap.push q.heap t, Heap.isHeap_push q.ordered t⟩

def pop? (q : TaskQueue β) : Option (Task β × TaskQueue β) :=
  q.peek?.map fun t => (t, ⟨Heap.dropRoot q.heap, Heap.isHeap_dropRoot q.ordered⟩)

theorem push_perm (q : TaskQueue β) (t : Task β) : (q.push t).toList.Perm (t :: q.toList) := by
  have := (Heap.push_perm q.heap t).toList
  simp only [Array.toList_push] at this
  exact this.trans (List.perm_append_singleton t q.toList)

theorem pop?_perm {q rest : TaskQueue β} {t : Task β} (h : q.pop? = some (t, rest)) :
    (t :: rest.toList).Perm q.toList := by
  simp only [pop?, peek?, Option.map_eq_some_iff, Prod.mk.injEq] at h
  obtain ⟨s, hs, rfl, rfl⟩ := h
  obtain ⟨inside, rfl⟩ := Array.getElem?_eq_some_iff.1 hs
  exact Heap.dropRoot_perm q.heap inside

/-- A pop takes a task before which no pending task runs. -/
theorem pop?_first {q rest : TaskQueue β} {t : Task β} (h : q.pop? = some (t, rest)) :
    ∀ u ∈ q.toList, ¬ u.runsBefore t := by
  simp only [pop?, peek?, Option.map_eq_some_iff, Prod.mk.injEq] at h
  obtain ⟨s, hs, rfl, rfl⟩ := h
  intro u hu
  obtain ⟨i, hi, rfl⟩ := List.mem_iff_getElem.1 hu
  exact q.ordered.root i s _ hs (by simp [toList] at hi ⊢)

theorem pop?_eq_none_iff {q : TaskQueue β} : q.pop? = none ↔ q.toList = [] := by
  simp [pop?, peek?, toList]

theorem peek?_eq_of_pop? {q rest : TaskQueue β} {t : Task β} (h : q.pop? = some (t, rest)) :
    q.peek? = some t := by
  simp only [pop?, Option.map_eq_some_iff, Prod.mk.injEq] at h
  obtain ⟨s, hs, rfl, rfl⟩ := h
  exact hs

end TaskQueue

end PluginHost
