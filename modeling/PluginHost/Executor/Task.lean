set_option autoImplicit false

namespace PluginHost

/-- Common reference points of priorities; any 32-bit number is a priority. -/
structure Priority where
  lowest : Int := -2147483648
  low : Int := 10
  mediumLow : Int := 25
  medium : Int := 50
  mediumHigh : Int := 75
  high : Int := 100
  highest : Int := 2147483647

def priority : Priority := {}

/-- A unit of work with its place in the order. -/
structure Task (β : Type) where
  priority : Int
  sequence : Nat
  body : β

namespace Task

variable {β : Type}

/-- What decides the order of a task. -/
structure Key where
  priority : Int
  sequence : Nat
deriving DecidableEq, Repr

namespace Key

def runsBefore (a b : Key) : Bool :=
  b.priority < a.priority || (a.priority == b.priority && a.sequence < b.sequence)

/-- The greater key runs first. -/
def order (a b : Key) : Ordering :=
  (compare a.priority b.priority).then (compare b.sequence a.sequence)

/-- How a task with this key describes itself. -/
def describe (k : Key) : String :=
  "Task \x7b priority: " ++ toString k.priority ++ ", sequence: " ++ toString k.sequence
    ++ ", body: \"<closure>\" \x7d"

theorem runsBefore_iff {a b : Key} :
    a.runsBefore b ↔
      b.priority < a.priority ∨ (a.priority = b.priority ∧ a.sequence < b.sequence) := by
  simp [runsBefore]

theorem runsBefore_irrefl (a : Key) : ¬ a.runsBefore a := by
  rw [runsBefore_iff]; omega

theorem runsBefore_asymm {a b : Key} (h : a.runsBefore b) : ¬ b.runsBefore a := by
  rw [runsBefore_iff] at *; omega

theorem runsBefore_trans {a b c : Key} (hab : a.runsBefore b) (hbc : b.runsBefore c) :
    a.runsBefore c := by
  rw [runsBefore_iff] at *; omega

/-- Not running before is transitive too, so ties are as good as equality. -/
theorem not_runsBefore_trans {a b c : Key} (hab : ¬ a.runsBefore b) (hbc : ¬ b.runsBefore c) :
    ¬ a.runsBefore c := by
  rw [runsBefore_iff] at *; omega

/-- Neither of two keys runs before the other only if they are equal. -/
theorem eq_of_not_runsBefore {a b : Key} (hab : ¬ a.runsBefore b) (hba : ¬ b.runsBefore a) :
    a = b := by
  cases a; cases b
  simp only [runsBefore_iff, Key.mk.injEq] at *
  omega

end Key

def key (t : Task β) : Key := ⟨t.priority, t.sequence⟩

def runsBefore (a b : Task β) : Bool := a.key.runsBefore b.key

end Task

end PluginHost
