import PluginHost.Number.Notation

/-!
JSON values. Integers and floating point numbers are different values; an object lists its members
in ascending key order, each key once, as `Members.insert` keeps them.
-/

set_option autoImplicit false

namespace PluginHost

/-- A JSON value. Readers produce integers from `-2 ^ 63` to below `2 ^ 64` only, and floats that
are finite. -/
inductive Json where
  | null
  | bool (value : Bool)
  | int (value : Int)
  | float (value : Float)
  | string (value : String)
  | array (items : List Json)
  | object (members : List (String × Json))
deriving Inhabited

/-- Members of an object, or of any table from names to values. -/
abbrev Members (α : Type) := List (String × α)

namespace Members

variable {α : Type}

/-- Puts a value under a key, replacing the one it had. -/
def insert (key : String) (value : α) : Members α → Members α
  | [] => [(key, value)]
  | (k, v) :: rest =>
    if key < k then (key, value) :: (k, v) :: rest
    else if key = k then (key, value) :: rest
    else (k, v) :: insert key value rest

def find? (key : String) : Members α → Option α
  | [] => none
  | (k, v) :: rest => if k = key then some v else find? key rest

def keys (members : Members α) : List String := members.map Prod.fst

/-- Keys ascend, so none occurs twice. -/
def Ascending (members : Members α) : Prop := members.Pairwise fun a b => a.1 < b.1

/-- Members in any order; of two values for a key the later one counts. -/
def ofList (pairs : List (String × α)) : Members α :=
  pairs.foldl (fun members pair => members.insert pair.1 pair.2) []

theorem mem_insert {key : String} {value : α} {members : Members α} {p : String × α}
    (h : p ∈ members.insert key value) : p = (key, value) ∨ p ∈ members := by
  induction members with
  | nil => simpa [insert] using h
  | cons m rest ih =>
    obtain ⟨k, v⟩ := m
    simp only [insert] at h
    split at h
    · simpa using h
    · split at h
      · rcases List.mem_cons.1 h with h | h <;> simp [h]
      · rcases List.mem_cons.1 h with h | h
        · simp [h]
        · rcases ih h with h | h <;> simp [h]

theorem lt_of_not_lt_of_ne {a b : String} (notBefore : ¬ a < b) (different : a ≠ b) : b < a :=
  Decidable.byContradiction fun h =>
    different (String.le_antisymm (String.not_lt.1 h) (String.not_lt.1 notBefore))

theorem insert_ascending {key : String} {value : α} {members : Members α}
    (h : members.Ascending) : (members.insert key value).Ascending := by
  induction members with
  | nil => simp [insert, Ascending]
  | cons m rest ih =>
    obtain ⟨k, v⟩ := m
    obtain ⟨first, tail⟩ := List.pairwise_cons.1 h
    simp only [insert]
    split
    next before =>
      refine List.pairwise_cons.2 ⟨fun p hp => ?_, h⟩
      rcases List.mem_cons.1 hp with rfl | hp
      · exact before
      · exact String.lt_trans before (first p hp)
    next notBefore =>
      split
      next same => subst same; exact List.pairwise_cons.2 ⟨first, tail⟩
      next different =>
        refine List.pairwise_cons.2 ⟨fun p hp => ?_, ih tail⟩
        rcases mem_insert hp with rfl | hp
        · exact lt_of_not_lt_of_ne notBefore different
        · exact first p hp

/-- Looking up a key sees the last value put under it. -/
theorem find?_insert (key other : String) (value : α) (members : Members α) :
    find? other (members.insert key value) =
      if key = other then some value else find? other members := by
  induction members with
  | nil => simp [insert, find?]
  | cons m rest ih =>
    obtain ⟨k, v⟩ := m
    simp only [insert]
    split
    · simp [find?]
    · split
      · simp only [find?]; grind
      · simp only [find?, ih]; grind

theorem foldl_insert_ascending (pairs : List (String × α)) {members : Members α}
    (h : members.Ascending) :
    (pairs.foldl (fun members pair => members.insert pair.1 pair.2) members).Ascending := by
  induction pairs generalizing members with
  | nil => exact h
  | cons pair rest ih => exact ih (insert_ascending h)

theorem ofList_ascending (pairs : List (String × α)) : (ofList pairs).Ascending :=
  foldl_insert_ascending pairs List.Pairwise.nil

end Members

/-- Equality of numbers as values: the two zeros are equal, and there is no number that differs
from itself among JSON floats. -/
def sameFloat (x y : Float) : Bool :=
  x.toBits == y.toBits || (Number.classify x).2 == .zero && (Number.classify y).2 == .zero

namespace Json

mutual
/-- Equality of values; an integer never equals a float. -/
def same : Json → Json → Bool
  | .null, .null => true
  | .bool a, .bool b => a == b
  | .int a, .int b => a == b
  | .float a, .float b => sameFloat a b
  | .string a, .string b => a == b
  | .array a, .array b => sameItems a b
  | .object a, .object b => sameMembers a b
  | _, _ => false

def sameItems : List Json → List Json → Bool
  | [], [] => true
  | a :: as, b :: bs => same a b && sameItems as bs
  | _, _ => false

def sameMembers : List (String × Json) → List (String × Json) → Bool
  | [], [] => true
  | (k, a) :: as, (l, b) :: bs => k == l && same a b && sameMembers as bs
  | _, _ => false
end

/-- The member under a key, if this is an object that has one. -/
def get? (key : String) : Json → Option Json
  | .object members => Members.find? key members
  | _ => none

end Json

end PluginHost
