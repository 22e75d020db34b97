import PluginHost.Proofs.Config.Layering

/-!
A source of settings as single writes. Laying a tree over what there is comes to the same as writing
its tables, empty, and its other values one after the other, each along its own path. What such a
write does to the place that some names lead to depends on where the two ways part.
-/

set_option autoImplicit false

namespace PluginHost

namespace Members

variable {α : Type}

/-- Of two values put under a key in turn only the second one stays. -/
theorem insert_insert (key : String) (first second : α) (members : Members α) :
    insert key second (insert key first members) = insert key second members := by
  induction members with
  | nil => simp [insert]
  | cons m rest ih =>
    obtain ⟨k, v⟩ := m
    by_cases before : key < k
    · simp [insert, before]
    · by_cases same : key = k
      · simp [insert, same]
      · simp [insert, before, same, ih]

end Members

namespace Setting

theorem changeMember_comp (name : String) (first second : Setting → Setting) (s : Setting) :
    (s.changeMember name first).changeMember name second =
      s.changeMember name fun part => second (first part) := by
  simp [changeMember, members, Members.find?_insert, Members.insert_insert]

@[simp] theorem items_list (items : List Setting) (origin : Option String) :
    (list items origin).items = items := rfl

theorem changeItem_comp (index : Int) (first second : Setting → Setting) (s : Setting) :
    (s.changeItem index first).changeItem index second =
      s.changeItem index fun part => second (first part) := by
  unfold changeItem
  by_cases fromFront : 0 ≤ index
  · -- the first change has made the item, so the second one finds it
    have made : ∀ made : List Setting, made = s.items ++
        List.replicate (index.toNat + 1 - s.items.length) empty →
        index.toNat + 1 - made.length = 0 := by
      rintro made rfl
      rw [List.length_append, List.length_replicate]
      omega
    simp only [fromFront, if_true, items_list, List.length_modify, made _ rfl,
      List.replicate_zero, List.append_nil, List.modify_modify_eq]
    rfl
  · have made : ∀ made : List Setting, made =
        List.replicate (index.natAbs - s.items.length) empty ++ s.items →
        index.natAbs - made.length = 0 := by
      rintro made rfl
      rw [List.length_append, List.length_replicate]
      omega
    simp only [fromFront, if_false, items_list, List.length_modify, made _ rfl,
      List.replicate_zero, List.nil_append, List.modify_modify_eq]
    rfl

theorem changeAt_comp (first second : Setting → Setting) (path : Path) (s : Setting) :
    (s.changeAt first path).changeAt second path =
      s.changeAt (fun part => second (first part)) path := by
  induction path generalizing s with
  | nil => rfl
  | cons step rest ih =>
    cases step with
    | member name =>
      simp only [changeAt, changeMember_comp, ih]
    | item index =>
      simp only [changeAt, changeItem_comp, ih]

theorem changeAt_append (change : Setting → Setting) (front back : Path) (s : Setting) :
    s.changeAt change (front ++ back) = s.changeAt (changeAt change back) front := by
  induction front generalizing s with
  | nil => rfl
  | cons step rest ih =>
    have inner : changeAt change (rest ++ back) = changeAt (changeAt change back) rest :=
      funext fun s => ih s
    cases step with
    | member name => simp only [List.cons_append, changeAt, inner]
    | item index => simp only [List.cons_append, changeAt, inner]

end Setting

/-- One value and the path it is put at. -/
structure Write where
  path : Path
  value : Setting

namespace Write

def apply (below : Setting) (w : Write) : Setting := below.changeAt w.value.layOver w.path

/-- The same write, seen from further out. -/
def under (front : Path) (w : Write) : Write := { w with path := front ++ w.path }

theorem foldl_apply_under (front : Path) (first : Write) (rest : List Write) (s : Setting) :
    ((first :: rest).map (under front)).foldl apply s =
      s.changeAt (fun part => (first :: rest).foldl apply part) front := by
  induction rest generalizing first s with
  | nil => exact Setting.changeAt_append _ front first.path s
  | cons second rest ih =>
    have start : (under front first).path = front ++ first.path := rfl
    rw [List.map_cons, List.foldl_cons, ih, apply, start, Setting.changeAt_append,
      Setting.changeAt_comp]
    rfl

end Write

namespace Setting

mutual
/-- The writes that a setting consists of: its tables, each before its members, and whatever is no
table. -/
def writes : Setting → List Write
  | leaf value origin => [⟨[], leaf value origin⟩]
  | list items origin => [⟨[], list items origin⟩]
  | table members _ => ⟨[], emptyTable⟩ :: memberWrites members

def memberWrites : List (String × Setting) → List Write
  | [] => []
  | (key, value) :: rest => value.writes.map (.under [.member key]) ++ memberWrites rest
end

theorem writes_eq_cons (s : Setting) : ∃ first rest, s.writes = first :: rest := by
  cases s <;> exact ⟨_, _, rfl⟩

mutual
theorem layOver_eq_writes : (above below : Setting) →
    above.layOver below = above.writes.foldl Write.apply below
  | leaf _ _, _ => rfl
  | list _ _, _ => rfl
  | table members _, below => by
    rw [layOver, writes, List.foldl_cons, layMembers_eq_writes members]
    rfl

theorem layMembers_eq_writes : (members : List (String × Setting)) → (below : Setting) →
    layMembers members below = (memberWrites members).foldl Write.apply below
  | [], _ => rfl
  | (key, value) :: rest, below => by
    obtain ⟨first, others, written⟩ := value.writes_eq_cons
    have laid : value.layOver = fun part => (first :: others).foldl Write.apply part := by
      funext part
      rw [layOver_eq_writes value part, written]
    rw [layMembers, memberWrites, List.foldl_append, written, Write.foldl_apply_under, laid,
      layMembers_eq_writes rest]
    rfl
end

end Setting

namespace Layer

def writes (layer : Layer) : List Write :=
  layer.flatMap fun entry => entry.2.writes.map (.under (.ofKey entry.1))

theorem put_eq_writes (below : Setting) (entry : String × Setting) :
    put below entry = (entry.2.writes.map (.under (.ofKey entry.1))).foldl Write.apply below := by
  obtain ⟨first, others, written⟩ := entry.2.writes_eq_cons
  have laid : entry.2.layOver = fun part => (first :: others).foldl Write.apply part := by
    funext part
    rw [Setting.layOver_eq_writes, written]
  rw [put, written, Write.foldl_apply_under, laid]

theorem onto_eq_writes (layer : Layer) (below : Setting) :
    layer.onto below = layer.writes.foldl Write.apply below := by
  induction layer generalizing below with
  | nil => rfl
  | cons entry rest ih =>
    rw [writes, List.flatMap_cons, List.foldl_append, ← put_eq_writes]
    exact ih _

/-- Every write of a source starts at a member. -/
theorem writes_path {layer : Layer} {w : Write} (written : w ∈ layer.writes) :
    ∃ name rest, w.path = .member name :: rest := by
  obtain ⟨entry, -, inside⟩ := List.mem_flatMap.1 written
  obtain ⟨inner, -, rfl⟩ := List.mem_map.1 inside
  obtain ⟨name, rest, leads⟩ := Path.ofKey_cons entry.1
  exact ⟨name, rest ++ inner.path, by rw [Write.under, leads]; rfl⟩

end Layer

namespace Setting

def isTable : Setting → Bool
  | table _ _ => true
  | _ => false

def isList : Setting → Bool
  | list _ _ => true
  | _ => false

def part? : List String → Setting → Option Setting
  | [], s => some s
  | name :: rest, s => (s.members.find? name).bind (part? rest)

/-- The value that names lead to, if it is no table. -/
def plain? (names : List String) (s : Setting) : Option Setting :=
  (s.part? names).filter (!·.isTable)

/-- Whether names lead to a table with a member of some name. -/
def Holds (names : List String) (key : String) (s : Setting) : Prop :=
  ∃ part ∈ s.part? names, (part.members.find? key).isSome

theorem part?_cons (name : String) (rest : List String) (s : Setting) :
    s.part? (name :: rest) = (s.members.find? name).bind (part? rest) := rfl

/-- A place that is made on the way to another one has no parts yet. -/
theorem part?_cons_partAt (name next : String) (rest : List String) (s : Setting) :
    s.part? (name :: next :: rest) = (s.partAt name).part? (next :: rest) := by
  rw [part?_cons, partAt]
  cases s.members.find? name <;> rfl

theorem part?_singleton (name : String) (s : Setting) : s.part? [name] = s.members.find? name := by
  rw [part?_cons]
  cases s.members.find? name <;> rfl

end Setting

inductive Touch where
  /-- It leads elsewhere, or writes a table on the way. -/
  | passes
  /-- It puts something on the way that is no table. -/
  | clears
  /-- It writes a table there. -/
  | opens
  /-- It leads further, into a member. -/
  | enters (name : String)
  /-- It puts a value there that is no table. -/
  | sets (value : Setting)
  /-- It leads further, into an item. -/
  | indexes

namespace Touch

/-- What the write of a value at a path does to the place that names lead to. -/
def of (value : Setting) : List String → Path → Touch
  | [], [] => if value.isTable then opens else sets value
  | [], .member name :: _ => enters name
  | [], .item _ :: _ => indexes
  | _ :: _, [] => if value.isTable then passes else clears
  | _ :: _, .item _ :: _ => clears
  | name :: names, .member other :: path => if other = name then of value names path else passes

/-- What a place holds after a touch, by what it held before. -/
def Leaves : Touch → Option Setting → Option Setting → Prop
  | passes, before, after => after = before
  | clears, _, after => after = none
  | opens, before, after => after = some (Setting.emptyTable.layOver (before.getD .empty))
  | enters name, before, after => ∃ part,
      after = some (.table ((before.getD .empty).members.insert name part) none)
  | sets value, _, after => value.isTable = false ∧ after = some value
  | indexes, _, after => ∃ items, after = some (.list items none)

end Touch

namespace Write

/-- What a write does to the place that names lead to. -/
def touch (w : Write) (names : List String) : Touch := .of w.value names w.path

/-- Only empty tables are written, and what is no table. -/
def Single (w : Write) : Prop := w.value.isTable = true → w.value = .emptyTable

theorem layOver_of_not_table {value : Setting} (plain : value.isTable = false) (s : Setting) :
    value.layOver s = value := by
  cases value with
  | leaf | list => rfl
  | table => cases plain

/-- A write at a place itself, or into a part of it. -/
theorem leaves_here {value : Setting} (single : value.isTable = true → value = .emptyTable)
    (path : Path) (before : Option Setting) :
    (Touch.of value [] path).Leaves before
      (some ((before.getD .empty).changeAt value.layOver path)) := by
  cases path with
  | nil =>
    cases table : value.isTable with
    | true => simp [Touch.of, Touch.Leaves, single table, Setting.changeAt, Setting.isTable,
        Setting.emptyTable]
    | false => simp [Touch.of, Touch.Leaves, table, Setting.changeAt, layOver_of_not_table table]
  | cons step path =>
    cases step with
    | member name => exact ⟨_, rfl⟩
    | item index =>
      simp only [Touch.of, Touch.Leaves, Setting.changeAt, Setting.changeItem]
      split <;> exact ⟨_, rfl⟩

theorem part?_emptyTable_layOver (name : String) (rest : List String) (s : Setting) :
    (Setting.emptyTable.layOver s).part? (name :: rest) = s.part? (name :: rest) := by
  cases s with
  | leaf value origin => cases value <;> rfl
  | list | table => rfl

theorem leaves_changeAt {value : Setting} (single : value.isTable = true → value = .emptyTable)
    {names : List String} (named : names ≠ []) (path : Path) (s : Setting) :
    (Touch.of value names path).Leaves (s.part? names)
      ((s.changeAt value.layOver path).part? names) := by
  induction names generalizing path s with
  | nil => exact absurd rfl named
  | cons name rest ih =>
    cases path with
    | nil =>
      cases table : value.isTable with
      | true =>
        rw [single table]
        exact part?_emptyTable_layOver name rest s
      | false =>
        have clears : Touch.of value (name :: rest) [] = .clears := by simp [Touch.of, table]
        rw [clears, Setting.changeAt, layOver_of_not_table table]
        cases value with
        | leaf | list => rfl
        | table => cases table
    | cons step path =>
      cases step with
      | item index =>
        simp only [Touch.of, Touch.Leaves, Setting.changeAt, Setting.changeItem]
        split <;> rfl
      | member other =>
        have found : (s.changeAt value.layOver (.member other :: path)).members.find? name =
            if other = name then some ((s.partAt other).changeAt value.layOver path)
            else s.members.find? name := Members.find?_insert ..
        by_cases same : other = name
        · subst same
          simp only [Touch.of, if_true, Setting.part?_cons _ _ (Setting.changeAt ..), found,
            Option.bind_some]
          cases rest with
          | nil =>
            rw [Setting.partAt, ← Setting.part?_singleton]
            exact leaves_here single path _
          | cons next more =>
            rw [Setting.part?_cons_partAt]
            exact ih (by simp) path _
        · simp only [Touch.of, same, if_false, Touch.Leaves, Setting.part?_cons, found]

/-- What a place holds after a write is told by what the write does to it. -/
theorem leaves_apply {w : Write} (single : w.Single) {names : List String} (named : names ≠ [])
    (s : Setting) : (w.touch names).Leaves (s.part? names) ((w.apply s).part? names) :=
  leaves_changeAt single named w.path s

end Write

mutual
theorem Setting.writes_single : (s : Setting) → ∀ w ∈ s.writes, w.Single
  | .leaf _ _, w, written => by
    rw [Setting.writes, List.mem_singleton] at written
    subst written
    exact nofun
  | .list _ _, w, written => by
    rw [Setting.writes, List.mem_singleton] at written
    subst written
    exact nofun
  | .table members _, w, written => by
    rcases List.mem_cons.1 written with rfl | inside
    · exact fun _ => rfl
    · exact Setting.memberWrites_single members w inside

theorem Setting.memberWrites_single : (members : List (String × Setting)) →
    ∀ w ∈ memberWrites members, w.Single
  | [], _, written => by cases written
  | (_, value) :: rest, w, written => by
    rcases List.mem_append.1 written with first | later
    · obtain ⟨inner, within, rfl⟩ := List.mem_map.1 first
      exact Setting.writes_single value inner within
    · exact Setting.memberWrites_single rest w later
end

theorem Layer.writes_single {layer : Layer} {w : Write} (written : w ∈ layer.writes) :
    w.Single := by
  obtain ⟨entry, -, inside⟩ := List.mem_flatMap.1 written
  obtain ⟨inner, within, rfl⟩ := List.mem_map.1 inside
  exact entry.2.writes_single inner within

end PluginHost
