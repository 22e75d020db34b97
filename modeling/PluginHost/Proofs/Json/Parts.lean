import PluginHost.Json.Printer
import PluginHost.Proofs.Digits

set_option autoImplicit false

namespace PluginHost.Json

/-- What holds of a value if it holds of its parts holds of all values. -/
theorem induct {motive : Json → Prop} (null : motive .null) (bool : ∀ b, motive (.bool b))
    (int : ∀ n, motive (.int n)) (float : ∀ x, motive (.float x))
    (string : ∀ s, motive (.string s))
    (array : ∀ items, (∀ item ∈ items, motive item) → motive (.array items))
    (object : ∀ members, (∀ m ∈ members, motive m.2) → motive (.object members)) (value : Json) :
    motive value :=
  @Json.rec motive (fun items => ∀ item ∈ items, motive item)
    (fun members => ∀ m ∈ members, motive m.2) (fun m => motive m.2) null bool int float string
    array object (by simp) (fun _ _ first rest => List.forall_mem_cons.2 ⟨first, rest⟩) (by simp)
    (fun _ _ first rest => List.forall_mem_cons.2 ⟨first, rest⟩) (fun _ _ value => value) value

/-- A value whose numbers are integers. They fit a word, with or without a sign, and objects list
their members in order, as whatever was read does. -/
inductive Whole : Json → Prop where
  | null : Whole .null
  | bool (b : Bool) : Whole (.bool b)
  | int {n : Int} (least : Number.minInt ≤ n) (most : n ≤ Number.maxWord) : Whole (.int n)
  | string (s : String) : Whole (.string s)
  | array {items : List Json} (each : ∀ item ∈ items, Whole item) : Whole (.array items)
  | object {members : Members Json} (ascending : members.Ascending)
      (each : ∀ m ∈ members, Whole m.2) : Whole (.object members)

mutual
/-- How many containers a value nests, itself included. -/
def depth : Json → Nat
  | .array items => depthOfItems items + 1
  | .object members => depthOfMembers members + 1
  | _ => 0

def depthOfItems : List Json → Nat
  | [] => 0
  | item :: rest => max item.depth (depthOfItems rest)

def depthOfMembers : List (String × Json) → Nat
  | [] => 0
  | (_, value) :: rest => max value.depth (depthOfMembers rest)
end

theorem depth_le_of_item {items : List Json} {item : Json} (member : item ∈ items) :
    item.depth ≤ depthOfItems items := by
  induction items with
  | nil => cases member
  | cons first rest ih =>
    rw [depthOfItems]
    obtain rfl | later := List.mem_cons.1 member
    · exact Nat.le_max_left _ _
    · exact Nat.le_trans (ih later) (Nat.le_max_right _ _)

theorem depth_le_of_member {members : Members Json} {m : String × Json} (member : m ∈ members) :
    m.2.depth ≤ depthOfMembers members := by
  induction members with
  | nil => cases member
  | cons first rest ih =>
    rw [depthOfMembers]
    obtain rfl | later := List.mem_cons.1 member
    · exact Nat.le_max_left _ _
    · exact Nat.le_trans (ih later) (Nat.le_max_right _ _)

mutual
/-- Every value equals itself. -/
theorem same_refl : (value : Json) → same value value = true
  | .null => rfl
  | .bool _ | .int _ | .string _ => by simp [same]
  | .float _ => by simp [same, sameFloat]
  | .array items => by
    rw [same]
    exact sameItems_refl items
  | .object members => by
    rw [same]
    exact sameMembers_refl members

theorem sameItems_refl : (items : List Json) → sameItems items items = true
  | [] => rfl
  | item :: rest => by rw [sameItems, same_refl item, sameItems_refl rest, Bool.and_self]

theorem sameMembers_refl : (members : List (String × Json)) → sameMembers members members = true
  | [] => rfl
  | (key, value) :: rest => by
    rw [sameMembers, same_refl value, sameMembers_refl rest, beq_self_eq_true, Bool.and_self,
      Bool.and_self]
end


section Joining

variable {α : Type}

/-- Parts that come after the first one, each behind its comma. -/
def behind (write : α → List Char) (parts : List α) : List Char :=
  parts.flatMap fun part => ',' :: write part

def joined (write : α → List Char) : List α → List Char
  | [] => []
  | part :: rest => write part ++ behind write rest

def memberText (write : α → List Char) (m : String × α) : List Char :=
  (renderString m.1).toList ++ ':' :: write m.2

end Joining

theorem toList_renderString (s : String) : (renderString s).toList =
    '"' :: s.toList.flatMap (fun char => (escapeChar char).toList) ++ ['"'] := by
  have folded : ∀ (chars : List Char) (start : String),
      (chars.foldl (fun text c => text ++ escapeChar c) start).toList =
        start.toList ++ chars.flatMap fun char => (escapeChar char).toList := by
    intro chars
    induction chars with
    | nil => simp
    | cons char rest ih => simp [ih]
  rw [renderString, String.toList_append, folded]
  rfl

theorem toList_renderItems (items : List Json) :
    (renderItems items).toList = joined (fun item => item.render.toList) items := by
  induction items with
  | nil => rfl
  | cons item rest ih =>
    cases rest with
    | nil => simp [renderItems, joined, behind]
    | cons other rest =>
      rw [renderItems, String.toList_append, String.toList_append, ih]
      · simp [joined, behind]
      · simp

theorem toList_renderMembers (members : Members Json) : (renderMembers members).toList =
    joined (memberText fun value => value.render.toList) members := by
  induction members with
  | nil => rfl
  | cons m rest ih =>
    cases rest with
    | nil => simp [renderMembers, joined, behind, memberText]
    | cons other rest =>
      rw [renderMembers, String.toList_append, String.toList_append, ih]
      · simp [joined, behind, memberText]
      · simp

/-- The texts that values are written as. -/
theorem toList_render_array (items : List Json) : (render (.array items)).toList =
    '[' :: (joined (fun item => item.render.toList) items ++ [']']) := by
  rw [render, String.toList_append, String.toList_append, toList_renderItems]
  rfl

theorem toList_render_object (members : Members Json) : (render (.object members)).toList =
    '\x7b' :: (joined (memberText fun value => value.render.toList) members ++ ['\x7d']) := by
  rw [render, String.toList_append, String.toList_append, toList_renderMembers]
  rfl

theorem line_end_not_mem_escapeChar (c : Char) : '\n' ∉ (escapeChar c).toList := by
  have controls : ∀ code : Fin 0x20, '\n' ∉
      ("\\u00" ++ (if code.val < 0x10 then "0" else "") ++ Text.hexadecimal code.val).toList := by
    decide
  unfold escapeChar
  split
  any_goals decide
  next _ _ _ _ other _ _ =>
    split
    next control => exact controls ⟨c.toNat, control⟩
    next => simpa using fun same => other same.symm

theorem line_end_not_mem_renderString (s : String) : '\n' ∉ (renderString s).toList := by
  rw [toList_renderString]
  simp [line_end_not_mem_escapeChar]

theorem line_end_not_mem_joined {α : Type} {write : α → List Char} {parts : List α}
    (each : ∀ part ∈ parts, '\n' ∉ write part) : '\n' ∉ joined write parts := by
  cases parts with
  | nil => exact List.not_mem_nil
  | cons part rest =>
    obtain ⟨first, others⟩ := List.forall_mem_cons.1 each
    simp only [joined, behind, List.mem_append, List.mem_flatMap, List.mem_cons, not_or, not_exists,
      not_and]
    exact ⟨first, fun other member => ⟨by decide, others other member⟩⟩

/-- A value is written on one line, whatever the texts in it. -/
theorem line_end_not_mem_render (value : Json) : '\n' ∉ value.render.toList := by
  induction value using induct with
  | null => decide
  | bool b => cases b <;> decide
  | int n => exact fun member => absurd (Number.digit_or_minus member) (by decide)
  | float x => exact Number.line_end_not_mem_render x
  | string s => exact line_end_not_mem_renderString s
  | array items each =>
    have inside := line_end_not_mem_joined each
    rw [toList_render_array]
    simp [inside]
  | object members each =>
    have inside : '\n' ∉ joined (memberText fun value => value.render.toList) members := by
      refine line_end_not_mem_joined fun m member => ?_
      simp [memberText, line_end_not_mem_renderString, each m member]
    rw [toList_render_object]
    simp [inside]

end PluginHost.Json
