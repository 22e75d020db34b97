import Mathlib.Data.List.Induction
import PluginHost.Json.Basic

set_option autoImplicit false

namespace PluginHost

namespace Members

variable {α γ : Type}

theorem find?_map (f : α → γ) (key : String) (members : Members α) :
    find? key (members.map fun m => (m.1, f m.2)) = (find? key members).map f := by
  induction members with
  | nil => rfl
  | cons m rest ih =>
    simp only [List.map_cons, find?, ih]
    split <;> rfl

theorem insert_map (f : α → γ) (key : String) (value : α) (members : Members α) :
    insert key (f value) (members.map fun m => (m.1, f m.2)) =
      (insert key value members).map fun m => (m.1, f m.2) := by
  induction members with
  | nil => rfl
  | cons m rest ih =>
    simp only [List.map_cons, insert, ih]
    split
    · rfl
    · split <;> rfl

theorem mem_of_find? {key : String} {members : Members α} {value : α}
    (found : find? key members = some value) : (key, value) ∈ members := by
  induction members with
  | nil => cases found
  | cons m rest ih =>
    unfold find? at found
    split at found
    · rename_i same
      cases found
      subst same
      exact List.mem_cons_self
    · exact List.mem_cons_of_mem _ (ih found)

theorem find?_isSome_iff {key : String} {members : Members α} :
    (find? key members).isSome ↔ key ∈ members.keys := by
  induction members with
  | nil => simp [find?, keys]
  | cons m rest ih =>
    have others : (find? key rest).isSome ↔ key ∈ rest.map Prod.fst := ih
    rw [find?, keys, List.map_cons, List.mem_cons]
    by_cases same : m.1 = key
    · simp [same]
    · rw [if_neg same, others, or_iff_right (Ne.symm same)]

/-- What comes behind all the others is put at the end. -/
theorem insert_of_all_lt {key : String} {value : α} {members : Members α}
    (behind : ∀ m ∈ members, m.1 < key) : insert key value members = members ++ [(key, value)] := by
  induction members with
  | nil => rfl
  | cons m rest ih =>
    have before : m.1 < key := behind m List.mem_cons_self
    have notBehind : ¬ key < m.1 := fun after => String.lt_irrefl key (String.lt_trans after before)
    have different : key ≠ m.1 := fun same => String.lt_irrefl key (by rwa [← same] at before)
    simp only [insert, notBehind, different, if_false, List.cons_append]
    rw [ih fun m member => behind m (List.mem_cons_of_mem _ member)]

theorem foldl_insert_append (done : Members α) {members : Members α}
    (ascending : Ascending (done ++ members)) :
    members.foldl (fun members m => members.insert m.1 m.2) done = done ++ members := by
  induction members generalizing done with
  | nil => simp
  | cons m rest ih =>
    have behind : ∀ d ∈ done, d.1 < m.1 := fun d member =>
      (List.pairwise_append.1 ascending).2.2 d member m List.mem_cons_self
    rw [List.append_cons] at ascending
    rw [List.foldl_cons, insert_of_all_lt behind, ih _ ascending, ← List.append_cons]

/-- Members that are in order stay as they are. -/
theorem ofList_of_ascending {members : Members α} (ascending : members.Ascending) :
    ofList members = members := foldl_insert_append [] ascending

theorem find?_eq_none_of_not_mem {key : String} {members : Members α}
    (absent : key ∉ members.keys) : find? key members = none := by
  rwa [← Option.not_isSome_iff_eq_none, find?_isSome_iff]

theorem find?_of_mem {members : Members α} (nodup : members.keys.Nodup) {m : String × α}
    (member : m ∈ members) : find? m.1 members = some m.2 := by
  induction members with
  | nil => cases member
  | cons first rest ih =>
    obtain ⟨away, nodupRest⟩ := List.nodup_cons.1 nodup
    rw [find?]
    obtain rfl | later := List.mem_cons.1 member
    · exact if_pos rfl
    · have other : first.1 ≠ m.1 := fun same => away (same ▸ List.mem_map_of_mem later)
      rw [if_neg other]
      exact ih nodupRest later

/-- What is put in one after the other is found before what was there. -/
theorem find?_foldl_insert (key : String) {pairs : List (String × α)}
    (nodup : (keys pairs).Nodup) (done : Members α) :
    find? key (pairs.foldl (fun members pair => members.insert pair.1 pair.2) done) =
      (find? key pairs).or (find? key done) := by
  induction pairs generalizing done with
  | nil => rfl
  | cons pair rest ih =>
    obtain ⟨away, nodupRest⟩ := List.nodup_cons.1 nodup
    rw [List.foldl_cons, ih nodupRest, find?_insert, find?]
    by_cases same : pair.1 = key
    · have absent : find? key rest = none := find?_eq_none_of_not_mem (same ▸ away)
      rw [if_pos same, if_pos same, absent]
      rfl
    · rw [if_neg same, if_neg same]

theorem find?_ofList (key : String) {pairs : List (String × α)} (nodup : (keys pairs).Nodup) :
    find? key (ofList pairs) = find? key pairs := by
  have found := find?_foldl_insert key nodup []
  rwa [find?, Option.or_none] at found

theorem mem_of_mem_foldl_insert {pairs : List (String × α)} {done : Members α} {m : String × α}
    (member : m ∈ pairs.foldl (fun members pair => members.insert pair.1 pair.2) done) :
    m ∈ pairs ∨ m ∈ done := by
  induction pairs generalizing done with
  | nil => exact .inr member
  | cons pair rest ih =>
    obtain later | now := ih member
    · exact .inl (List.mem_cons_of_mem _ later)
    · obtain rfl | old := mem_insert now
      · exact .inl List.mem_cons_self
      · exact .inr old

theorem mem_of_mem_ofList {pairs : List (String × α)} {m : String × α} (member : m ∈ ofList pairs) :
    m ∈ pairs := by
  have put : m ∈ pairs ∨ m ∈ ([] : Members α) := mem_of_mem_foldl_insert member
  exact put.resolve_right List.not_mem_nil

theorem ofList_concat (pairs : List (String × α)) (pair : String × α) :
    ofList (pairs ++ [pair]) = (ofList pairs).insert pair.1 pair.2 := by
  rw [ofList, List.foldl_append]
  rfl

/-- A key that has one value only keeps it. -/
theorem find?_ofList_of_only {pairs : List (String × α)} {key : String} {value : α}
    (present : (key, value) ∈ pairs) (only : ∀ other, (key, other) ∈ pairs → other = value) :
    find? key (ofList pairs) = some value := by
  induction pairs using List.reverseRec with
  | nil => cases present
  | append_singleton before last ih =>
    rw [ofList_concat, find?_insert]
    by_cases same : last.1 = key
    · rw [if_pos same, only last.2]
      rw [← same]
      exact List.mem_append_right _ List.mem_cons_self
    · rw [if_neg same]
      refine ih ?_ fun other member => only other (List.mem_append_left _ member)
      rcases List.mem_append.1 present with old | last_
      · exact old
      · rw [← List.mem_singleton.1 last_] at same
        exact absurd rfl same

end Members

end PluginHost
