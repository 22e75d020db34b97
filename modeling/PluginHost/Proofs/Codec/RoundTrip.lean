import PluginHost.Codec.Basic
import PluginHost.Proofs.Members

set_option autoImplicit false

namespace PluginHost

namespace Codec

variable {α β : Type}

/-- What is written of a value is read as that value. -/
def RoundTrips (codec : Codec α) (x : α) : Prop := read codec (write codec x) = .ok x

/-- Whatever is read round trips. -/
def Stable (codec : Codec α) : Prop := ∀ j x, read codec j = .ok x → codec.RoundTrips x

theorem Stable.of_all {codec : Codec α} (all : ∀ x, codec.RoundTrips x) : codec.Stable :=
  fun _ x _ => all x

/-- What a value is read as that was written again is what it was read as. -/
theorem Stable.normalize {codec : Codec α} (stable : codec.Stable) {j k : Json}
    (normal : normalize codec j = .ok k) : normalize codec k = .ok k := by
  unfold Codec.normalize at normal ⊢
  cases came : read codec j with
  | error e =>
    rw [came] at normal
    cases normal
  | ok x =>
    rw [came] at normal
    cases normal
    rw [stable j x came]
    rfl

theorem roundTrips_bool (b : Bool) : Codec.bool.RoundTrips b := rfl

theorem roundTrips_string (s : String) : Codec.string.RoundTrips s := rfl

theorem roundTrips_any (j : Json) : Codec.any.RoundTrips j := rfl

theorem roundTrips_int {range : String} {low high n : Int} (least : low ≤ n) (most : n ≤ high) :
    (Codec.int range low high).RoundTrips n :=
  if_pos ⟨least, most⟩

theorem bounds_of_read_int {range : String} {low high n : Int} {j : Json}
    (came : read (.int range low high) j = .ok n) : low ≤ n ∧ n ≤ high := by
  cases j with
  | int m =>
    have opened : read (.int range low high) (.int m) = readInt range low high (.int m) := rfl
    rw [opened, readInt] at came
    split at came
    · cases came
      assumption
    · cases came
  | _ => cases came

theorem stable_int (range : String) (low high : Int) : (Codec.int range low high).Stable :=
  fun _ _ came => roundTrips_int (bounds_of_read_int came).1 (bounds_of_read_int came).2

theorem roundTrips_text {expected : String} {reads : String → Except String α}
    {writes : α → String} {x : α} (again : reads (writes x) = .ok x) :
    (Codec.text expected reads writes).RoundTrips x := by
  have opened : read (.text expected reads writes) (write (.text expected reads writes) x) =
      readText reads (writes x) := rfl
  rw [RoundTrips, opened, readText, again]

theorem stable_text {expected : String} {reads : String → Except String α} {writes : α → String}
    (again : ∀ s x, reads s = .ok x → reads (writes x) = .ok x) :
    (Codec.text expected reads writes).Stable := by
  intro j x came
  cases j with
  | string s =>
    have opened : read (.text expected reads writes) (.string s) = readText reads s := rfl
    rw [opened, readText] at came
    cases result : reads s with
    | error message =>
      rw [result] at came
      cases came
    | ok y =>
      rw [result] at came
      cases came
      exact roundTrips_text (again s x result)
  | _ => cases came

theorem roundTrips_choice {type : String} {cases : List (String × α)} {name : α → String} {x : α}
    (named : Members.find? (name x) cases = some x) :
    (Codec.choice type cases name).RoundTrips x := by
  have opened : read (.choice type cases name) (write (.choice type cases name) x) =
      readCase cases (name x) := rfl
  rw [RoundTrips, opened, readCase, named]

/-- Another type's form stands for a value that comes back from that type. -/
theorem roundTrips_via {codec : Codec α} {into : α → β} {of : β → α} {y : β}
    (roundTrips : codec.RoundTrips (of y)) (back : into (of y) = y) :
    (Codec.via codec into of).RoundTrips y := by
  have opened : read (.via codec into of) (write (.via codec into of) y) =
      (read codec (write codec (of y))).map into := rfl
  rw [RoundTrips, opened, roundTrips, Except.map, back]

theorem read_via_eq_ok {codec : Codec α} {into : α → β} {of : β → α} {j : Json} {y : β}
    (came : read (.via codec into of) j = .ok y) : ∃ x, read codec j = .ok x ∧ into x = y := by
  have opened : read (.via codec into of) j = (read codec j).map into := rfl
  rw [opened] at came
  cases result : read codec j with
  | error e =>
    rw [result] at came
    cases came
  | ok x =>
    rw [result] at came
    cases came
    exact ⟨x, rfl, rfl⟩

theorem stable_via {codec : Codec α} {into : α → β} {of : β → α} (stable : codec.Stable)
    (back : ∀ j x, read codec j = .ok x → of (into x) = x) :
    (Codec.via codec into of).Stable := by
  intro j y came
  obtain ⟨x, result, rfl⟩ := read_via_eq_ok came
  have same := back j x result
  apply roundTrips_via
  · rw [same]
    exact stable j x result
  · rw [same]

/-- A natural number up to a bound. -/
theorem roundTrips_natural {range : String} {most n : Nat} (fits : n ≤ most) :
    (Codec.via (.int range 0 most) Int.toNat Int.ofNat).RoundTrips n := by
  have least : (0 : Int) ≤ Int.ofNat n := Int.natCast_nonneg n
  have bound : Int.ofNat n ≤ most := Int.ofNat_le.2 fits
  exact roundTrips_via (roundTrips_int least bound) rfl

theorem stable_natural (range : String) (most : Nat) :
    (Codec.via (.int range 0 most) Int.toNat Int.ofNat).Stable := by
  apply stable_via (stable_int range 0 most)
  intro j n came
  have bounds := bounds_of_read_int came
  exact Int.toNat_of_nonneg bounds.1

theorem mapM_ok {items : List α} {f : α → Except ReadFault β} {g : α → β}
    (each : ∀ a ∈ items, f a = .ok (g a)) : items.mapM f = .ok (items.map g) := by
  induction items with
  | nil => rfl
  | cons a rest ih =>
    have first := each a List.mem_cons_self
    have later := ih fun b member => each b (List.mem_cons_of_mem _ member)
    rw [List.mapM_cons, first, later]
    rfl

theorem roundTrips_list {item : Codec α} {xs : List α} (each : ∀ x ∈ xs, item.RoundTrips x) :
    (Codec.list item).RoundTrips xs := by
  have opened : read (.list item) (write (.list item) xs) =
      (xs.map (write item)).mapM (read item) := rfl
  rw [RoundTrips, opened, List.mapM_map, mapM_ok (g := id), List.map_id]
  intro x member
  exact each x member

theorem roundTrips_table {item : Codec α} {members : Members α}
    (each : ∀ m ∈ members, item.RoundTrips m.2) : (Codec.table item).RoundTrips members := by
  show (members.map fun m => (m.1, write item m.2)).mapM _ = _
  rw [List.mapM_map, mapM_ok (g := id), List.map_id]
  intro m member
  rw [Function.comp_apply, each m member]
  rfl

end Codec

/-- What holds of all the fields of a record holds field by field. -/
theorem Fields.induct {motive : (α : Type) → Fields α → Prop} (nil : motive Unit .nil)
    (cons : ∀ {α β : Type} (name : String) (codec : Codec α) (default : Option α) (rest : Fields β),
      motive β rest → motive (α × β) (.cons name codec default rest))
    (α : Type) (fields : Fields α) : motive α fields :=
  match fields with
  | .nil => nil
  | .cons name codec default rest => cons name codec default rest (Fields.induct nil cons _ rest)

namespace Fields

/-- Each field round trips. -/
def RoundTrip : {α : Type} → Fields α → α → Prop
  | _, .nil, _ => True
  | _, .cons _ codec _ rest, x => codec.RoundTrips x.1 ∧ rest.RoundTrip x.2

/-- Whatever is read for a field round trips, and so does its default. -/
def Stable : {α : Type} → Fields α → Prop
  | _, .nil => True
  | _, .cons _ codec default rest =>
    codec.Stable ∧ (∀ x, default = some x → codec.RoundTrips x) ∧ rest.Stable

end Fields

namespace Codec

variable {α : Type}

theorem keys_writeFields (fields : Fields α) (x : α) :
    Members.keys (writeFields fields x) = fields.names := by
  induction α, fields using Fields.induct with
  | nil => rfl
  | cons name codec default rest ih => exact congrArg (name :: ·) (ih x.2)

/-- The members that were written for the fields are read as these. -/
theorem readMembers_of_find? {fields : Fields α} {x : α} {members : Members Json}
    (found : ∀ m ∈ writeFields fields x, Members.find? m.1 members = some m.2)
    (roundTrip : fields.RoundTrip x) : readMembers fields members = .ok x := by
  induction α, fields using Fields.induct with
  | nil => rfl
  | cons name codec default rest ih =>
    have first : Members.find? name members = some (write codec x.1) :=
      found (name, write codec x.1) List.mem_cons_self
    have later := ih (fun m member => found m (List.mem_cons_of_mem _ member)) roundTrip.2
    have now : read codec (write codec x.1) = .ok x.1 := roundTrip.1
    rw [readMembers.eq_def]
    simp only [first, now, later]
    rfl

/-- What was written for a field can be read for it. -/
theorem checkMember_of_mem {fields : Fields α} {x : α} (nodup : fields.names.Nodup)
    (roundTrip : fields.RoundTrip x) {m : String × Json} (member : m ∈ writeFields fields x) :
    checkMember fields m.1 m.2 = .ok () := by
  induction α, fields using Fields.induct with
  | nil => cases member
  | cons name codec default rest ih =>
    obtain ⟨away, nodupRest⟩ := List.nodup_cons.1 nodup
    have now : read codec (write codec x.1) = .ok x.1 := roundTrip.1
    rw [checkMember.eq_def]
    obtain rfl | later := List.mem_cons.1 member
    · simp only [if_true, now]
      rfl
    · have other : m.1 ≠ name := by
        rintro rfl
        apply away
        rw [← keys_writeFields rest x.2]
        exact List.mem_map_of_mem later
      simp only [other, if_false]
      exact ih nodupRest roundTrip.2 later

theorem checkMembers_of_forall {check : String → Json → Except ReadFault Unit}
    {members : Members Json} (each : ∀ m ∈ members, check m.1 m.2 = .ok ()) :
    checkMembers check members = .ok () := by
  induction members with
  | nil => rfl
  | cons m rest ih =>
    have first := each m List.mem_cons_self
    have later := ih fun n member => each n (List.mem_cons_of_mem _ member)
    rw [checkMembers]
    simp only [first, later]

/-- A record whose names differ round trips if its fields do. -/
theorem roundTrips_record {name : String} {fields : Fields α} {x : α}
    (nodup : fields.names.Nodup) (roundTrip : fields.RoundTrip x) :
    (Codec.record name fields).RoundTrips x := by
  have keys : (Members.keys (writeFields fields x)).Nodup := by
    rw [keys_writeFields]
    exact nodup
  have checked : checkMembers (checkMember fields) (Members.ofList (writeFields fields x)) =
      .ok () :=
    checkMembers_of_forall fun m member =>
      checkMember_of_mem nodup roundTrip (Members.mem_of_mem_ofList member)
  have came : readMembers fields (Members.ofList (writeFields fields x)) = .ok x := by
    refine readMembers_of_find? (fun m member => ?_) roundTrip
    rw [Members.find?_ofList m.1 keys]
    exact Members.find?_of_mem keys member
  have opened : write (.record name fields) x =
      .object (Members.ofList (writeFields fields x)) := rfl
  rw [RoundTrips, opened, read.eq_def]
  simp only [checked, came]

/-- A field takes what was read for it or its default, and then the rest is read. -/
theorem readMembers_cons {β : Type} {name : String} {codec : Codec α} {default : Option α}
    {rest : Fields β} {members : Members Json} {x : α × β}
    (came : readMembers (.cons name codec default rest) members = .ok x) :
    ((∃ value, read codec value = .ok x.1) ∨ default = some x.1) ∧
      readMembers rest members = .ok x.2 := by
  rw [readMembers.eq_def] at came
  dsimp only at came
  generalize later : readMembers rest members = others at came
  cases found : Members.find? name members with
  | some value =>
    simp only [found] at came
    cases now : read codec value with
    | error e =>
      rw [now] at came
      cases came
    | ok y =>
      rw [now] at came
      cases others with
      | error e => cases came
      | ok ys =>
        cases came
        exact ⟨.inl ⟨value, now⟩, rfl⟩
  | none =>
    simp only [found] at came
    cases default with
    | none => cases came
    | some y =>
      cases others with
      | error e => cases came
      | ok ys =>
        cases came
        exact ⟨.inr rfl, rfl⟩

theorem readItems_cons {β : Type} {record name : String} {count index : Nat} {codec : Codec α}
    {default : Option α} {rest : Fields β} {items : List Json} {r : (α × β) × List Json}
    (came : readItems record count (.cons name codec default rest) index items = .ok r) :
    ((∃ value, read codec value = .ok r.1.1) ∨ default = some r.1.1) ∧
      readItems record count rest (index + 1) items.tail = .ok (r.1.2, r.2) := by
  rw [readItems.eq_def] at came
  dsimp only at came
  generalize later : readItems record count rest (index + 1) items.tail = others at came
  cases items with
  | cons item others' =>
    dsimp only at came
    cases now : read codec item with
    | error e =>
      rw [now] at came
      cases came
    | ok y =>
      rw [now] at came
      cases others with
      | error e => cases came
      | ok ys =>
        cases came
        exact ⟨.inl ⟨item, now⟩, rfl⟩
  | nil =>
    cases default with
    | none => cases came
    | some y =>
      cases others with
      | error e => cases came
      | ok ys =>
        cases came
        exact ⟨.inr rfl, rfl⟩

theorem roundTrip_of_readMembers {fields : Fields α} (stable : fields.Stable)
    {members : Members Json} {x : α} (came : readMembers fields members = .ok x) :
    fields.RoundTrip x := by
  induction α, fields using Fields.induct with
  | nil => trivial
  | cons name codec default rest ih =>
    obtain ⟨stableFirst, defaultTrips, stableRest⟩ := stable
    obtain ⟨⟨value, now⟩ | standard, later⟩ := readMembers_cons came
    · exact ⟨stableFirst value x.1 now, ih stableRest later⟩
    · exact ⟨defaultTrips x.1 standard, ih stableRest later⟩

theorem roundTrip_of_readItems {record : String} {count index : Nat} {fields : Fields α}
    (stable : fields.Stable) {items : List Json} {r : α × List Json}
    (came : readItems record count fields index items = .ok r) : fields.RoundTrip r.1 := by
  induction α, fields using Fields.induct generalizing index items with
  | nil => trivial
  | cons name codec default rest ih =>
    obtain ⟨stableFirst, defaultTrips, stableRest⟩ := stable
    obtain ⟨⟨value, now⟩ | standard, later⟩ := readItems_cons came
    · exact ⟨stableFirst value _ now, ih stableRest later⟩
    · exact ⟨defaultTrips _ standard, ih stableRest later⟩

/-- A record is read from an object or from a list, field by field. -/
theorem stable_record {name : String} {fields : Fields α} (nodup : fields.names.Nodup)
    (stable : fields.Stable) : (Codec.record name fields).Stable := by
  intro j x came
  apply roundTrips_record nodup
  rw [read.eq_def] at came
  cases j with
  | object members =>
    dsimp only at came
    cases checked : checkMembers (checkMember fields) members with
    | error e =>
      rw [checked] at came
      cases came
    | ok _ =>
      rw [checked] at came
      exact roundTrip_of_readMembers stable came
  | array items =>
    dsimp only at came
    cases taken : readItems name fields.count fields 0 items with
    | error e =>
      rw [taken] at came
      cases came
    | ok r =>
      rw [taken] at came
      dsimp only at came
      split at came
      · cases came
        exact roundTrip_of_readItems stable taken
      · cases came
  | _ => cases came

end Codec

end PluginHost
