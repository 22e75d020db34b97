import PluginHost.Options.Schema
import PluginHost.Proofs.Json.Parts
import PluginHost.Proofs.Toml.Comments

/-!
The listing of the declared options. Descriptions and defaults cannot lead out of its comments: the
lines of a description are made comments one by one, and a default is written on one line. Names and
owners stand in it as they are, so whether the listing is all comments is up to them.
-/

set_option autoImplicit false

namespace PluginHost

open Text (Stays FitsComment Commented)

namespace Schema

/-- However many lines a description has, it fits once each of them begins a comment. -/
theorem fitsComment_commentLines (text : String) : FitsComment (commentLines text).toList := by
  rw [commentLines, String.toList_ofList]
  induction text.toList with
  | nil => exact Text.fitsComment_of_not_mem List.not_mem_nil
  | cons c rest ih =>
    rw [List.flatMap_cons]
    refine FitsComment.append ?_ ih
    by_cases ends : c = '\n'
    · rw [if_pos ends, Text.fitsComment_iff]
      simp [Stays, Text.insideAfter]
    · rw [if_neg ends]
      exact Text.fitsComment_of_not_mem (by simpa using fun same => ends same.symm)

/-- An option whose name stays inside of the comment that it stands in, and whose owner does, if the
option is described. -/
def FitsListing (spec : OptionSpec) : Prop :=
  FitsComment spec.name.toList ∧
    (spec.description ≠ "" → ∀ owner ∈ spec.owner, FitsComment owner.toList)

theorem stays_renderDescription (spec : OptionSpec) (rest : List Char) :
    Stays false ((renderDescription spec).toList ++ rest) ↔
      (spec.description ≠ "" → ∀ owner ∈ spec.owner, FitsComment owner.toList) ∧
        Stays false rest := by
  unfold renderDescription
  split
  next none_ =>
    have plain : spec.description = "" := String.isEmpty_iff.1 none_
    simp [plain]
  next some_ =>
    have described : spec.description ≠ "" := fun none_ => some_ (String.isEmpty_iff.2 none_)
    have lines := fitsComment_commentLines spec.description
    cases spec.owner with
    | none =>
      have written : ("# " ++ commentLines spec.description ++ "" ++ "\n").toList ++ rest =
          '#' :: ' ' :: ((commentLines spec.description).toList ++ '\n' :: rest) := by
        simp
      dsimp only
      rw [written, Text.stays_hash, Text.stays_inside (by decide), lines.stays_append,
        Text.stays_line_end]
      simp
    | some owner =>
      have written : ("# " ++ commentLines spec.description ++ (" (" ++ owner ++ ")") ++
          "\n").toList ++ rest = '#' :: ' ' :: ((commentLines spec.description).toList ++
            (' ' :: '(' :: (owner.toList ++ ')' :: '\n' :: rest))) := by
        simp
      dsimp only
      rw [written, Text.stays_hash, Text.stays_inside (by decide), lines.stays_append,
        Text.stays_inside (by decide), Text.stays_inside (by decide),
        Text.stays_append_cons (by decide) (by decide), Text.stays_line_end]
      simp [described]

theorem stays_renderSpec (spec : OptionSpec) (rest : List Char) :
    Stays false ((renderSpec spec).toList ++ rest) ↔ FitsListing spec ∧ Stays false rest := by
  obtain ⟨value, one, written⟩ : ∃ value, '\n' ∉ value ∧ (renderSpec spec).toList ++ rest =
      (renderDescription spec).toList ++ '#' :: ' ' :: (spec.name.toList ++
        (' ' :: '=' :: ' ' :: (value ++ '\n' :: '\n' :: rest))) := by
    unfold renderSpec
    cases spec.default with
    | none => exact ⟨[], List.not_mem_nil, by simp⟩
    | some value => exact ⟨value.render.toList, Json.line_end_not_mem_render value, by simp⟩
  rw [written, stays_renderDescription, FitsListing, Text.stays_hash,
    Text.stays_inside (by decide), Text.stays_append_cons (by decide) (by decide),
    Text.stays_inside (by decide), Text.stays_inside (by decide),
    (Text.fitsComment_of_not_mem one).stays_append, Text.stays_line_end, Text.stays_line_end,
    and_left_comm, and_assoc]

theorem toList_render (s : Schema) :
    s.render.toList = s.specs.flatMap fun spec => (renderSpec spec).toList := by
  rw [render]
  simp [List.flatMap_map]

/-- The listing is all comments just if names and owners stay inside of theirs, and then it sets
nothing. Descriptions and defaults may be whatever they are. -/
theorem render_commented_iff (s : Schema) :
    (Commented s.render ↔ ∀ spec ∈ s.specs, FitsListing spec) ∧
    (Commented s.render → Toml.SetsNothing s.render) := by
  refine ⟨?_, Toml.setsNothing_of_commented⟩
  rw [Text.commented_iff, toList_render]
  induction s.specs with
  | nil => simp
  | cons spec rest ih => rw [List.flatMap_cons, stays_renderSpec, ih, List.forall_mem_cons]

/-- Two options, one with a description on two lines, one with a name on two lines. -/
def described : Schema where
  specs := [⟨"limit", "How many beats.\nZero for no end.", some (.int 3), some "Heartbeat"⟩,
    ⟨"beat\n#every", "", none, none⟩]
  owner := none

theorem render_commented_of_described :
    Commented described.render ∧ Toml.parse described.render = .ok [] := by
  have name : FitsComment "beat\n#every".toList := by
    rw [Text.fitsComment_iff]
    simp [Stays, Text.insideAfter]
  have limit : FitsComment "limit".toList := Text.fitsComment_of_not_mem (by decide)
  have owner : FitsComment "Heartbeat".toList := Text.fitsComment_of_not_mem (by decide)
  have fits : ∀ spec ∈ described.specs, FitsListing spec := by
    rw [described, List.forall_mem_cons, List.forall_mem_singleton]
    refine ⟨⟨limit, fun _ text same => ?_⟩, name, fun some_ => absurd rfl some_⟩
    cases same
    exact owner
  have commented := (render_commented_iff described).1.2 fits
  have plain : ¬ Toml.Cursor.HasControl described.render.toList := by
    have free : described.render.toList.all
        (fun char => !Toml.Cursor.isControl char || char == '\n') = true := by decide +kernel
    rintro ⟨char, member, control, other⟩
    have allowed := List.all_eq_true.1 free char member
    simp [control, other] at allowed
  exact ⟨commented, ((render_commented_iff described).2 commented).readable plain⟩

/-- A name of two lines leaves the comment that it stands in, and the default is set. -/
theorem render_not_commented :
    let s := (empty.declare ⟨"beat\nevery", "", some (.int 1)⟩).1
    ¬ Commented s.render ∧
      (Toml.parse s.render).toOption.map Members.keys = some ["every"] := by
  decide +kernel

end Schema

end PluginHost
