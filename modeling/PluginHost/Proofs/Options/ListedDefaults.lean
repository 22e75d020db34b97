import PluginHost.Proofs.Config.Assigning
import PluginHost.Proofs.Json.RoundTrip
import PluginHost.Proofs.Options.Defaults

set_option autoImplicit false

namespace PluginHost

namespace Schema

/-- What the listing says of an option that has a default. -/
def listedDefault (spec : OptionSpec) (value : Json) : String := spec.name ++ " = " ++ value.render

/-- The listing of some options is the listings of them one behind the other. -/
theorem render_append (s : Schema) (first later : List OptionSpec) :
    render { s with specs := first ++ later } =
      render { s with specs := first } ++ render { s with specs := later } := by
  rw [← String.toList_inj]
  simp [render]

theorem renderSpec_of_default {spec : OptionSpec} {value : Json}
    (own : spec.default = some value) :
    renderSpec spec = renderDescription spec ++ "# " ++ listedDefault spec value ++ "\n\n" := by
  rw [renderSpec, own, ← String.toList_inj]
  simp [listedDefault]

/-- An option whose default can be given on the command line as it is listed. -/
structure Listable (spec : OptionSpec) (value : Json) : Prop where
  own : spec.default = some value
  solid : Text.Solid spec.name
  noSign : '=' ∉ spec.name.toList
  whole : value.Whole
  shallow : value.depth ≤ 127

namespace Listable

variable {spec : OptionSpec} {value : Json}

/-- The name ends at the blank before the sign, and the text of the value begins with the blank
behind it. -/
theorem assigns (listable : Listable spec value) :
    Assigns (listedDefault spec value) spec.name (" " ++ value.render) := by
  have blank : ∀ char ∈ [' '], Text.isBlank char = true := List.forall_mem_singleton.2 rfl
  refine ⟨spec.name ++ " ", ?_, ?_, ⟨[], [' '], by simp, blank, by simp⟩, listable.solid⟩
  · simpa using listable.noSign
  · simp [listedDefault]

theorem parse (listable : Listable spec value) : Json.parse (" " ++ value.render) = .ok value := by
  have blank : ∀ char ∈ [' '], Json.Cursor.isBlank char = true := List.forall_mem_singleton.2 rfl
  refine Json.parse_render listable.whole listable.shallow blank ?_
  rw [String.toList_append]
  rfl

theorem isRedundant (listable : Listable spec value) {o : Options}
    (given : o.value? spec.name = some value) : Schema.isRedundant o spec = true := by
  simp only [Schema.isRedundant, listable.own, given, Json.same_refl]

end Listable

end Schema

namespace ConfigDirectory

open Schema (Listable listedDefault renderDescription)

/-- Whatever was configured before, the last text of a command line sets an option to its default if
it is what the listing says of the option, and the option counts as set to its default then. -/
theorem loadFor_listedDefault {d : ConfigDirectory} {arguments : Arguments} {env : Environment}
    {config : Config} (loaded : d.load arguments.deployment env = .ok config) {s : Schema}
    {spec : OptionSpec} {value : Json} (listable : Listable spec value)
    {first others : List OptionSpec} (declared : s.specs = first ++ spec :: others)
    {earlier : List String} (signs : ∀ t ∈ earlier, '=' ∈ t.toList)
    (last : arguments.options = earlier ++ [listedDefault spec value]) :
    s.render = Schema.render { s with specs := first } ++
        (renderDescription spec ++ "# " ++ listedDefault spec value ++ "\n\n") ++
        Schema.render { s with specs := others } ∧
      ∃ result, d.loadFor arguments env = .ok result ∧
        result.options.value? spec.name = some value ∧
        spec.name ∈ s.redundantDefaults result.options ∧
        (s.applyDefaults result.options).value? spec.name = some value := by
  constructor
  · have whole : s = { s with specs := first ++ ([spec] ++ others) } := by
      rw [List.singleton_append, ← declared]
    have one : Schema.render { s with specs := [spec] } = Schema.renderSpec spec := by
      rw [← String.toList_inj]
      simp [Schema.render]
    rw [← Schema.renderSpec_of_default listable.own, ← one, String.append_assoc,
      ← Schema.render_append, ← Schema.render_append, ← whole]
  · have all : ∀ t ∈ arguments.options, '=' ∈ t.toList := by
      rw [last]
      intro t member
      rcases List.mem_append.1 member with before | own
      · exact signs t before
      · rw [List.mem_singleton.1 own]
        exact listable.assigns.sign
    have counts : LastAssigns arguments.options spec.name (" " ++ value.render) :=
      ⟨earlier, _, [], last, listable.assigns, by simp⟩
    obtain ⟨result, opened, overridden⟩ := loadFor_of_signs loaded all
    have given := overridden.json _ _ _ counts listable.parse
    refine ⟨result, opened, given, ?_, Schema.foldl_applyDefault_of_some given⟩
    have member : spec ∈ s.specs := declared ▸ List.mem_append_right _ List.mem_cons_self
    exact Schema.mem_redundantDefaults_iff.2 ⟨spec, member, rfl, listable.isRedundant given⟩

/-- A default with containers in it, and with characters that are escaped where it is written. -/
def nested : Json :=
  .object [("a=\"b\"", .array [.int 3, .int (-2), .string "c\n\\d", .object []])]

theorem nested_whole : nested.Whole := by
  have three : (Json.int 3).Whole := .int (by decide) (by decide)
  have minusTwo : (Json.int (-2)).Whole := .int (by decide) (by decide)
  have none_ : (Json.object []).Whole := .object .nil (by simp)
  have list : (Json.array [.int 3, .int (-2), .string "c\n\\d", .object []]).Whole := by
    refine .array ?_
    simp [three, minusTwo, Json.Whole.string, none_]
  exact .object (List.pairwise_singleton _ _) (List.forall_mem_singleton.2 list)

def nestedSpec : OptionSpec :=
  ⟨"beat limits", "Bounds.\nBy name.", some nested, some "Heartbeat"⟩

def nestedSchema : Schema := ⟨[⟨"limit", "", some (.int 3), none⟩, nestedSpec], none⟩

def nestedTwice : Arguments where
  deployment := "test"
  plugins := []
  options := ["beat limits=5",
    "beat limits = \x7b\"a=\\\"b\\\"\":[3,-2,\"c\\n\\\\d\",\x7b\x7d]\x7d"]

/-- The option is the default again, each of its parts. -/
theorem loadFor_listedDefault_of_nested :
    positional.load "test" [] = .ok positionalConfig ∧
      ∃ result, positional.loadFor nestedTwice [] = .ok result ∧
        result.options.value? "beat limits" = some nested ∧
        "beat limits" ∈ nestedSchema.redundantDefaults result.options := by
  have solid : Text.Solid "beat limits" := ((Text.trim_eq_iff (s := "beat limits")).1 rfl).2
  have listable : Listable nestedSpec nested := ⟨rfl, solid, by decide, nested_whole, by decide⟩
  have written : nestedTwice.options = ["beat limits=5"] ++ [listedDefault nestedSpec nested] := by
    decide
  have declared : nestedSchema.specs = [⟨"limit", "", some (.int 3), none⟩] ++ nestedSpec :: [] :=
    rfl
  obtain ⟨-, result, opened, given, redundant, -⟩ :=
    loadFor_listedDefault positional_load listable declared
      (List.forall_mem_singleton.2 (by decide)) written
  exact ⟨positional_load, result, opened, given, redundant⟩

end ConfigDirectory

end PluginHost
