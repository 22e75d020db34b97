import PluginHost.Proofs.Config.Fields
import PluginHost.Proofs.Config.OptionValues
import PluginHost.Proofs.Config.Variables

set_option autoImplicit false

namespace PluginHost

open Setting

namespace Touch

/-- A path that parts from the names to a place before either ends passes by the place. -/
theorem of_eq_passes (value : Setting) {names : List String} {path : Path}
    (notAbove : ¬ path <+: names.map .member) (notBelow : ¬ names.map .member <+: path)
    (noItem : ∀ front index rest, path = front.map .member ++ .item index :: rest →
      ¬ front <+: names) : of value names path = .passes := by
  induction names generalizing path with
  | nil => exact absurd List.nil_prefix notBelow
  | cons name rest ih =>
    cases path with
    | nil => exact absurd List.nil_prefix notAbove
    | cons step path =>
      cases step with
      | item index => exact absurd List.nil_prefix (noItem [] index path rfl)
      | member other =>
        by_cases same : other = name
        · subst same
          rw [of, if_pos rfl]
          refine ih (fun above => notAbove (List.cons_prefix_cons.2 ⟨rfl, above⟩))
            (fun below => notBelow (List.cons_prefix_cons.2 ⟨rfl, below⟩))
            fun front index inner parts front_ => ?_
          refine noItem (other :: front) index inner (by rw [parts]; rfl) ?_
          exact List.cons_prefix_cons.2 ⟨rfl, front_⟩
        · rw [of, if_neg same]

theorem of_self {value : Setting} (plain : value.isTable = false) (names : List String) :
    of value names (names.map .member) = .sets value := by
  induction names with
  | nil => simp [of, plain]
  | cons name rest ih => rw [List.map_cons, of, if_pos rfl, ih]

end Touch

namespace Layer

variable {layer : Layer} {names : List String}

/-- A value that some write puts at a place, and that every other one passes by, stands there. -/
theorem plain?_onto_of_sets (named : names ≠ []) {value : Setting}
    (sets : ∃ w ∈ layer.writes, w.touch names = .sets value)
    (others : ∀ w ∈ layer.writes, w.touch names = .passes ∨ w.touch names = .sets value)
    (s : Setting) : (layer.onto s).plain? names = some value := by
  have single : ∀ w ∈ layer.writes, w.Single := fun _ written => writes_single written
  have later := Or.inl (b := s.plain? names = some value) sets
  rw [onto_eq_writes]
  generalize layer.writes = writes at single others later
  -- either the value stands there already or a write is still to put it there
  induction writes generalizing s with
  | nil =>
    rcases later with ⟨w, member, -⟩ | found
    · cases member
    · exact found
  | cons w rest ih =>
    refine ih _ (fun v member => single v (List.mem_cons_of_mem _ member))
      (fun v member => others v (List.mem_cons_of_mem _ member)) ?_
    have shows := w.shows_apply (single w List.mem_cons_self) named s
    rcases others w List.mem_cons_self with touch | touch
    · rw [touch] at shows
      rcases later with ⟨v, member, puts⟩ | found
      · rcases List.mem_cons.1 member with rfl | member
        · rw [touch] at puts
          cases puts
        · exact .inl ⟨v, member, puts⟩
      · exact .inr (shows.trans found)
    · rw [touch] at shows
      exact .inr shows

end Layer

namespace Environment

/-- The path that a variable names, if it stands for a setting. -/
def path? (variable_ : String × String) : Option Path := (key? variable_.1).map .ofKey

/-- No two variables name the same path, or a path and one inside it. -/
def Apart (env : Environment) : Prop :=
  ∀ v ∈ env, ∀ w ∈ env, ∀ outer inner, path? v = some outer → path? w = some inner →
    outer <+: inner → v = w

/-- No variable names an item of a list on the way to a place. -/
def Unindexed (env : Environment) (names : List String) : Prop :=
  ∀ w ∈ env, ∀ front index rest, path? w = some (front.map .member ++ .item index :: rest) →
    ¬ front <+: names

variable {env : Environment}

theorem entry?_of_path? {v : String × String} {path : Path} (leads : path? v = some path) :
    ∃ key, entry? v = some (key, .leaf (.ofText v.2) (some origin)) ∧ Path.ofKey key = path := by
  unfold path? at leads
  obtain ⟨key, stands, rfl⟩ := Option.map_eq_some_iff.1 leads
  refine ⟨key, ?_, rfl⟩
  unfold entry?
  rw [stands]
  rfl

theorem path?_of_entry? {v : String × String} {entry : String × Setting}
    (stands : entry? v = some entry) :
    path? v = some (.ofKey entry.1) ∧ entry.2 = .leaf (.ofText v.2) (some origin) := by
  unfold entry? at stands
  obtain ⟨key, named, rfl⟩ := Option.map_eq_some_iff.1 stands
  exact ⟨by rw [path?, named]; rfl, rfl⟩

/-- Every write of the environment is that of a variable. -/
theorem exists_of_written {w : Write} (written : w ∈ env.layer.writes) :
    ∃ v ∈ env, path? v = some w.path ∧ w.value = .leaf (.ofText v.2) (some origin) := by
  obtain ⟨entry, member, inside⟩ := List.mem_flatMap.1 written
  obtain ⟨inner, within, rfl⟩ := List.mem_map.1 inside
  obtain ⟨v, variable_, stands⟩ := List.mem_filterMap.1 (Members.mem_of_mem_ofList member)
  obtain ⟨leads, value⟩ := path?_of_entry? stands
  rw [value, Setting.writes, List.mem_singleton] at within
  subst within
  exact ⟨v, variable_, by rw [leads, Write.under, List.append_nil], rfl⟩

/-- A variable that alone names its path is written. -/
theorem written_of_apart (apart : env.Apart) {v : String × String} (member : v ∈ env)
    {path : Path} (leads : path? v = some path) :
    ⟨path, .leaf (.ofText v.2) (some origin)⟩ ∈ env.layer.writes := by
  obtain ⟨key, stands, rfl⟩ := entry?_of_path? leads
  have present := List.mem_filterMap.2 ⟨v, member, stands⟩
  have only : ∀ other, (key, other) ∈ env.filterMap entry? →
      other = .leaf (.ofText v.2) (some origin) := by
    intro other found
    obtain ⟨w, member', stands'⟩ := List.mem_filterMap.1 found
    obtain ⟨leads', value⟩ := path?_of_entry? stands'
    rw [apart w member' v member _ _ leads' leads (List.prefix_refl _)] at value
    exact value
  refine List.mem_flatMap.2 ⟨_, Members.mem_of_find? (Members.find?_ofList_of_only present only), ?_⟩
  rw [Setting.writes, List.map_singleton, Write.under, List.append_nil]
  exact List.mem_cons_self

/-- What a variable names has the value that its text stands for. -/
theorem plain?_alone (apart : env.Apart) {v : String × String} (member : v ∈ env)
    {names : List String} (named : names ≠ [])
    (leads : path? v = some (names.map .member)) (unindexed : env.Unindexed names) :
    env.layer.alone.plain? names = some (.leaf (.ofText v.2) (some origin)) := by
  refine Layer.plain?_onto_of_sets named ⟨_, written_of_apart apart member leads,
    Touch.of_self rfl names⟩ (fun w written => ?_) _
  obtain ⟨u, member', leads', value⟩ := exists_of_written written
  by_cases same : u = v
  · subst same
    rw [leads] at leads'
    injection leads' with path
    rw [Write.touch, value, ← path]
    exact .inr (Touch.of_self rfl names)
  · refine .inl (Touch.of_eq_passes _ (fun above => ?_) (fun below => ?_)
      fun front index rest parts => ?_)
    · exact same (apart u member' v member _ _ leads' leads above)
    · exact same (apart v member u member' _ _ leads leads' below).symm
    · exact unindexed u member' front index rest (parts ▸ leads')

end Environment

namespace Config

def sections : List String := ["logging", "executor", "plugins", "options"]

/-- Where a configuration has its values from. The sources come the lower ones first. -/
structure Layered (layers : List Layer) (config : Config) : Prop where
  /-- A field is what the topmost source gives that gives anything for it, and else its default. A
  list is so unless a source names single items of it. -/
  fields : ∀ {α : Type} (f : Field α),
    (f.IsList → ∀ layer ∈ layers, ¬ layer.Indexes f.names) →
      f.take (Layer.topmost layers (given? f.names)) = .ok (f.get config)
  /-- A value among the options is the one of the topmost source that sets its place. -/
  leaves : ∀ names value, config.options.toJson.plain? names = some value →
    (value.isArray = false ∨ ∀ layer ∈ layers, ¬ layer.Indexes ("options" :: names)) →
      (Layer.topmost layers (plain? ("options" :: names))).map toJson = some value
  /-- No source takes away or changes what the topmost one sets, if none puts something else in the
  place of a table of another one. -/
  siblings : layers.Pairwise Layer.Compatible → ∀ names value,
    Layer.topmost layers (plain? ("options" :: names)) = some value →
    (value.isList = false ∨ ∀ layer ∈ layers, ¬ layer.Indexes ("options" :: names)) →
      config.options.toJson.plain? names = some value.toJson

theorem Field.place_mem_sections {α : Type} (f : Field α) : f.place ∈ sections := by
  cases f <;> simp [place, sections]

theorem layered_of_read {layers : List Layer} {config : Config}
    (accepted : Setting.read codec (Layer.stack layers) = .ok config)
    (sectioned : ∀ layer ∈ layers, ∀ place ∈ sections, ¬ layer.PutsValue [place]) :
    Layered layers config := by
  have tables : ∀ place ∈ sections, ∀ layer ∈ layers, ¬ layer.PutsValue [place] :=
    fun place member layer source => sectioned layer source place member
  have options := options_plain? (.stack layers) accepted (Layer.plain?_stack_eq_none
    (List.cons_ne_nil _ _) (tables "options" (by simp [sections])))
  constructor
  case fields =>
    intro α f whole
    exact f.take_topmost accepted (tables f.place f.place_mem_sections) whole
  case leaves =>
    intro names value found whole
    rw [options, Option.map_eq_some_iff] at found
    obtain ⟨part, found, rfl⟩ := found
    rw [isArray_toJson] at whole
    rw [Layer.topmost_plain (List.cons_ne_nil _ _) found whole]
    rfl
  case siblings =>
    intro compatible names value set whole
    rw [options, Layer.plain?_of_topmost (List.cons_ne_nil _ _) compatible set whole]
    rfl

end Config

namespace ConfigDirectory

variable {d : ConfigDirectory} {deployment : String} {env : Environment} {config : Config}

/-- A configuration has its values from the environment, else from the file of the deployment, else
from the default file. What the environment sets is what its variables say. -/
theorem load_layered {base overlay : Layer} (baseRead : d.layer "default" = .ok base)
    (overlayRead : d.layer deployment = .ok overlay) (loaded : d.load deployment env = .ok config)
    (sectioned : ∀ layer ∈ [base, overlay, env.layer], ∀ place ∈ Config.sections,
      ¬ layer.PutsValue [place]) (apart : env.Apart) :
    config.Layered [base, overlay, env.layer] ∧
      ∀ v ∈ env, ∀ names, names ≠ [] → Environment.path? v = some (names.map .member) →
        env.Unindexed names →
          env.layer.alone.plain? names =
            some (.leaf (.ofText v.2) (some Environment.origin)) := by
  refine ⟨Config.layered_of_read ?_ sectioned, fun v member names named leads unindexed =>
    Environment.plain?_alone apart member named leads unindexed⟩
  obtain ⟨files, merged_, accepted⟩ := load_ok_iff.1 loaded
  rw [merged, baseRead] at merged_
  simp only [overlayRead, Except.ok.injEq] at merged_
  rwa [← merged_] at accepted

def twoFiles (default test : String) : ConfigDirectory where
  name := "config"
  content? := fun name =>
    if name = "default.json" then some default else if name = "test.json" then some test else none
  origin := id

/-- An object in a file sets its members. -/
theorem layer_of_json {d : ConfigDirectory} {name file text : String} {members : Members Json}
    (found : d.find? name = some (file, .json, text)) (unmarked : text.startsWith "\ufeff" = false)
    (parsed : Json.parse text = .ok (.object members)) :
    d.layer name = .ok (membersOfJson (d.origin file) members) := by
  simp only [layer, found, FileFormat.readFile, unmarked, Bool.false_eq_true, if_false,
    FileFormat.json, parsed]

def warningText : String :=
  "\x7b\"logging\":\x7b\"format\":\"json\",\"level\":\"warn\"\x7d,\"options\":\x7b\"high\":2,\"low\":1\x7d\x7d"

def debuggingText : String := "\x7b\"logging\":\x7b\"level\":\"debug\"\x7d\x7d"

def warning : Layer :=
  membersOfJson "default.json" [("logging", .object [("format", .string "json"),
    ("level", .string "warn")]), ("options", .object [("high", .int 2), ("low", .int 1)])]

def debugging : Layer :=
  membersOfJson "test.json" [("logging", .object [("level", .string "debug")])]

theorem layer_warning : (twoFiles warningText debuggingText).layer "default" = .ok warning := by
  refine layer_of_json rfl (by simp [warningText, String.startsWith_string_eq_false_iff]) ?_
  unfold Json.parse
  delta Json.Cursor.value
  rfl

theorem layer_debugging : (twoFiles warningText debuggingText).layer "test" = .ok debugging := by
  refine layer_of_json rfl (by simp [debuggingText, String.startsWith_string_eq_false_iff]) ?_
  unfold Json.parse
  delta Json.Cursor.value
  rfl

def twoVariables : Environment :=
  [("HOSTKIT__EXECUTOR__POLICY", "highest_priority"), ("HOSTKIT__OPTIONS__LOW", "5")]

theorem ofKey_policy : Path.ofKey "executor.policy" = [.member "executor", .member "policy"] :=
  by decide +kernel

theorem ofKey_low : Path.ofKey "options.low" = [.member "options", .member "low"] :=
  by decide +kernel

theorem twoVariables_layer : twoVariables.layer =
    [("executor.policy", .leaf (.text "highest_priority") (some Environment.origin)),
      ("options.low", .leaf (.int 5) (some Environment.origin))] := rfl

theorem path?_policy : Environment.path? ("HOSTKIT__EXECUTOR__POLICY", "highest_priority") =
    some [.member "executor", .member "policy"] := congrArg some ofKey_policy

theorem path?_low : Environment.path? ("HOSTKIT__OPTIONS__LOW", "5") =
    some [.member "options", .member "low"] := congrArg some ofKey_low

theorem twoVariables_apart : twoVariables.Apart := by
  intro v member w member' outer inner leads leads' above
  simp only [twoVariables, List.mem_cons, List.not_mem_nil, or_false] at member member'
  rcases member with rfl | rfl <;> rcases member' with rfl | rfl <;>
    simp only [path?_policy, path?_low, Option.some.injEq] at leads leads' <;>
    subst leads leads'
  · rfl
  · simp at above
  · simp at above
  · rfl

theorem twoVariables_unindexed (names : List String) : twoVariables.Unindexed names := by
  intro w member front index rest leads
  have item : PathStep.item index ∈ front.map PathStep.member ++ .item index :: rest := by simp
  simp only [twoVariables, List.mem_cons, List.not_mem_nil, or_false] at member
  rcases member with rfl | rfl <;>
    simp only [path?_policy, path?_low, Option.some.injEq] at leads <;> rw [← leads] at item <;>
    simp at item

def debuggingConfig : Config :=
  { logging := { level := "debug", format := .json }, executor := { policy := .highestPriority },
    options := (Options.empty.insert "high" (.int 2)).insert "low" (.int 5) }

theorem load_debugging :
    (twoFiles warningText debuggingText).load "test" twoVariables = .ok debuggingConfig := by
  have files : Layer.stack [warning, debugging] =
      .table [("logging", .table [("format", .leaf (.text "json") (some "default.json")),
          ("level", .leaf (.text "debug") (some "test.json"))] none),
        ("options", .table [("high", .leaf (.int 2) (some "default.json")),
          ("low", .leaf (.int 1) (some "default.json"))] none)] none := rfl
  refine load_ok_iff.2 ⟨_, by simp only [merged, layer_warning, layer_debugging, files]; rfl, ?_⟩
  simp only [twoVariables_layer, Layer.onto, List.foldl_cons, List.foldl_nil, Layer.put,
    ofKey_policy, ofKey_low]
  rfl

/-- The level is the one of the test file, the policy and one option are those of the variables,
and the rest is as the default file has it or as it is by default. -/
theorem load_layered_of_debugging :
    (twoFiles warningText debuggingText).load "test" twoVariables = .ok debuggingConfig ∧
      debuggingConfig.Layered [warning, debugging, twoVariables.layer] ∧
      twoVariables.layer.alone.plain? ["options", "low"] =
        some (.leaf (.int 5) (some Environment.origin)) := by
  obtain ⟨layered, spoken⟩ := load_layered layer_warning layer_debugging load_debugging
    (by decide +kernel) twoVariables_apart
  refine ⟨load_debugging, layered, ?_⟩
  exact spoken ("HOSTKIT__OPTIONS__LOW", "5") (by simp [twoVariables]) ["options", "low"]
    (by simp) path?_low (twoVariables_unindexed _)

def enabledText : String := "\x7b\"plugins\":\x7b\"enabled\":[\"a\",\"c\"]\x7d\x7d"

def enabling : Layer :=
  membersOfJson "default.json" [("plugins", .object [("enabled",
    .array [.string "a", .string "c"])])]

def oneFile (default : String) : ConfigDirectory where
  name := "config"
  content? := fun name => if name = "default.json" then some default else none
  origin := id

def firstEnabled : Environment := [("HOSTKIT__PLUGINS__ENABLED[0]", "b")]

theorem layer_enabling : (oneFile enabledText).layer "default" = .ok enabling := by
  refine layer_of_json rfl (by simp [enabledText, String.startsWith_string_eq_false_iff]) ?_
  unfold Json.parse
  delta Json.Cursor.value
  rfl

theorem ofKey_firstEnabled :
    Path.ofKey "plugins.enabled[0]" = [.member "plugins", .member "enabled", .item 0] := by
  decide +kernel

theorem firstEnabled_layer : firstEnabled.layer =
    [("plugins.enabled[0]", .leaf (.text "b") (some Environment.origin))] := rfl

theorem load_firstEnabled : (oneFile enabledText).load "test" firstEnabled =
    .ok { plugins := { enabled := ["b", "c"] } } := by
  refine load_ok_iff.2 ⟨Layer.stack [enabling, []], ?_, ?_⟩
  · simp only [merged, layer_enabling]
    rfl
  · simp only [firstEnabled_layer, Layer.onto, List.foldl_cons, List.foldl_nil, Layer.put,
      ofKey_firstEnabled]
    rfl

/-- Where a variable names an item of a list, the list is neither the one that the environment sets
on its own nor the one of the file. -/
theorem enabled_of_two_sources :
    (oneFile enabledText).layer "default" = .ok enabling ∧
    (oneFile enabledText).layer "test" = .ok [] ∧
    (∀ layer ∈ [enabling, [], firstEnabled.layer], ∀ place ∈ Config.sections,
      ¬ layer.PutsValue [place]) ∧
    firstEnabled.Apart ∧
    ∃ config, (oneFile enabledText).load "test" firstEnabled = .ok config ∧
      Config.Field.enabled.take (Layer.topmost [enabling, [], firstEnabled.layer]
        (given? Config.Field.enabled.names)) = .ok ["b"] ∧
      Config.Field.enabled.take (Layer.topmost [enabling, []]
        (given? Config.Field.enabled.names)) = .ok ["a", "c"] ∧
      Config.Field.enabled.get config = ["b", "c"] := by
  refine ⟨layer_enabling, rfl, by decide +kernel, ?_, _, load_firstEnabled, ?_, rfl, rfl⟩
  · intro v member w member' outer inner leads leads' above
    rw [List.mem_singleton.1 member, List.mem_singleton.1 member']
  · have alone : Layer.alone firstEnabled.layer =
        .table [("plugins", .table [("enabled",
          .list [.leaf (.text "b") (some Environment.origin)] none)] none)] none := by
      simp only [Layer.alone, firstEnabled_layer, Layer.onto, List.foldl_cons, List.foldl_nil,
        Layer.put, ofKey_firstEnabled]
      rfl
    simp only [Layer.topmost, List.reverse_cons, List.reverse_nil, List.nil_append,
      List.cons_append, List.findSome?_cons, alone]
    rfl

end ConfigDirectory

end PluginHost
