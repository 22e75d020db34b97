import Mathlib.Data.List.TakeWhile
import PluginHost.Config.Overrides
import PluginHost.Proofs.Config.Overriding

set_option autoImplicit false

namespace PluginHost

namespace Text

/-- No blank at the beginning and none at the end. -/
def Solid (t : String) : Prop :=
  (∀ c ∈ t.toList.head?, isBlank c = false) ∧ ∀ c ∈ t.toList.getLast?, isBlank c = false

/-- One text is another one with nothing but blanks around it. -/
def Surrounds (s t : String) : Prop :=
  ∃ left right : List Char, (∀ c ∈ left, isBlank c = true) ∧ (∀ c ∈ right, isBlank c = true) ∧
    s.toList = left ++ t.toList ++ right

theorem dropBlanks_of_solid {chars : List Char} (solid : ∀ c ∈ chars.head?, isBlank c = false) :
    dropBlanks chars = chars := by
  cases chars with
  | nil => rfl
  | cons c rest => exact List.dropWhile_cons_of_neg (by simp [solid c rfl])

theorem dropBlanks_append {left : List Char} (blank : ∀ c ∈ left, isBlank c = true)
    (rest : List Char) : dropBlanks (left ++ rest) = dropBlanks rest :=
  List.dropWhile_append_of_pos blank

theorem head?_dropBlanks (chars : List Char) : ∀ c ∈ (dropBlanks chars).head?, isBlank c = false := by
  intro c first
  have stops := List.head?_dropWhile_not isBlank chars
  rw [dropBlanks] at first
  rw [Option.mem_def.1 first] at stops
  simpa using stops

theorem exists_dropBlanks (chars : List Char) :
    ∃ left, (∀ c ∈ left, isBlank c = true) ∧ chars = left ++ dropBlanks chars :=
  ⟨chars.takeWhile isBlank, fun _ member => List.all_eq_true.1 List.all_takeWhile _ member,
    List.takeWhile_append_dropWhile.symm⟩

/-- Trimming takes away blanks at both ends, and all of them. -/
theorem trim_eq_iff {s t : String} : trim s = t ↔ Surrounds s t ∧ Solid t := by
  constructor
  · rintro rfl
    obtain ⟨left, blankLeft, front⟩ := exists_dropBlanks s.toList
    obtain ⟨right, blankRight, back⟩ := exists_dropBlanks (dropBlanks s.toList).reverse
    have middle : dropBlanks s.toList =
        (dropBlanks (dropBlanks s.toList).reverse).reverse ++ right.reverse := by
      rw [← List.reverse_append, ← back, List.reverse_reverse]
    refine ⟨⟨left, right.reverse, blankLeft, fun c member => ?_, ?_⟩, fun c first => ?_,
      fun c last => ?_⟩
    · exact blankRight c (List.mem_reverse.1 member)
    · rw [trim, String.toList_ofList, List.append_assoc, ← middle]
      exact front
    · rw [trim, String.toList_ofList] at first
      refine head?_dropBlanks s.toList c ?_
      rw [middle, List.head?_append, Option.mem_def.1 first]
      rfl
    · rw [trim, String.toList_ofList, List.getLast?_reverse] at last
      exact head?_dropBlanks _ c last
  · rintro ⟨⟨left, right, blankLeft, blankRight, parts⟩, first, last⟩
    rw [trim, parts, List.append_assoc, dropBlanks_append blankLeft]
    by_cases empty : t.toList = []
    · rw [empty, List.nil_append, dropBlanks.eq_def right, List.dropWhile_eq_nil_iff.2 blankRight]
      exact (String.toList_eq_nil_iff.1 empty).symm
    · have starts : dropBlanks (t.toList ++ right) = t.toList ++ right := by
        refine dropBlanks_of_solid fun c here => first c ?_
        obtain ⟨d, rest, written⟩ := List.exists_cons_of_ne_nil empty
        rw [written] at here ⊢
        exact here
      have blank : ∀ c ∈ right.reverse, isBlank c = true := fun c member =>
        blankRight c (List.mem_reverse.1 member)
      have ends : dropBlanks t.toList.reverse = t.toList.reverse :=
        dropBlanks_of_solid (by rwa [List.head?_reverse])
      rw [starts, List.reverse_append, dropBlanks_append blank, ends, List.reverse_reverse,
        String.ofList_toList]

theorem splitAtFirst_of_parts {c : Char} {s before after : String} (clear : c ∉ before.toList)
    (parts : s.toList = before.toList ++ c :: after.toList) :
    splitAtFirst c s = some (before, after) := by
  have others : ∀ d ∈ before.toList, decide (d ≠ c) = true := fun d member =>
    decide_eq_true fun same => clear (same ▸ member)
  rw [splitAtFirst, parts, List.dropWhile_append_of_pos others,
    List.dropWhile_cons_of_neg (by simp), List.takeWhile_append_of_pos others,
    List.takeWhile_cons_of_neg (by simp), List.append_nil]
  simp only [String.ofList_toList]

theorem splitAtFirst_of_not_mem {c : Char} {s : String} (absent : c ∉ s.toList) :
    splitAtFirst c s = none := by
  have others : ∀ d ∈ s.toList, decide (d ≠ c) = true := fun d member =>
    decide_eq_true fun same => absent (same ▸ member)
  rw [splitAtFirst, List.dropWhile_eq_nil_iff.2 others]

end Text

/-- A text gives a name a value: the name stands before the first equals sign, perhaps among
blanks, and the text of the value is all that stands behind the sign. -/
def Assigns (text name value : String) : Prop :=
  ∃ before : String, '=' ∉ before.toList ∧ text.toList = before.toList ++ '=' :: value.toList ∧
    Text.Surrounds before name ∧ Text.Solid name

/-- A text with an equals sign gives one name one value. -/
theorem exists_assigns {text : String} (sign : '=' ∈ text.toList) :
    ∃ name value, Assigns text name value := by
  obtain ⟨before, value, parts, clear⟩ := List.eq_append_cons_of_mem sign
  exact ⟨_, String.ofList value, String.ofList before, by rwa [String.toList_ofList],
    by rwa [String.toList_ofList, String.toList_ofList], Text.trim_eq_iff.1 rfl⟩

theorem Assigns.unique {text name other value content : String} (assigns : Assigns text name value)
    (also : Assigns text other content) : name = other ∧ value = content := by
  obtain ⟨before, clear, parts, trims⟩ := assigns
  obtain ⟨before', clear', parts', trims'⟩ := also
  have same := Text.splitAtFirst_of_parts clear parts
  rw [Text.splitAtFirst_of_parts clear' parts'] at same
  cases same
  exact ⟨(Text.trim_eq_iff.2 trims).symm.trans (Text.trim_eq_iff.2 trims'), rfl⟩

theorem Assigns.sign {text name value : String} (assigns : Assigns text name value) :
    '=' ∈ text.toList := by
  obtain ⟨before, -, parts, -⟩ := assigns
  rw [parts]
  exact List.mem_append_right _ List.mem_cons_self

/-- The last one of some texts that is for a name gives it a value. -/
def LastAssigns (texts : List String) (name value : String) : Prop :=
  ∃ earlier text later, texts = earlier ++ text :: later ∧ Assigns text name value ∧
    ∀ t ∈ later, ∀ other, ¬ Assigns t name other

namespace Config

theorem setOption_of_assigns {text name value : String} (assigns : Assigns text name value)
    (config : Config) : config.setOption text =
      .ok { config with options := config.options.insert name (optionValue value) } := by
  obtain ⟨before, clear, parts, trims⟩ := assigns
  rw [setOption, Text.splitAtFirst_of_parts clear parts]
  simp only [Text.trim_eq_iff.2 trims]

theorem setOption_of_no_sign {text : String} (absent : '=' ∉ text.toList) (config : Config) :
    config.setOption text = .error (.malformedOverride text) := by
  rw [setOption, Text.splitAtFirst_of_not_mem absent]

/-- What texts make of the options of a configuration: of the texts for a name the last one counts,
and a name that no text is for keeps its value. -/
structure Sets (texts : List String) (before after : Options) : Prop where
  last : ∀ name value, LastAssigns texts name value →
    after.value? name = some (optionValue value)
  kept : ∀ name, (∀ t ∈ texts, ∀ value, ¬ Assigns t name value) →
    after.value? name = before.value? name

theorem Sets.nil (o : Options) : Sets [] o o where
  last := by simp [LastAssigns]
  kept _ _ := rfl

/-- The first text counts as long as no later one is for the same name. -/
theorem Sets.cons {text name value : String} {texts : List String} {before after : Options}
    (assigns : Assigns text name value)
    (sets : Sets texts (before.insert name (optionValue value)) after) :
    Sets (text :: texts) before after where
  last other content lastly := by
    obtain ⟨earlier, found, later, parts, names, fresh⟩ := lastly
    cases earlier with
    | nil =>
      obtain ⟨rfl, rfl⟩ := List.cons.inj parts
      obtain ⟨rfl, rfl⟩ := assigns.unique names
      rw [sets.kept name fresh, Options.value?_insert, if_pos rfl]
    | cons first earlier =>
      obtain ⟨-, parts⟩ := List.cons.inj parts
      exact sets.last other content ⟨earlier, found, later, parts, names, fresh⟩
  kept other unnamed := by
    have different : name ≠ other := by
      rintro rfl
      exact unnamed text List.mem_cons_self value assigns
    have later : ∀ t ∈ texts, ∀ content, ¬ Assigns t other content := fun t member =>
      unnamed t (List.mem_cons_of_mem _ member)
    rw [sets.kept other later, Options.value?_insert, if_neg different]

/-- Texts with equals signs are all taken, and nothing but options changes. -/
theorem setOptions_sets {texts : List String} (signs : ∀ t ∈ texts, '=' ∈ t.toList)
    (config : Config) :
    ∃ options, config.setOptions texts = .ok { config with options := options } ∧
      Sets texts config.options options := by
  induction texts generalizing config with
  | nil => exact ⟨config.options, rfl, .nil _⟩
  | cons text rest ih =>
    obtain ⟨name, value, assigns⟩ := exists_assigns (signs text List.mem_cons_self)
    obtain ⟨options, set, sets⟩ := ih (fun t member => signs t (List.mem_cons_of_mem _ member))
      { config with options := config.options.insert name (optionValue value) }
    refine ⟨options, ?_, sets.cons assigns⟩
    rw [setOptions, setOption_of_assigns assigns]
    exact set

/-- The first text without an equals sign ends the reading. -/
theorem setOptions_of_no_sign {earlier later : List String} {text : String}
    (signs : ∀ t ∈ earlier, '=' ∈ t.toList) (absent : '=' ∉ text.toList) (config : Config) :
    config.setOptions (earlier ++ text :: later) = .error (.malformedOverride text) := by
  induction earlier generalizing config with
  | nil => rw [List.nil_append, setOptions, setOption_of_no_sign absent]
  | cons first rest ih =>
    obtain ⟨name, value, assigns⟩ := exists_assigns (signs first List.mem_cons_self)
    rw [List.cons_append, setOptions, setOption_of_assigns assigns]
    exact ih (fun t member => signs t (List.mem_cons_of_mem _ member)) _

structure Overridden (arguments : Arguments) (config result : Config) : Prop where
  logging : result.logging = config.logging
  executor : result.executor = config.executor
  plugins : result.plugins.enabled =
    if arguments.plugins = [] then config.plugins.enabled else arguments.plugins
  json : ∀ name value json, LastAssigns arguments.options name value →
    Json.parse value = .ok json → result.options.value? name = some json
  text : ∀ name value fault, LastAssigns arguments.options name value →
    Json.parse value = .error fault → result.options.value? name = some (.string value)
  kept : ∀ name, (∀ t ∈ arguments.options, ∀ value, ¬ Assigns t name value) →
    result.options.value? name = config.options.value? name

theorem Sets.overridden {arguments : Arguments} {config : Config} {options : Options}
    (sets : Sets arguments.options config.options options) :
    Overridden arguments config
      { config.choosePlugins arguments.plugins with options := options } where
  logging := by
    rw [choosePlugins]
    split <;> rfl
  executor := by
    rw [choosePlugins]
    split <;> rfl
  plugins := by
    rw [choosePlugins]
    cases arguments.plugins <;> rfl
  json name value json lastly parsed := by
    simp only [sets.last name value lastly, optionValue, parsed]
  text name value fault lastly unread := by
    simp only [sets.last name value lastly, optionValue, unread]
  kept := sets.kept

end Config

namespace ConfigDirectory

/-- A configuration that loads is overridden if every text has an equals sign. -/
theorem loadFor_of_signs {d : ConfigDirectory} {arguments : Arguments} {env : Environment}
    {config : Config} (loaded : d.load arguments.deployment env = .ok config)
    (signs : ∀ t ∈ arguments.options, '=' ∈ t.toList) :
    ∃ result, d.loadFor arguments env = .ok result ∧ Config.Overridden arguments config result := by
  obtain ⟨options, set, sets⟩ := Config.setOptions_sets signs
    (config.choosePlugins arguments.plugins)
  have same : (config.choosePlugins arguments.plugins).options = config.options := by
    rw [Config.choosePlugins]
    split <;> rfl
  rw [same] at sets
  refine ⟨_, ?_, sets.overridden⟩
  rw [loadFor, loaded]
  exact set

/-- A configuration that loads fails to be overridden at the first text without an equals sign;
without such a text the command line overrides it. -/
theorem loadFor_overrides {d : ConfigDirectory} (arguments : Arguments) {env : Environment}
    {config : Config} (loaded : d.load arguments.deployment env = .ok config) :
    (∀ earlier text later, arguments.options = earlier ++ text :: later →
      (∀ t ∈ earlier, '=' ∈ t.toList) → '=' ∉ text.toList →
        d.loadFor arguments env = .error (.malformedOverride text)) ∧
    ((∀ t ∈ arguments.options, '=' ∈ t.toList) →
      ∃ result, d.loadFor arguments env = .ok result ∧ Config.Overridden arguments config result) := by
  refine ⟨fun earlier text later parts signs absent => ?_, loadFor_of_signs loaded⟩
  rw [loadFor, loaded]
  dsimp only
  rw [Config.override, parts]
  exact Config.setOptions_of_no_sign signs absent _

/-- A command line with two texts for one name; the later one holds another equals sign and is no
JSON. -/
def twiceLimited : Arguments where
  deployment := "test"
  plugins := ["MonitorPlugin"]
  options := ["limit=2", " limit\t=a=b", "extra=[true]"]

/-- The option is the last text, with its second sign; a text without a sign is reported. -/
theorem loadFor_overrides_of_limit :
    positional.load "test" [] = .ok positionalConfig ∧
      (∃ result, positional.loadFor twiceLimited [] = .ok result ∧
        result.options.value? "limit" = some (.string "a=b") ∧
        result.options.value? "extra" = some (.array [.bool true]) ∧
        result.plugins.enabled = ["MonitorPlugin"] ∧ result.logging = positionalConfig.logging) ∧
      positional.loadFor { twiceLimited with options := ["a=1", "limit", "extra"] } [] =
        .error (.malformedOverride "limit") := by
  have limit : Assigns " limit\t=a=b" "limit" "a=b" :=
    ⟨" limit\t", by decide, rfl, Text.trim_eq_iff.1 rfl⟩
  have extra : Assigns "extra=[true]" "extra" "[true]" :=
    ⟨"extra", by decide, rfl, Text.trim_eq_iff.1 rfl⟩
  have notJson : Json.parse "a=b" =
      .error ⟨.text .expectedValue, some ((Json.Cursor.ofString "a=b").placeAfter 1)⟩ := by
    unfold Json.parse
    delta Json.Cursor.value
    rfl
  have list : Json.parse "[true]" = .ok (.array [.bool true]) := by
    unfold Json.parse
    delta Json.Cursor.value
    rfl
  have lastLimit : LastAssigns twiceLimited.options "limit" "a=b" := by
    refine ⟨["limit=2"], _, ["extra=[true]"], rfl, limit, fun t member other assigns => ?_⟩
    rw [List.mem_singleton.1 member] at assigns
    exact absurd (extra.unique assigns).1 (by decide)
  have lastExtra : LastAssigns twiceLimited.options "extra" "[true]" :=
    ⟨["limit=2", " limit\t=a=b"], _, [], rfl, extra, by simp⟩
  refine ⟨positional_load, ?_, ?_⟩
  · obtain ⟨result, loaded, overridden⟩ :=
      (loadFor_overrides twiceLimited positional_load).2 (by decide)
    exact ⟨result, loaded, overridden.text _ _ _ lastLimit notJson,
      overridden.json _ _ _ lastExtra list, overridden.plugins, overridden.logging⟩
  · exact (loadFor_overrides { twiceLimited with options := ["a=1", "limit", "extra"] }
      positional_load).1 ["a=1"] "limit" ["extra"] rfl (by decide) (by decide)

end ConfigDirectory

end PluginHost
