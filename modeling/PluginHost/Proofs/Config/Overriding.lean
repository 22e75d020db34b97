import PluginHost.Proofs.Config.Fields
import PluginHost.Proofs.Config.Variables

/-!
Overriding keys of a configuration with variables. A variable that names a key puts its value in
place of what the files set there, and leaves every other key as it is. What can be set this way is
what some text stands for, and no text stands for a list.
-/

set_option autoImplicit false

namespace PluginHost

namespace Setting

theorem part?_withPart (s : Setting) (section_ key : String) (value : Setting) :
    (s.withPart section_ key value).part? [section_] =
      some (.table ((s.partAt section_).members.insert key value) none) := by
  show (Members.find? section_ (s.members.insert section_ _)).bind _ = _
  rw [Members.find?_insert, if_pos rfl]
  rfl

theorem part?_withPart_key (s : Setting) (section_ key : String) (value : Setting) :
    (s.withPart section_ key value).part? [section_, key] = some value := by
  show (Members.find? section_ (s.members.insert section_ _)).bind _ = _
  rw [Members.find?_insert, if_pos rfl]
  show (Members.find? key ((s.partAt section_).members.insert key value)).bind _ = _
  rw [Members.find?_insert, if_pos rfl]
  rfl

end Setting

namespace Config

/-- The same configuration except that a field has some value. -/
def Field.set : {α : Type} → Field α → α → Config → Config
  | _, .level, x, c => { c with logging := { c.logging with level := x } }
  | _, .format, x, c => { c with logging := { c.logging with format := x } }
  | _, .threadIds, x, c => { c with logging := { c.logging with threadIds := x } }
  | _, .pollBatch, x, c => { c with executor := { c.executor with pollBatch := x } }
  | _, .policy, x, c => { c with executor := { c.executor with policy := x } }
  | _, .extraQueues, x, c => { c with executor := { c.executor with extraQueues := x } }
  | _, .enabled, x, c => { c with plugins := { c.plugins with enabled := x } }

/-- A key: a field of a section, or an option. -/
inductive Key : Type → Type 1 where
  | field {α : Type} (f : Field α) : Key α
  | option (name : String) : Key Json

namespace Key

variable {α : Type}

def place : {α : Type} → Key α → String
  | _, .field f => f.place
  | _, .option _ => "options"

def name : {α : Type} → Key α → String
  | _, .field f => f.name
  | _, .option name => name

def codec : {α : Type} → Key α → Codec α
  | _, .field f => f.codec
  | _, .option _ => .any

def set : {α : Type} → Key α → α → Config → Config
  | _, .field f, x, c => f.set x c
  | _, .option name, x, c => { c with options := c.options.insert name x }

/-- A key that names of variables can spell, which are read in lower case, split at every two
underscores, and made of few characters. Every field of a section is one. -/
def Nameable (key : Key α) : Prop := Path.IsName key.name ∧ Environment.Unsplit key.name

/-- A value that some text stands for. -/
def Spelled (key : Key α) (value : α) : Prop :=
  ∃ text, Setting.read key.codec (.leaf (.ofText text) (some Environment.origin)) = .ok value

/-- An integer that a text of digits stands for. -/
def Whole (n : Int) : Prop := Number.minInt ≤ n ∧ n ≤ Number.maxInt

/-- Values that do not depend on how a text is taken: every format, policy and truth value, counts
of 63 bits, and for levels and options truth values, integers of 64 bits and texts that look like
neither these nor like floats. -/
def Ordinary : {α : Type} → Key α → α → Prop
  | _, .field .level, text => (∃ b : Bool, text = toString b) ∨
      (∃ n, Whole n ∧ text = toString n) ∨ Leaf.ofText text = .text text
  | _, .field .format, _ | _, .field .threadIds, _ | _, .field .policy, _ => True
  | _, .field .pollBatch, count | _, .field .extraQueues, count => Whole count
  | _, .field .enabled, _ => False
  | _, .option _, value => (∃ b, value = .bool b) ∨ (∃ n, Whole n ∧ value = .int n) ∨
      ∃ text, Leaf.ofText text = .text text ∧ value = .string text

theorem nameable_field (f : Field α) : (Key.field f).Nameable := by
  cases f <;> exact ⟨by decide +kernel, by decide +kernel⟩

theorem place_isName (key : Key α) : Path.IsName key.place := by
  cases key with
  | field f => cases f <;> decide
  | option => exact (by decide : Path.IsName "options")

theorem place_noBar (key : Key α) : '_' ∉ key.place.toList := by
  cases key with
  | field f => cases f <;> decide
  | option => exact (by decide : '_' ∉ "options".toList)

theorem set_inj (key : Key α) {x y : α} {config : Config}
    (same : key.set x config = key.set y config) : x = y := by
  cases key with
  | field f =>
    have got := congrArg f.get same
    cases f <;> exact got
  | option name =>
    have found := congrArg (fun c : Config => c.options.value? name) same
    simpa [set] using found

/-- The value at a key is read for that key, and nothing else of the configuration changes. -/
theorem read_withPart (key : Key α) {files : Setting} (merged : Layer.Merged files)
    {config : Config} (accepted : Setting.read Config.codec files = .ok config)
    (notList : ∀ items origin, files.members.find? key.place ≠ some (.list items origin))
    {value : Setting} {x : α} (reads : Setting.read key.codec value = .ok x) :
    Setting.read Config.codec (files.withPart key.place key.name value) =
      .ok (key.set x config) := by
  obtain ⟨tidy, members, written⟩ := merged
  have opened : files.members = members := by rw [written]; rfl
  rw [written, ← opened] at accepted
  obtain ⟨logging, executor, plugins, options⟩ := read_table.1 accepted
  rw [Setting.withPart, read_table]
  cases key with
  | field f =>
    cases f with
    | level | format | threadIds =>
      obtain ⟨level, format, threadIds⟩ :=
        LoggingConfig.read_table.1 (LoggingConfig.read_partAt (s := files) logging notList)
      simp only [codec, Field.codec] at reads
      simp [Setting.field_insert, LoggingConfig.read_table, place, name, set, Field.place,
        Field.name, Field.set, reads, level, format, threadIds, executor, plugins, options]
    | pollBatch | policy | extraQueues =>
      obtain ⟨pollBatch, policy, extraQueues⟩ :=
        ExecutorConfig.read_table.1 (ExecutorConfig.read_partAt (s := files) executor notList)
      simp only [codec, Field.codec] at reads
      simp [Setting.field_insert, ExecutorConfig.read_table, place, name, set, Field.place,
        Field.name, Field.set, reads, pollBatch, policy, extraQueues, logging, plugins, options]
    | enabled =>
      simp only [codec, Field.codec] at reads
      simp [Setting.field_insert, PluginsConfig.read_table, place, name, set, Field.place,
        Field.name, Field.set, reads, logging, executor, options]
  | option name =>
    have entry := Options.read_insert tidy options name value
    cases reads
    simp [Setting.field_insert, place, set, Key.name, entry, logging, executor, plugins]

/-- Nothing is read where the value at a key is not what the key takes. -/
theorem reads_of_withPart (key : Key α) {files value : Setting} {after : Config}
    (read : Setting.read Config.codec (files.withPart key.place key.name value) = .ok after) :
    ∃ x, Setting.read key.codec value = .ok x := by
  cases key with
  | field f =>
    have table : (files.withPart f.place f.name value).plain? [f.place] = none := by
      rw [Setting.plain?, files.part?_withPart]
      rfl
    have taken := f.take_part? (s := files.withPart f.place f.name value) ⟨_, rfl⟩ read table
    rw [Field.names, files.part?_withPart_key] at taken
    exact ⟨_, taken⟩
  | option => exact ⟨_, rfl⟩

/-- A configuration read with a value at a key is the one without it, that value put at the key. -/
theorem read_withPart_iff (key : Key α) {files : Setting} (merged : Layer.Merged files)
    {config : Config} (accepted : Setting.read Config.codec files = .ok config)
    (notList : ∀ items origin, files.members.find? key.place ≠ some (.list items origin))
    {value : Setting} {after : Config} :
    Setting.read Config.codec (files.withPart key.place key.name value) = .ok after ↔
      ∃ x, Setting.read key.codec value = .ok x ∧ after = key.set x config := by
  constructor
  · intro read
    obtain ⟨x, reads⟩ := key.reads_of_withPart read
    rw [key.read_withPart merged accepted notList reads] at read
    injection read with same
    exact ⟨x, reads, same.symm⟩
  · rintro ⟨x, reads, rfl⟩
    exact key.read_withPart merged accepted notList reads

theorem spelled_of_reads {key : Key α} {value : α} (text : String) {leaf : Leaf}
    (stands : Leaf.ofText text = leaf)
    (reads : Setting.read key.codec (.leaf leaf (some Environment.origin)) = .ok value) :
    key.Spelled value :=
  ⟨text, by rw [stands, reads]⟩

theorem read_count {n : Nat} (whole : Whole n) (origin : Option String) :
    Setting.read .count (.leaf (.int n) origin) = .ok n := by
  have fits : (0 : Int) ≤ n ∧ (n : Int) ≤ Number.maxWord := by
    have most := whole.2
    simp only [Number.maxInt] at most
    simp only [Number.maxWord]
    omega
  simp [Codec.count, Setting.read, Setting.readInteger, Setting.here, fits, Except.map]

theorem Ordinary.spelled {key : Key α} {value : α} (ordinary : key.Ordinary value) :
    key.Spelled value := by
  cases key with
  | field f =>
    cases f with
    | level =>
      rcases ordinary with ⟨b, rfl⟩ | ⟨n, whole, rfl⟩ | plain
      · exact spelled_of_reads (toString b) (Leaf.ofText_bool b) rfl
      · exact spelled_of_reads (toString n) (Leaf.ofText_toString whole.1 whole.2) rfl
      · exact spelled_of_reads value plain rfl
    | format => exact ⟨value.name, by cases value <;> rfl⟩
    | threadIds => exact spelled_of_reads (toString value) (Leaf.ofText_bool value) rfl
    | policy => exact ⟨value.name, by cases value <;> rfl⟩
    | pollBatch | extraQueues =>
      have whole : Whole value := ordinary
      exact spelled_of_reads (toString (value : Int)) (Leaf.ofText_toString whole.1 whole.2)
        (read_count whole _)
    | enabled => exact ordinary.elim
  | option name =>
    rcases ordinary with ⟨b, rfl⟩ | ⟨n, whole, rfl⟩ | ⟨text, plain, rfl⟩
    · exact spelled_of_reads (toString b) (Leaf.ofText_bool b) rfl
    · exact spelled_of_reads (toString n) (Leaf.ofText_toString whole.1 whole.2) rfl
    · exact spelled_of_reads text plain rfl

/-- No text stands for a list: it is read as one value. -/
theorem not_spelled_enabled (choice : List String) : ¬ (Key.field .enabled).Spelled choice := by
  rintro ⟨text, reads⟩
  cases reads

end Key

end Config

namespace ConfigDirectory

variable {d : ConfigDirectory} {deployment : String} {env : Environment} {config : Config}

/-- No file puts a list in the place of a section, or another file puts a table there. -/
def Sectioned (d : ConfigDirectory) (deployment place : String) : Prop :=
  ∀ files, d.merged deployment = .ok files →
    ∀ items origin, files.members.find? place ≠ some (.list items origin)

/-- A variable sets its key to what its text is read as, and nothing else comes of it. -/
theorem load_append_iff (quiet : env.Quiet) (accepted : d.load deployment env = .ok config)
    {α : Type} (key : Config.Key α) (nameable : key.Nameable)
    (sectioned : d.Sectioned deployment key.place) {name : String}
    (names : Environment.Names name key.place key.name) {text : String} {after : Config} :
    d.load deployment (env ++ [(name, text)]) = .ok after ↔
      ∃ value, Setting.read key.codec (.leaf (.ofText text) (some Environment.origin)) =
        .ok value ∧ after = key.set value config := by
  obtain ⟨files, read, accepted⟩ := load_ok_iff.1 accepted
  rw [Environment.layer_of_quiet quiet] at accepted
  have laid := Environment.layer_append_onto quiet names key.place_isName key.place_noBar
    nameable.1 nameable.2 text files
  have placed {value} : Setting.read Config.codec (files.withPart key.place key.name value) =
      .ok after ↔ _ :=
    key.read_withPart_iff (merged_of_ok read) accepted (sectioned files read)
  rw [← placed, ← laid, load_ok_iff]
  constructor
  · rintro ⟨others, again, loaded⟩
    rw [read] at again
    cases again
    exact loaded
  · exact fun loaded => ⟨files, read, loaded⟩

/-- A key can be set by a variable to whatever a text stands for, which leaves every other key as it
is, and to nothing else: the list of enabled plugins cannot be set at all. -/
theorem load_overridden (quiet : env.Quiet) (accepted : d.load deployment env = .ok config)
    {α : Type} (key : Config.Key α) (nameable : key.Nameable)
    (sectioned : d.Sectioned deployment key.place) {name : String}
    (names : Environment.Names name key.place key.name) :
    (∀ value, key.Ordinary value → key.Spelled value) ∧
      (∀ value, (∃ text, d.load deployment (env ++ [(name, text)]) = .ok (key.set value config)) ↔
        key.Spelled value) ∧
      (∀ text after, d.load deployment (env ++ [(name, text)]) = .ok after →
        ∃ value, key.Spelled value ∧ after = key.set value config) ∧
      ∀ choice, ¬ (Config.Key.field .enabled).Spelled choice := by
  have read {text after} : d.load deployment (env ++ [(name, text)]) = .ok after ↔ _ :=
    load_append_iff quiet accepted key nameable sectioned names
  refine ⟨fun value ordinary => ordinary.spelled, fun value => ?_, fun text after loaded => ?_,
    Config.Key.not_spelled_enabled⟩
  · constructor
    · rintro ⟨text, loaded⟩
      obtain ⟨other, reads, same⟩ := read.1 loaded
      exact ⟨text, by rw [reads, key.set_inj same]⟩
    · rintro ⟨text, reads⟩
      exact ⟨text, read.2 ⟨value, reads, rfl⟩⟩
  · obtain ⟨value, reads, same⟩ := read.1 loaded
    exact ⟨value, ⟨text, reads⟩, same⟩

theorem renderPlain_ne_upper (x : Float) : Number.renderPlain x ≠ "TRUE" := by
  unfold Number.renderPlain
  split
  · decide
  · split <;> decide
  · split <;> decide
  next negative m _ =>
    intro same
    have letter : 'T' ∈ "TRUE".toList := by decide
    have written : 'T' ∈ ((Number.shortest m).plain false).toList := by
      rw [← same] at letter
      cases negative with
      | false => exact letter
      | true => simpa using letter
    exact absurd (Number.digit_or_point written) (by decide)

def bare : ConfigDirectory where
  name := "config"
  content? := fun _ => none
  origin := id

def positionalText : String :=
  "\x7b\"logging\":[\"info\",\"json\"],\"options\":\x7b\"limit\":1\x7d\x7d"

/-- A directory with one file, which gives the logging section as a list. -/
def positional : ConfigDirectory where
  name := "config"
  content? := fun name => if name = "default.json" then some positionalText else none
  origin := id

theorem positional_default : positional.layer "default" =
    .ok [("logging", .list [.leaf (.text "info") (some "default.json"),
        .leaf (.text "json") (some "default.json")] (some "default.json")),
      ("options", .table [("limit", .leaf (.int 1) (some "default.json"))]
        (some "default.json"))] := by
  have found : positional.find? "default" = some ("default.json", .json, positionalText) := rfl
  have unmarked : positionalText.startsWith "\ufeff" = false := by
    simp [positionalText, String.startsWith_string_eq_false_iff]
  have parsed : Json.parse positionalText = .ok (.object
      [("logging", .array [.string "info", .string "json"]),
        ("options", .object [("limit", .int 1)])]) := by
    unfold Json.parse
    delta Json.Cursor.value
    rfl
  simp only [layer, found, FileFormat.readFile, unmarked, Bool.false_eq_true, if_false,
    FileFormat.json, parsed]
  rfl

theorem positional_merged : positional.merged "test" =
    .ok (.table [("logging", .list [.leaf (.text "info") (some "default.json"),
        .leaf (.text "json") (some "default.json")] (some "default.json")),
      ("options", .table [("limit", .leaf (.int 1) (some "default.json"))] none)] none) := by
  have none_ : positional.layer "test" = .ok [] := rfl
  simp only [merged, positional_default, none_]
  rfl

def positionalConfig : Config :=
  { logging := { format := .json }, options := Options.empty.insert "limit" (.int 1) }

theorem positional_load : positional.load "test" [] = .ok positionalConfig :=
  load_ok_iff.2 ⟨_, positional_merged, rfl⟩

theorem positional_sectioned : positional.Sectioned "test" "options" := by
  intro files read items origin
  rw [positional_merged] at read
  cases read
  simp [Setting.members, Members.find?]

/-- The option is overridden from the file's value, by a variable in upper case. -/
theorem load_overridden_of_limit :
    ∃ text, positional.load "test" ([("HOME", "/")] ++ [("HOSTKIT__OPTIONS__LIMIT", text)]) =
      .ok ((Config.Key.option "limit").set (.int 3) positionalConfig) := by
  have quiet : Environment.Quiet [("HOME", "/")] := by
    intro v member
    rw [List.mem_singleton.1 member]
    rfl
  have accepted : positional.load "test" [("HOME", "/")] = .ok positionalConfig :=
    load_ok_iff.2 ⟨_, positional_merged, rfl⟩
  have names : Environment.Names "HOSTKIT__OPTIONS__LIMIT" "options" "limit" := rfl
  obtain ⟨spelled, overridden⟩ := load_overridden quiet accepted (.option "limit")
    ⟨by decide, by decide⟩ positional_sectioned names
  exact (overridden.1 (.int 3)).2 (spelled _ (.inr (.inl ⟨3, ⟨by decide, by decide⟩, rfl⟩)))

theorem toJson_ne_array (leaf : Leaf) (items : List Json) : leaf.toJson ≠ .array items := by
  cases leaf with
  | float x =>
    intro same
    rw [Leaf.toJson] at same
    split at same <;> simp at same
  | nothing | bool | int | text => simp [Leaf.toJson]

theorem bare_sectioned (place : String) : bare.Sectioned "test" place := by
  intro files read items origin
  cases read
  exact nofun

theorem bare_append {α : Type} (key : Config.Key α) (nameable : key.Nameable) {name : String}
    (names : Environment.Names name key.place key.name) {text : String} {after : Config} :
    bare.load "test" [(name, text)] = .ok after ↔
      ∃ value, Setting.read key.codec (.leaf (.ofText text) (some Environment.origin)) =
        .ok value ∧ after = key.set value {} := by
  have quiet : Environment.Quiet [] := nofun
  have accepted : bare.load "test" [] = .ok {} := rfl
  exact load_append_iff quiet accepted key nameable (bare_sectioned _) names

/-- A level in capitals is out of reach: its text becomes a truth value. -/
theorem not_spelled_upper : ¬ (Config.Key.field .level).Spelled "TRUE" := by
  rintro ⟨text, reads⟩
  rcases Leaf.ofText_cases text with ⟨b, same⟩ | ⟨n, same⟩ | ⟨x, same⟩ | ⟨same, notTrue⟩ <;>
    rw [same] at reads <;> injection reads with level
  · cases b <;> exact absurd level (by decide)
  · exact Leaf.toString_ne_word n (c := 'T') (by decide) (by decide) level
  · exact renderPlain_ne_upper x level
  · subst level
    exact notTrue rfl

/-- Where the files give a section as a list, a variable for one of its fields drops the others. -/
theorem positional_format {text : String} {config : Config}
    (loaded : positional.load "test" [("HOSTKIT__LOGGING__LEVEL", text)] = .ok config) :
    config.logging.format = .pretty := by
  obtain ⟨files, merged, read⟩ := load_ok_iff.1 loaded
  rw [positional_merged] at merged
  cases merged
  have names : Environment.Names "HOSTKIT__LOGGING__LEVEL" "logging" "level" := rfl
  have quiet : Environment.Quiet [] := nofun
  have laid := Environment.layer_append_onto quiet names (by decide) (by decide) (by decide)
    (by decide) text
  rw [List.nil_append] at laid
  rw [laid, Setting.withPart, Config.read_table] at read
  have logging := read.1
  simp only [Setting.field_insert, if_true, Setting.atStep_eq_ok,
    LoggingConfig.read_table] at logging
  have format := logging.2.1
  simp [Setting.partAt, Setting.members, Members.find?, Setting.field] at format
  exact format.symm

/-- Not every key can be overridden with every value: no text stands for a list, so a variable for
the enabled plugins loads nothing, a text for a truth value in capitals is no text anymore, names are
read in lower case, and a section that is given as a list is replaced as a whole. -/
theorem not_every_value_loads :
    (bare.load "test" [] = .ok {} ∧
      (∀ text config, bare.load "test" [("HOSTKIT__PLUGINS__ENABLED", text)] ≠ .ok config) ∧
      (∀ text, bare.load "test" [("HOSTKIT__LOGGING__LEVEL", text)] ≠
        .ok ((Config.Key.field .level).set "TRUE" {})) ∧
      (∀ name text, Text.lowered name = "hostkit__options__limit" →
        bare.load "test" [(name, text)] ≠ .ok ((Config.Key.option "Limit").set (.int 3) {})) ∧
      ∀ text, bare.load "test" [("HOSTKIT__OPTIONS__LIMIT", text)] ≠
        .ok ((Config.Key.option "limit").set (.array []) {})) ∧
    positional.load "test" [] = .ok positionalConfig ∧
      ∀ text, positional.load "test" [("HOSTKIT__LOGGING__LEVEL", text)] ≠
        .ok ((Config.Key.field .level).set "debug" positionalConfig) := by
  have limit {name text after} (names : Environment.Names name "options" "limit")
      (loaded : bare.load "test" [(name, text)] = .ok after) :
      after = (Config.Key.option "limit").set (Leaf.ofText text).toJson {} := by
    obtain ⟨value, reads, same⟩ :=
      (bare_append (.option "limit") ⟨by decide, by decide⟩ names).1 loaded
    cases reads
    exact same
  refine ⟨⟨rfl, fun text config loaded => ?_, fun text loaded => ?_,
    fun name text names loaded => ?_, fun text loaded => ?_⟩, positional_load, fun text loaded => ?_⟩
  · have names : Environment.Names "HOSTKIT__PLUGINS__ENABLED" "plugins" "enabled" := rfl
    obtain ⟨choice, reads, -⟩ :=
      (bare_append (.field .enabled) (Config.Key.nameable_field _) names).1 loaded
    exact Config.Key.not_spelled_enabled choice ⟨text, reads⟩
  · have names : Environment.Names "HOSTKIT__LOGGING__LEVEL" "logging" "level" := rfl
    obtain ⟨level, reads, same⟩ :=
      (bare_append (.field .level) (Config.Key.nameable_field _) names).1 loaded
    cases Config.Key.set_inj _ same
    exact not_spelled_upper ⟨text, reads⟩
  · have found := congrArg (fun c : Config => c.options.value? "Limit") (limit names loaded)
    have absent : Options.empty.value? "Limit" = none := rfl
    simp [Config.Key.set, absent] at found
  · have names : Environment.Names "HOSTKIT__OPTIONS__LIMIT" "options" "limit" := rfl
    exact toJson_ne_array _ _ (Config.Key.set_inj _ (limit names loaded)).symm
  · have format := positional_format loaded
    cases format

end ConfigDirectory

end PluginHost
