import PluginHost.Proofs.Config.Layering

set_option autoImplicit false

namespace PluginHost

namespace Setting

/-- What a field of a record is read as: the member of its name, or else its default. -/
def field {α : Type} (codec : Codec α) (default : Option α) (name : String)
    (members : Members Setting) : Except SettingError α :=
  match Members.find? name members with
  | some value => atStep (.member name) (read codec value)
  | none =>
    match default with
    | some x => .ok x
    | none => here (.error (.refused (.missingField name)))

@[simp] theorem atStep_eq_ok {α : Type} {step : PathStep} {result : Except SettingError α} {x : α} :
    atStep step result = .ok x ↔ result = .ok x := by
  cases result with
  | error e => constructor <;> intro same <;> cases same
  | ok y => exact Iff.rfl

theorem readFields_cons_eq_ok {α β : Type} {name : String} {codec : Codec α} {default : Option α}
    {rest : Fields β} {members : Members Setting} {x : α} {xs : β} :
    readFields (.cons name codec default rest) members = .ok (x, xs) ↔
      field codec default name members = .ok x ∧ readFields rest members = .ok xs := by
  have opened : readFields (.cons name codec default rest) members =
      (field codec default name members).bind fun x =>
        (readFields rest members).map fun xs => (x, xs) := by
    rw [readFields.eq_def]
    unfold field
    dsimp only
    cases Members.find? name members with
    | some value =>
      dsimp only
      cases atStep (.member name) (read codec value) <;> rfl
    | none => cases default <;> rfl
  rw [opened]
  cases field codec default name members with
  | error e => simp [Except.bind]
  | ok y => cases readFields rest members <;> simp [Except.bind, Except.map]

theorem readFields_nil (members : Members Setting) : readFields .nil members = .ok () := rfl

theorem field_insert {α : Type} (codec : Codec α) (default : Option α) (name key : String)
    (value : Setting) (members : Members Setting) :
    field codec default name (members.insert key value) =
      if key = name then atStep (.member name) (read codec value)
      else field codec default name members := by
  unfold field
  rw [Members.find?_insert]
  by_cases same : key = name <;> simp [same]

theorem read_via_eq_ok {α β : Type} {codec : Codec α} {into : α → β} {of : β → α} {s : Setting}
    {y : β} : read (.via codec into of) s = .ok y ↔ ∃ x, read codec s = .ok x ∧ into x = y := by
  rw [read]
  cases read codec s <;> simp [Except.map]

/-- A section that is read as a table, whether it is there or made for a key of it. -/
theorem read_partAt {α β : Type} {record name : String} {fields : Fields α} {into : α → β}
    {of : β → α} {default value : β} {s : Setting}
    (present : field (.via (.record record fields) into of) (some default) name s.members =
      .ok value)
    (standard : read (.via (.record record fields) into of) emptyTable = .ok default)
    (notList : ∀ items origin, s.members.find? name ≠ some (.list items origin)) :
    read (.via (.record record fields) into of) (.table (s.partAt name).members none) =
      .ok value := by
  unfold field at present
  unfold partAt
  cases found : s.members.find? name with
  | none =>
    rw [found] at present
    cases present
    exact standard
  | some part =>
    rw [found] at present
    simp only [atStep_eq_ok] at present
    cases part with
    | leaf leaf origin => simp [read, here, misshapen, Except.map] at present
    | list items origin => exact absurd found (notList items origin)
    | table members origin => exact present

end Setting

open Setting

namespace LoggingConfig

theorem read_table {members : Members Setting} {origin : Option String} {c : LoggingConfig} :
    Setting.read codec (.table members origin) = .ok c ↔
      field .string (some "info") "level" members = .ok c.level ∧
      field LogFormat.codec (some .pretty) "format" members = .ok c.format ∧
      field .bool (some false) "thread_ids" members = .ok c.threadIds := by
  rw [codec, read_via_eq_ok]
  constructor
  · rintro ⟨⟨level, format, threadIds, ⟨⟩⟩, fields, rfl⟩
    simpa [Setting.read, readFields_cons_eq_ok, readFields_nil] using fields
  · rintro ⟨level, format, threadIds⟩
    refine ⟨(c.level, c.format, c.threadIds, ()), ?_, rfl⟩
    simp [Setting.read, readFields_cons_eq_ok, readFields_nil, level, format, threadIds]

theorem read_partAt {s : Setting} {c : LoggingConfig}
    (present : field codec (some {}) "logging" s.members = .ok c)
    (notList : ∀ items origin, s.members.find? "logging" ≠ some (.list items origin)) :
    Setting.read codec (.table (s.partAt "logging").members none) = .ok c :=
  Setting.read_partAt present rfl notList

end LoggingConfig

namespace ExecutorConfig

theorem read_table {members : Members Setting} {origin : Option String} {c : ExecutorConfig} :
    Setting.read codec (.table members origin) = .ok c ↔
      field .count (some 64) "poll_batch" members = .ok c.pollBatch ∧
      field PolicyChoice.codec (some .defaultQueue) "policy" members = .ok c.policy ∧
      field .count (some 0) "extra_queues" members = .ok c.extraQueues := by
  rw [codec, read_via_eq_ok]
  constructor
  · rintro ⟨⟨pollBatch, policy, extraQueues, ⟨⟩⟩, fields, rfl⟩
    simpa [Setting.read, readFields_cons_eq_ok, readFields_nil] using fields
  · rintro ⟨pollBatch, policy, extraQueues⟩
    refine ⟨(c.pollBatch, c.policy, c.extraQueues, ()), ?_, rfl⟩
    simp [Setting.read, readFields_cons_eq_ok, readFields_nil, pollBatch, policy, extraQueues]

theorem read_partAt {s : Setting} {c : ExecutorConfig}
    (present : field codec (some {}) "executor" s.members = .ok c)
    (notList : ∀ items origin, s.members.find? "executor" ≠ some (.list items origin)) :
    Setting.read codec (.table (s.partAt "executor").members none) = .ok c :=
  Setting.read_partAt present rfl notList

end ExecutorConfig

namespace PluginsConfig

theorem read_table {members : Members Setting} {origin : Option String} {c : PluginsConfig} :
    Setting.read codec (.table members origin) = .ok c ↔
      field (.list .string) (some []) "enabled" members = .ok c.enabled := by
  rw [codec, read_via_eq_ok]
  constructor
  · rintro ⟨⟨enabled, ⟨⟩⟩, fields, rfl⟩
    simpa [Setting.read, readFields_cons_eq_ok, readFields_nil] using fields
  · intro enabled
    refine ⟨(c.enabled, ()), ?_, rfl⟩
    simp [Setting.read, readFields_cons_eq_ok, readFields_nil, enabled]

end PluginsConfig

namespace Options

/-- Members that are taken as they are can all be read. -/
theorem readMembersAs_toJson (members : Members Setting) :
    readMembersAs (fun s => .ok s.toJson) members =
      .ok (members.map fun m => (m.1, m.2.toJson)) := by
  induction members with
  | nil => rfl
  | cons m rest ih =>
    simp only [readMembersAs, ih]
    rfl

theorem read_table (members : Members Setting) (origin : Option String) :
    Setting.read codec (.table members origin) =
      .ok (.ofMembers (members.map fun m => (m.1, m.2.toJson))) := by
  have opened : Setting.read codec (.table members origin) =
      (readMembersAs (fun s => .ok s.toJson) members).map ofMembers := rfl
  rw [opened, readMembersAs_toJson]
  rfl

/-- Options whose names are in order may have one put in before they are read or after. -/
theorem ofMembers_insert {members : Members Setting} (ascending : members.Ascending) (name : String)
    (value : Setting) :
    ofMembers ((members.insert name value).map fun m => (m.1, m.2.toJson)) =
      (ofMembers (members.map fun m => (m.1, m.2.toJson))).insert name value.toJson := by
  have keeps : ∀ {members : Members Setting}, members.Ascending →
      Members.Ascending (members.map fun m => (m.1, m.2.toJson)) :=
    fun ascending => List.pairwise_map.2 ascending
  apply Options.ext
  simp only [ofMembers, insert]
  rw [Members.ofList_of_ascending (keeps ascending),
    Members.ofList_of_ascending (keeps (Members.insert_ascending ascending)), Members.insert_map]

theorem read_insert {s : Setting} (tidy : s.Tidy) {o : Options}
    (present : field codec (some .empty) "options" s.members = .ok o) (name : String)
    (value : Setting) :
    Setting.read codec (.table ((s.partAt "options").members.insert name value) none) =
      .ok (o.insert name value.toJson) := by
  have standing : .ok (ofMembers ((s.partAt "options").members.map fun m => (m.1, m.2.toJson))) =
      (.ok o : Except SettingError Options) := by
    rw [← present, field, partAt]
    cases found : s.members.find? "options" with
    | none => rfl
    | some part =>
      rw [field, found] at present
      cases part with
      | leaf leaf origin => cases leaf <;> first | rfl | cases present
      | list items origin => cases present
      | table members origin =>
        simp only [read_table]
        rfl
  rw [read_table, ofMembers_insert (tidy.partAt "options").members_ascending]
  injection standing with same
  rw [same]

end Options

namespace Config

theorem read_table {members : Members Setting} {origin : Option String} {c : Config} :
    Setting.read codec (.table members origin) = .ok c ↔
      field LoggingConfig.codec (some {}) "logging" members = .ok c.logging ∧
      field ExecutorConfig.codec (some {}) "executor" members = .ok c.executor ∧
      field PluginsConfig.codec (some {}) "plugins" members = .ok c.plugins ∧
      field Options.codec (some .empty) "options" members = .ok c.options := by
  rw [codec, read_via_eq_ok]
  constructor
  · rintro ⟨⟨logging, executor, plugins, options, ⟨⟩⟩, fields, rfl⟩
    simpa [Setting.read, readFields_cons_eq_ok, readFields_nil] using fields
  · rintro ⟨logging, executor, plugins, options⟩
    refine ⟨(c.logging, c.executor, c.plugins, c.options, ()), ?_, rfl⟩
    simp [Setting.read, readFields_cons_eq_ok, readFields_nil, logging, executor, plugins, options]

end Config

end PluginHost
