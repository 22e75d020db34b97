import PluginHost.Proofs.Config.Sections
import PluginHost.Proofs.Config.Topmost

set_option autoImplicit false

namespace PluginHost

open Setting

namespace Config

/-- A field of a section. -/
inductive Field : Type → Type where
  | level : Field String
  | format : Field LogFormat
  | threadIds : Field Bool
  | pollBatch : Field Nat
  | policy : Field PolicyChoice
  | extraQueues : Field Nat
  | enabled : Field (List String)

namespace Field

variable {α : Type}

def place : {α : Type} → Field α → String
  | _, .level | _, .format | _, .threadIds => "logging"
  | _, .pollBatch | _, .policy | _, .extraQueues => "executor"
  | _, .enabled => "plugins"

def name : {α : Type} → Field α → String
  | _, .level => "level"
  | _, .format => "format"
  | _, .threadIds => "thread_ids"
  | _, .pollBatch => "poll_batch"
  | _, .policy => "policy"
  | _, .extraQueues => "extra_queues"
  | _, .enabled => "enabled"

def names (f : Field α) : List String := [f.place, f.name]

def codec : {α : Type} → Field α → Codec α
  | _, .level => .string
  | _, .format => LogFormat.codec
  | _, .threadIds => .bool
  | _, .pollBatch => .count
  | _, .policy => PolicyChoice.codec
  | _, .extraQueues => .count
  | _, .enabled => .list .string

def get : {α : Type} → Field α → Config → α
  | _, .level, c => c.logging.level
  | _, .format, c => c.logging.format
  | _, .threadIds, c => c.logging.threadIds
  | _, .pollBatch, c => c.executor.pollBatch
  | _, .policy, c => c.executor.policy
  | _, .extraQueues, c => c.executor.extraQueues
  | _, .enabled, c => c.plugins.enabled

def IsList : {α : Type} → Field α → Prop
  | _, .enabled => True
  | _, _ => False

/-- The value that a field takes from what is given for it: what this is read as, and if nothing is
given, what the field is in a configuration that sets nothing. -/
def take (f : Field α) : Option Setting → Except SettingError α
  | none => .ok (f.get {})
  | some given => Setting.read f.codec given

theorem names_ne_nil (f : Field α) : f.names ≠ [] := List.cons_ne_nil _ _

theorem take_of_field (f : Field α) {members : Members Setting} {x : α}
    (read : Setting.field f.codec (some (f.get {})) f.name members = .ok x) :
    f.take (members.find? f.name) = .ok x := by
  unfold Setting.field at read
  unfold take
  cases found : members.find? f.name with
  | none => rwa [found] at read
  | some value =>
    rw [found] at read
    exact atStep_eq_ok.1 read

/-- A field of a section that holds a table or is absent is read from the table, or it is what the
section has by default. -/
theorem take_section {β : Type} {codec : Codec β} {default c : β} {s : Setting} (f : Field α)
    (part : β → α) (standard : part default = f.get {})
    (parts : ∀ members origin, Setting.read codec (.table members origin) = .ok c →
      Setting.field f.codec (some (f.get {})) f.name members = .ok (part c))
    (table : s.plain? [f.place] = none)
    (read : Setting.field codec (some default) f.place s.members = .ok c) :
    f.take (s.part? f.names) = .ok (part c) := by
  unfold Setting.field at read
  rw [names, part?_cons]
  cases found : s.members.find? f.place with
  | none =>
    rw [found] at read
    cases read
    rw [Option.bind_none, standard]
    rfl
  | some inner =>
    rw [found] at read
    rw [plain?, part?_singleton, found] at table
    cases inner with
    | leaf | list => cases table
    | table members origin =>
      rw [Option.bind_some, part?_singleton]
      exact f.take_of_field (parts members origin (atStep_eq_ok.1 read))

/-- Every field is read from its own place. -/
theorem take_part? (f : Field α) {s : Setting} {config : Config}
    (written : ∃ members, s = .table members none)
    (accepted : Setting.read Config.codec s = .ok config) (table : s.plain? [f.place] = none) :
    f.take (s.part? f.names) = .ok (f.get config) := by
  obtain ⟨members, rfl⟩ := written
  obtain ⟨logging, executor, plugins, -⟩ := Config.read_table.1 accepted
  cases f with
  | level =>
    exact take_section .level LoggingConfig.level rfl
      (fun _ _ read => (LoggingConfig.read_table.1 read).1) table logging
  | format =>
    exact take_section .format LoggingConfig.format rfl
      (fun _ _ read => (LoggingConfig.read_table.1 read).2.1) table logging
  | threadIds =>
    exact take_section .threadIds LoggingConfig.threadIds rfl
      (fun _ _ read => (LoggingConfig.read_table.1 read).2.2) table logging
  | pollBatch =>
    exact take_section .pollBatch ExecutorConfig.pollBatch rfl
      (fun _ _ read => (ExecutorConfig.read_table.1 read).1) table executor
  | policy =>
    exact take_section .policy ExecutorConfig.policy rfl
      (fun _ _ read => (ExecutorConfig.read_table.1 read).2.1) table executor
  | extraQueues =>
    exact take_section .extraQueues ExecutorConfig.extraQueues rfl
      (fun _ _ read => (ExecutorConfig.read_table.1 read).2.2) table executor
  | enabled =>
    exact take_section .enabled PluginsConfig.enabled rfl
      (fun _ _ read => PluginsConfig.read_table.1 read) table plugins

theorem read_choice_table {type : String} {cases : List (String × α)} {name : α → String}
    {members : Members Setting} {origin : Option String} {x : α}
    (read : Setting.read (.choice type cases name) (.table members origin) = .ok x) :
    ∃ key, (∀ other, (members.find? other).isSome ↔ other = key) ∧
      ∀ value origin, Setting.read (.choice type cases name) (.table [(key, value)] origin) =
        .ok x := by
  match members, read with
  | [(key, value)], read =>
    refine ⟨key, fun other => ?_, fun _ _ => read⟩
    by_cases same : key = other
    · simp [Members.find?, same]
    · simp [Members.find?, same, Ne.symm same]

/-- A field that is read from a table is one of a few cases, named by the only member; what this
holds does not matter. -/
theorem read_table (f : Field α) {members : Members Setting} {origin : Option String} {x : α}
    (read : Setting.read f.codec (.table members origin) = .ok x) :
    ∃ key, (∀ other, (members.find? other).isSome ↔ other = key) ∧
      ∀ value origin, Setting.read f.codec (.table [(key, value)] origin) = .ok x := by
  cases f with
  | level | threadIds | pollBatch | extraQueues | enabled => cases read
  | format | policy => exact read_choice_table read

/-- Only a field that holds a list is read from one. -/
theorem isList_of_read (f : Field α) {items : List Setting} {origin : Option String} {x : α}
    (read : Setting.read f.codec (.list items origin) = .ok x) : f.IsList := by
  cases f with
  | enabled => exact trivial
  | level | format | threadIds | pollBatch | policy | extraQueues => cases read

end Field

end Config

namespace Setting

theorem Tidy.part? {s part : Setting} (tidy : s.Tidy) {names : List String}
    (found : s.part? names = some part) : part.Tidy := by
  induction names generalizing s with
  | nil =>
    cases found
    exact tidy
  | cons name rest ih =>
    rw [part?_cons, Option.bind_eq_some_iff] at found
    obtain ⟨inner, member, found⟩ := found
    exact ih (tidy.part (Members.mem_of_find? member)) found

end Setting

/-- Members in order with one name among them are one member. -/
theorem Members.eq_singleton {α : Type} {members : Members α} (ascending : members.Ascending)
    {key : String} (single : ∀ other, (members.find? other).isSome ↔ other = key) :
    ∃ value, members = [(key, value)] := by
  have named : ∀ m ∈ members, m.1 = key := fun m member =>
    (single m.1).1 (find?_isSome_iff.2 (List.mem_map_of_mem member))
  match members with
  | [] => exact absurd ((single key).2 rfl) (by simp [find?])
  | [m] => exact ⟨m.2, by rw [← named m List.mem_cons_self]⟩
  | first :: second :: rest =>
    have before := (List.pairwise_cons.1 ascending).1 second List.mem_cons_self
    rw [named first List.mem_cons_self,
      named second (List.mem_cons_of_mem _ List.mem_cons_self)] at before
    exact absurd before (String.lt_irrefl key)

namespace Layer

theorem alone_tidy (layer : Layer) : layer.alone.Tidy :=
  (Merged.onto ⟨.emptyTable, _, rfl⟩ layer).1

/-- Where no source puts a value there is none. -/
theorem plain?_stack_eq_none {names : List String} (named : names ≠ []) {layers : List Layer}
    (tables : ∀ layer ∈ layers, ¬ layer.PutsValue names) : (stack layers).plain? names = none := by
  induction layers using List.reverseRec with
  | nil => exact plain?_emptyTable named
  | append_singleton below layer ih =>
    rw [stack_concat]
    exact plain?_onto_eq_none named (tables layer (List.mem_append_right _ List.mem_cons_self))
      (ih fun layer member => tables layer (List.mem_append_left _ member))

end Layer

/-- A field is what the topmost source gives for it. -/
theorem Config.Field.take_topmost {α : Type} (f : Field α) {layers : List Layer} {config : Config}
    (accepted : Setting.read Config.codec (Layer.stack layers) = .ok config)
    (tables : ∀ layer ∈ layers, ¬ layer.PutsValue [f.place])
    (whole : f.IsList → ∀ layer ∈ layers, ¬ layer.Indexes f.names) :
    f.take (Layer.topmost layers (given? f.names)) = .ok (f.get config) := by
  have read := f.take_part? (Layer.Merged.stack layers).2 accepted
    (Layer.plain?_stack_eq_none (List.cons_ne_nil _ _) tables)
  cases found : (Layer.stack layers).part? f.names with
  | none =>
    rw [found] at read
    rw [Layer.topmost_given_of_none f.names_ne_nil (fun layer member w written =>
      Layer.touch_ne_clears written (tables layer member)) found]
    exact read
  | some given =>
    rw [found] at read
    cases given with
    | leaf value origin =>
      rw [Layer.topmost_given_of_plain? f.names_ne_nil (plain?_eq_some.2 ⟨found, rfl⟩) (.inl rfl)]
      exact read
    | list items origin =>
      rw [Layer.topmost_given_of_plain? f.names_ne_nil (plain?_eq_some.2 ⟨found, rfl⟩)
        (.inr (whole (f.isList_of_read read)))]
      exact read
    | table members origin =>
      obtain ⟨key, single, reads⟩ := f.read_table read
      have holds : ∀ other, (Layer.stack layers).Holds f.names other ↔ other = key := fun other =>
        (holds_iff_of_some found other).trans (single other)
      obtain ⟨top, from_, given, only⟩ := Layer.topmost_given_of_holds f.names_ne_nil holds
      obtain ⟨layer, -, shows⟩ := Layer.exists_of_topmost given
      have tidy := (Layer.alone_tidy layer).part? (Option.filter_eq_some_iff.1 shows).1
      obtain ⟨value, rfl⟩ := Members.eq_singleton tidy.members_ascending only
      rw [given]
      exact reads value from_

end PluginHost
