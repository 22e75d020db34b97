import PluginHost.Proofs.Config.Sections
import PluginHost.Proofs.Config.Writes

set_option autoImplicit false

namespace PluginHost

open Setting

namespace Json

def isObject : Json → Bool
  | .object _ => true
  | _ => false

def isArray : Json → Bool
  | .array _ => true
  | _ => false

/-- The part that names lead to, one member after the other. -/
def part? : List String → Json → Option Json
  | [], j => some j
  | name :: rest, j => (j.get? name).bind (part? rest)

/-- The value that names lead to, if it is no object. -/
def plain? (names : List String) (j : Json) : Option Json := (j.part? names).filter (!·.isObject)

end Json

namespace Setting

theorem membersToJson_eq_map (members : Members Setting) :
    membersToJson members = members.map fun m => (m.1, m.2.toJson) := by
  induction members with
  | nil => rfl
  | cons m rest ih =>
    obtain ⟨key, value⟩ := m
    rw [membersToJson, ih]
    rfl

theorem get?_toJson (name : String) (s : Setting) :
    s.toJson.get? name = (s.members.find? name).map toJson := by
  cases s with
  | table members origin =>
    rw [toJson, membersToJson_eq_map]
    exact Members.find?_map toJson name members
  | list items origin => rfl
  | leaf value origin =>
    cases value with
    | float x =>
      rw [toJson, Leaf.toJson]
      split <;> rfl
    | nothing | bool | int | text => rfl

theorem isObject_toJson (s : Setting) : s.toJson.isObject = s.isTable := by
  cases s with
  | table | list => rfl
  | leaf value origin =>
    cases value with
    | float x =>
      rw [toJson, Leaf.toJson]
      split <;> rfl
    | nothing | bool | int | text => rfl

theorem part?_toJson (names : List String) (s : Setting) :
    s.toJson.part? names = (s.part? names).map toJson := by
  induction names generalizing s with
  | nil => rfl
  | cons name rest ih =>
    rw [Json.part?, get?_toJson, part?_cons]
    cases s.members.find? name with
    | none => rfl
    | some part => exact ih part

theorem plain?_toJson (names : List String) (s : Setting) :
    s.toJson.plain? names = (s.plain? names).map toJson := by
  rw [Json.plain?, part?_toJson, plain?]
  cases s.part? names with
  | none => rfl
  | some part =>
    simp only [Option.map_some, Option.filter_some, isObject_toJson]
    cases part.isTable <;> rfl

theorem isArray_toJson (s : Setting) : s.toJson.isArray = s.isList := by
  cases s with
  | table | list => rfl
  | leaf value origin =>
    cases value with
    | float x =>
      rw [toJson, Leaf.toJson]
      split <;> rfl
    | nothing | bool | int | text => rfl

end Setting

/-- The options are what the table of options shows. -/
theorem Config.options_plain? {s : Setting} {config : Config} (merged : Layer.Merged s)
    (accepted : Setting.read Config.codec s = .ok config) (table : s.plain? ["options"] = none)
    (names : List String) :
    config.options.toJson.plain? names = (s.plain? ("options" :: names)).map toJson := by
  obtain ⟨tidy, members, rfl⟩ := merged
  obtain ⟨-, -, -, options⟩ := Config.read_table.1 accepted
  rw [plain?, part?_singleton] at table
  rw [plain?, part?_cons]
  unfold Setting.field at options
  cases found : (Setting.table members none).members.find? "options" with
  | none =>
    rw [show Members.find? "options" members = none from found] at options
    injection options with same
    rw [← same]
    cases names <;> rfl
  | some part =>
    rw [show Members.find? "options" members = some part from found] at options
    rw [found] at table
    cases part with
    | leaf | list => cases table
    | table inner origin =>
      have ascending : Members.Ascending inner :=
        (tidy.part (Members.mem_of_find? found)).members_ascending
      have read := atStep_eq_ok.1 options
      rw [Options.read_table] at read
      injection read with same
      have shown : config.options.toJson = (Setting.table inner origin).toJson := by
        rw [← same, toJson, membersToJson_eq_map]
        exact congrArg Json.object (Members.ofList_of_ascending (List.pairwise_map.2 ascending))
      rw [shown, plain?_toJson]
      rfl

end PluginHost
