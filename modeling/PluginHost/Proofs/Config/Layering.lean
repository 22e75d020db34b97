import PluginHost.Config.Layers
import PluginHost.Proofs.Members

set_option autoImplicit false

namespace PluginHost

namespace Setting

/-- Every table that steps to members lead to lists its members in order. -/
inductive Tidy : Setting → Prop where
  | leaf (value : Leaf) (origin : Option String) : Tidy (.leaf value origin)
  | list (items : List Setting) (origin : Option String) : Tidy (.list items origin)
  | table {members : Members Setting} (origin : Option String) (ascending : members.Ascending)
      (parts : ∀ m ∈ members, Tidy m.2) : Tidy (.table members origin)

theorem Tidy.empty : Tidy .empty := .leaf _ _

theorem Tidy.emptyTable : Tidy .emptyTable := .table _ .nil (by simp)

theorem Tidy.members_ascending {s : Setting} (tidy : s.Tidy) : s.members.Ascending := by
  cases tidy with
  | leaf | list => exact .nil
  | table _ ascending _ => exact ascending

theorem Tidy.part {s : Setting} (tidy : s.Tidy) {m : String × Setting} (member : m ∈ s.members) :
    m.2.Tidy := by
  cases tidy with
  | leaf | list => simp [members] at member
  | table _ _ parts => exact parts m member

/-- The part under a name, or the empty place that is made for it. -/
def partAt (name : String) (s : Setting) : Setting := (s.members.find? name).getD empty

theorem Tidy.partAt {s : Setting} (tidy : s.Tidy) (name : String) : (s.partAt name).Tidy := by
  cases found : s.members.find? name with
  | none => simpa [Setting.partAt, found] using Tidy.empty
  | some part => simpa [Setting.partAt, found] using tidy.part (Members.mem_of_find? found)

theorem changeMember_eq (name : String) (change : Setting → Setting) (s : Setting) :
    s.changeMember name change = table (s.members.insert name (change (s.partAt name))) none := rfl

theorem Tidy.changeMember {s : Setting} (tidy : s.Tidy) (name : String) {change : Setting → Setting}
    (keeps : ∀ part : Setting, part.Tidy → (change part).Tidy) :
    (s.changeMember name change).Tidy := by
  rw [changeMember_eq]
  refine .table _ (Members.insert_ascending tidy.members_ascending) fun m member => ?_
  rcases Members.mem_insert member with rfl | old
  · exact keeps _ (tidy.partAt name)
  · exact tidy.part old

theorem Tidy.changeAt {change : Setting → Setting}
    (keeps : ∀ part : Setting, part.Tidy → (change part).Tidy) (path : Path) {s : Setting}
    (tidy : s.Tidy) : (s.changeAt change path).Tidy := by
  induction path generalizing s with
  | nil => exact keeps s tidy
  | cons step rest ih =>
    cases step with
    | member name => exact tidy.changeMember name fun _ part => ih part
    | item index =>
      -- what is changed ends up in a list, and those are not looked into
      simp only [Setting.changeAt, changeItem]
      split <;> exact .list _ _

mutual
theorem Tidy.layOver : (above : Setting) → {below : Setting} → below.Tidy →
    (above.layOver below).Tidy
  | .leaf _ _, _, _ => .leaf _ _
  | .list _ _, _, _ => .list _ _
  | .table members _, below, tidy => by
    have start : (if below.isNothing then Setting.emptyTable else below).Tidy := by
      split
      · exact .emptyTable
      · exact tidy
    exact Tidy.layMembers members start

theorem Tidy.layMembers : (members : List (String × Setting)) → {below : Setting} → below.Tidy →
    (Setting.layMembers members below).Tidy
  | [], _, tidy => tidy
  | (name, above) :: rest, _, tidy =>
    Tidy.layMembers rest (tidy.changeMember name fun _ part => Tidy.layOver above part)
end

end Setting

namespace Path

/-- A key leads to a member first. -/
theorem ofKey_cons (key : String) : ∃ name rest, ofKey key = .member name :: rest := by
  unfold ofKey read? readSteps
  simp only
  split
  · exact ⟨key, [], rfl⟩
  · generalize readSteps _ _ = tail
    cases tail with
    | none => exact ⟨key, [], rfl⟩
    | some rest => exact ⟨_, rest, rfl⟩

end Path

namespace Layer

open Setting

theorem put_table (below : Setting) (entry : String × Setting) :
    ∃ members, put below entry = .table members none := by
  obtain ⟨name, rest, leads⟩ := Path.ofKey_cons entry.1
  exact ⟨_, by rw [put, leads]; rfl⟩

theorem put_tidy {below : Setting} (tidy : below.Tidy) (entry : String × Setting) :
    (put below entry).Tidy :=
  tidy.changeAt (fun _ part => part.layOver entry.2) _

/-- A tidy table that knows no origin. -/
def Merged (s : Setting) : Prop := s.Tidy ∧ ∃ members, s = .table members none

theorem Merged.onto {below : Setting} (merged : Merged below) (layer : Layer) :
    Merged (layer.onto below) := by
  induction layer generalizing below with
  | nil => exact merged
  | cons entry rest ih => exact ih ⟨put_tidy merged.1 entry, put_table below entry⟩

theorem Merged.stack (layers : List Layer) : Merged (stack layers) := by
  have all : ∀ below, Merged below →
      Merged (layers.foldl (fun below layer => layer.onto below) below) := by
    induction layers with
    | nil => exact fun _ merged => merged
    | cons layer rest ih => exact fun below merged => ih _ (merged.onto layer)
  exact all _ ⟨.emptyTable, _, rfl⟩

end Layer

namespace ConfigDirectory

/-- What the two files of a deployment set together. -/
def merged (d : ConfigDirectory) (deployment : String) : Except Failure Setting :=
  match d.layer "default" with
  | .error e => .error e
  | .ok base =>
    match d.layer deployment with
    | .error e => .error e
    | .ok overlay => .ok (Layer.stack [base, overlay])

theorem merged_of_ok {d : ConfigDirectory} {deployment : String} {files : Setting}
    (read : d.merged deployment = .ok files) : Layer.Merged files := by
  unfold merged at read
  split at read
  · cases read
  · split at read
    · cases read
    · cases read
      exact .stack _

/-- A configuration is read off the files with the environment over them. -/
theorem load_ok_iff {d : ConfigDirectory} {deployment : String} {env : Environment}
    {config : Config} :
    d.load deployment env = .ok config ↔ ∃ files, d.merged deployment = .ok files ∧
      Setting.read Config.codec (env.layer.onto files) = .ok config := by
  unfold load merged
  cases d.layer "default" with
  | error e => simp
  | ok base =>
    cases d.layer deployment with
    | error e => simp
    | ok overlay =>
      have laid : Layer.stack [base, overlay, env.layer] =
          env.layer.onto (Layer.stack [base, overlay]) := rfl
      simp only [laid, Except.ok.injEq, exists_eq_left']
      cases Setting.read Config.codec (env.layer.onto (Layer.stack [base, overlay])) <;> simp

end ConfigDirectory

end PluginHost
