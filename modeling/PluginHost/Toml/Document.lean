import PluginHost.Toml.Basic

set_option autoImplicit false

namespace PluginHost.Toml

/-- How a table came about. -/
inductive Making where
  /-- By a header that goes on beyond it. -/
  | implied
  | dotted
  | headed
deriving DecidableEq, Repr

/-- A part of a document that is still being put together. -/
inductive Node where
  | value (value : Toml)
  | table (making : Making) (members : List (String × Node))
  /-- Tables under a common header, the latest one first. -/
  | tables (latest : List (String × Node)) (earlier : List (List (String × Node)))

/-- The members of a table that is still being put together. -/
abbrev Draft := List (String × Node)

namespace Draft

def entry? (key : String) (draft : Draft) : Option Node := Members.find? key draft

def put (key : String) (node : Node) (draft : Draft) : Draft := Members.insert key node draft

/-- Changes the table that a path of header keys leads to; tables that are missing are made. -/
def within (change : Draft → Except TomlFault Draft) : List String → Draft → Except TomlFault Draft
  | [], draft => change draft
  | key :: keys, draft =>
    match draft.entry? key with
    | none => (within change keys []).map fun inner => draft.put key (.table .implied inner)
    | some (.table making inner) =>
      (within change keys inner).map fun inner => draft.put key (.table making inner)
    | some (.tables latest earlier) =>
      (within change keys latest).map fun latest => draft.put key (.tables latest earlier)
    | some (.value v) => .error (.notExtensible v.typeName)

/-- Opens a table under a header. -/
def openTable (key : String) (draft : Draft) : Except TomlFault Draft :=
  match draft.entry? key with
  | none => .ok (draft.put key (.table .headed []))
  | some (.table .implied inner) => .ok (draft.put key (.table .headed inner))
  | some _ => .error .duplicateKey

/-- Opens one more table under a common header. -/
def openTables (key : String) (draft : Draft) : Except TomlFault Draft :=
  match draft.entry? key with
  | none => .ok (draft.put key (.tables [] []))
  | some (.tables latest earlier) => .ok (draft.put key (.tables [] (latest :: earlier)))
  | some _ => .error .duplicateKey

/-- Sets a key that is new. -/
def setNew (key : String) (value : Toml) (draft : Draft) : Except TomlFault Draft :=
  match draft.entry? key with
  | none => .ok (draft.put key (.value value))
  | some _ => .error .duplicateKey

/-- Sets a dotted key. The tables on the way are made by dotted keys too. -/
def assign (value : Toml) : List String → Draft → Except TomlFault Draft
  | [], draft => .ok draft
  | [key], draft => draft.setNew key value
  | key :: next :: keys, draft =>
    match draft.entry? key with
    | none => (assign value (next :: keys) []).map fun inner => draft.put key (.table .dotted inner)
    | some (.table .dotted inner) =>
      (assign value (next :: keys) inner).map fun inner => draft.put key (.table .dotted inner)
    | some (.table .implied inner) =>
      if keys.isEmpty then .error .duplicateKey
      else (assign value (next :: keys) inner).map fun inner => draft.put key (.table .implied inner)
    | some (.table .headed _) => .error .duplicateKey
    | some (.tables _ _) => .error .duplicateKey
    | some (.value v) => .error (.notExtensible v.typeName)

end Draft

mutual
/-- What a finished part stands for. -/
def ofNode : Node → Toml
  | .value v => v
  | .table _ members => .table (ofDraft members)
  | .tables latest earlier => .list (ofDrafts earlier [.table (ofDraft latest)])

def ofDraft : List (String × Node) → List (String × Toml)
  | [] => []
  | (key, node) :: rest => (key, ofNode node) :: ofDraft rest

/-- Puts tables in front of others; the one that comes last is put there first. -/
def ofDrafts : List (List (String × Node)) → List Toml → List Toml
  | [], later => later
  | draft :: earlier, later => ofDrafts earlier (.table (ofDraft draft) :: later)
end

end PluginHost.Toml
