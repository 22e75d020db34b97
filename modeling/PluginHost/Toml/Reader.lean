import PluginHost.Toml.Document
import PluginHost.Toml.Token

set_option autoImplicit false

namespace PluginHost.Toml

namespace Cursor

/-- The items of a list behind its opening bracket, last one first. Every round takes an item. -/
def listItems (item : Cursor → Reading Toml) : Nat → List Toml → Cursor → Reading (List Toml)
  | 0, _, c => c.fail .unclosedList
  | fuel + 1, items, c =>
    match c.skipSpace with
    | .error e => .error e
    | .ok c =>
      match c.rest with
      | [] => c.fail .unclosedList
      | ']' :: _ => .ok (items, c.skip 1)
      | _ =>
        match item c with
        | .error e => .error e
        | .ok (value, c) =>
          match c.skipSpace with
          | .error e => .error e
          | .ok c =>
            match c.rest with
            | ',' :: _ => listItems item fuel (value :: items) (c.skip 1)
            | ']' :: _ => .ok (value :: items, c.skip 1)
            | [] => c.fail .unclosedList
            | _ => c.fail .missingItemComma

def list (item : Cursor → Reading Toml) (c : Cursor) : Reading Toml :=
  match listItems item (c.rest.length + 1) [] c with
  | .ok (items, c) => .ok (.list items.reverse, c)
  | .error e => .error e

/-- A key and its value. Where setting it is at fault, the fault is at the key. -/
def pair (item : Cursor → Reading Toml) (draft : Draft)
    (set : Toml → List String → Draft → Except TomlFault Draft) (c : Cursor) : Reading Draft :=
  match c.key with
  | .error e => .error e
  | .ok (keys, after) =>
    match after.rest with
    | '=' :: _ =>
      match item (after.skip 1).skipBlanks with
      | .error e => .error e
      | .ok (value, next) =>
        match set value keys draft with
        | .ok draft => .ok (draft, next)
        | .error fault => c.failAt (c.run fun char => !endsToken char).length fault
    | _ => after.fail .missingEquals

/-- The members of an inline table behind its opening brace. Every round takes a member. -/
def inlineMembers (item : Cursor → Reading Toml) : Nat → Bool → Draft → Cursor → Reading Draft
  | 0, _, _, c => c.fail .unclosedInline
  | fuel + 1, first, draft, c =>
    let c := c.skipBlanks
    match c.rest with
    | [] => c.fail .unclosedInline
    | '\x7d' :: _ => if first then .ok (draft, c.skip 1) else c.fail .trailingMemberComma
    | _ =>
      if c.lineEnd?.isSome then c.fail .inlineNewline
      else
        match pair item draft Draft.assign c with
        | .error e => .error e
        | .ok (draft, c) =>
          let c := c.skipBlanks
          match c.rest with
          | ',' :: _ => inlineMembers item fuel false draft (c.skip 1)
          | '\x7d' :: _ => .ok (draft, c.skip 1)
          | [] => c.fail .unclosedInline
          | _ => if c.lineEnd?.isSome then c.fail .inlineNewline else c.fail .missingMemberComma

def inlineTable (item : Cursor → Reading Toml) (c : Cursor) : Reading Toml :=
  match inlineMembers item (c.rest.length + 1) true [] c with
  | .ok (draft, c) => .ok (.table (ofDraft draft), c)
  | .error e => .error e

/-- A value; `depth` is how many lists and inline tables may still open. -/
def value : Nat → Cursor → Reading Toml
  | 0, c =>
    match c.rest with
    | '[' :: _ | '\x7b' :: _ => c.fail .tooDeep
    | _ => c.scalar
  | depth + 1, c =>
    match c.rest with
    | '[' :: _ => list (value depth) (c.skip 1)
    | '\x7b' :: _ => inlineTable (value depth) (c.skip 1)
    | _ => c.scalar

/-- The key of a header, behind its opening bracket. -/
def header (open_ : String → Draft → Except TomlFault Draft) (draft : Draft) (c : Cursor) :
    Reading (List String × Draft) :=
  match c.key with
  | .error e => .error e
  | .ok (keys, next) =>
    match Draft.within (open_ (keys.getLastD "")) keys.dropLast draft with
    | .ok draft => .ok ((keys, draft), next)
    | .error fault => c.failAt (next.place - c.place) fault

end Cursor

/-- A document that was read up to some line: the header that holds, and what was put together. -/
structure Progress where
  headed : List String
  draft : Draft

namespace Progress

/-- A line with a header. -/
def headerLine (p : Progress) (c : Cursor) : Reading Progress :=
  match c.rest with
  | '[' :: '[' :: _ =>
    match (c.skip 2).header Draft.openTables p.draft with
    | .error e => .error e
    | .ok ((keys, draft), c) =>
      match c.rest with
      | ']' :: ']' :: _ => .ok (⟨keys, draft⟩, c.skip 2)
      | _ => c.fail .unclosedTableList
  | _ =>
    match (c.skip 1).header Draft.openTable p.draft with
    | .error e => .error e
    | .ok ((keys, draft), c) =>
      match c.rest with
      | ']' :: _ => .ok (⟨keys, draft⟩, c.skip 1)
      | _ => c.fail .unclosedTable

/-- A line with a key and its value, which go below the header that holds. -/
def pairLine (p : Progress) (c : Cursor) : Reading Progress :=
  let set (value : Toml) (keys : List String) : Draft → Except TomlFault Draft :=
    Draft.within (Draft.assign value keys) p.headed
  match c.pair (Cursor.value 80) p.draft set with
  | .error e => .error e
  | .ok (draft, c) => .ok ({ p with draft := draft }, c)

/-- The lines that are left. Every round takes a line. -/
def lines : Nat → Progress → Cursor → Except TomlError Progress
  | 0, p, _ => .ok p
  | fuel + 1, p, c =>
    match c.skipSpace with
    | .error e => .error e
    | .ok c =>
      match c.rest with
      | [] => .ok p
      | char :: _ =>
        match (if char = '[' then p.headerLine c else p.pairLine c) with
        | .error e => .error e
        | .ok (p, c) =>
          match c.skipComment with
          | .error e => .error e
          | .ok c =>
            match c.rest, c.lineEnd? with
            | [], _ => .ok p
            | _, some c => lines fuel p c
            | _, none => c.failAt (c.run fun char => !Cursor.endsToken char).length .trailing

end Progress

def parse (text : String) : Except TomlError (Members Toml) :=
  let c := Cursor.ofString text
  match Progress.lines (c.rest.length + 1) ⟨[], []⟩ c with
  | .ok p => .ok (ofDraft p.draft)
  | .error e => .error e

end PluginHost.Toml
