import PluginHost.Codec.Basic
import PluginHost.Toml.Basic

set_option autoImplicit false

namespace PluginHost

/-- A value without parts. -/
inductive Leaf where
  | nothing
  | bool (value : Bool)
  | int (value : Int)
  | float (value : Float)
  | text (value : String)

/-- A leaf as a JSON value. A float that is not finite has no JSON form. -/
def Leaf.toJson : Leaf → Json
  | .nothing => .null
  | .bool b => .bool b
  | .int n => .int n
  | .float x => if x.isFinite then .float x else .null
  | .text s => .string s

/-- A value and its origin. Tables that several origins fill have none, and neither has a place
that was made on the way to another one. -/
inductive Setting where
  | leaf (value : Leaf) (origin : Option String)
  | list (items : List Setting) (origin : Option String)
  | table (members : List (String × Setting)) (origin : Option String)

namespace Setting

/-- A place that holds nothing yet. -/
def empty : Setting := leaf .nothing none

def emptyTable : Setting := table [] none

def origin : Setting → Option String
  | leaf _ origin => origin
  | list _ origin => origin
  | table _ origin => origin

def isNothing : Setting → Bool
  | leaf .nothing _ => true
  | _ => false

/-- The members of a table; nothing else has any. -/
def members : Setting → Members Setting
  | table members _ => members
  | _ => []

/-- The items of a list; nothing else has any. -/
def items : Setting → List Setting
  | list items _ => items
  | _ => []

mutual
/-- A JSON value as a setting. An integer of 64 bits that is not negative may be too large for an
integer setting, and is a float then. -/
def ofJson (origin : String) : Json → Setting
  | .null => leaf .nothing (some origin)
  | .bool b => leaf (.bool b) (some origin)
  | .int n =>
    leaf (if n ≤ Number.maxInt then .int n else .float (Codec.floatOfInt n)) (some origin)
  | .float x => leaf (.float x) (some origin)
  | .string s => leaf (.text s) (some origin)
  | .array items => list (itemsOfJson origin items) (some origin)
  | .object members => table (membersOfJson origin members) (some origin)

def itemsOfJson (origin : String) : List Json → List Setting
  | [] => []
  | item :: rest => ofJson origin item :: itemsOfJson origin rest

def membersOfJson (origin : String) : List (String × Json) → List (String × Setting)
  | [] => []
  | (key, value) :: rest => (key, ofJson origin value) :: membersOfJson origin rest
end

mutual
/-- A TOML value as a setting. Dates and times are texts. -/
def ofToml (origin : String) : Toml → Setting
  | .bool b => leaf (.bool b) (some origin)
  | .int n => leaf (.int n) (some origin)
  | .float x => leaf (.float x) (some origin)
  | .text s => leaf (.text s) (some origin)
  | .time written => leaf (.text written) (some origin)
  | .list items => list (itemsOfToml origin items) (some origin)
  | .table members => table (membersOfToml origin members) (some origin)

def itemsOfToml (origin : String) : List Toml → List Setting
  | [] => []
  | item :: rest => ofToml origin item :: itemsOfToml origin rest

def membersOfToml (origin : String) : List (String × Toml) → List (String × Setting)
  | [] => []
  | (key, value) :: rest => (key, ofToml origin value) :: membersOfToml origin rest
end

mutual
def toJson : Setting → Json
  | leaf value _ => value.toJson
  | list items _ => .array (itemsToJson items)
  | table members _ => .object (membersToJson members)

def itemsToJson : List Setting → List Json
  | [] => []
  | item :: rest => toJson item :: itemsToJson rest

def membersToJson : List (String × Setting) → List (String × Json)
  | [] => []
  | (key, value) :: rest => (key, toJson value) :: membersToJson rest
end

end Setting

end PluginHost
