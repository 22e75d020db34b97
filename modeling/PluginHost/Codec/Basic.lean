import PluginHost.Json.Reader

set_option autoImplicit false

namespace PluginHost

mutual
/-- The JSON form of a type. -/
inductive Codec : Type → Type 1 where
  | bool : Codec Bool
  /-- An integer between two bounds, under the name of its range. -/
  | int (range : String) (low high : Int) : Codec Int
  /-- A float, which an integer stands for too. -/
  | float : Codec Float
  | string : Codec String
  | char : Codec Char
  | unit : Codec Unit
  /-- Any value as it is. -/
  | any : Codec Json
  | list {α : Type} (item : Codec α) : Codec (List α)
  | optional {α : Type} (item : Codec α) : Codec (Option α)
  | table {α : Type} (item : Codec α) : Codec (Members α)
  | pair {α β : Type} (first : Codec α) (second : Codec β) : Codec (α × β)
  /-- One of some names, or an object whose only member has such a name and no value. -/
  | choice {α : Type} (type : String) (cases : List (String × α)) (name : α → String) : Codec α
  /-- A string of a format of its own. -/
  | text {α : Type} (expected : String) (read : String → Except String α) (write : α → String) :
      Codec α
  | record {α : Type} (name : String) (fields : Fields α) : Codec α
  /-- Another type's form. -/
  | via {α β : Type} (codec : Codec α) (into : α → β) (of : β → α) : Codec β

/-- The members of a record. A field without a default must be there. -/
inductive Fields : Type → Type 1 where
  | nil : Fields Unit
  | cons {α β : Type} (name : String) (codec : Codec α) (default : Option α) (rest : Fields β) :
      Fields (α × β)
end

namespace Fields

def names : {α : Type} → Fields α → List String
  | _, .nil => []
  | _, .cons name _ _ rest => name :: rest.names

def count {α : Type} (fields : Fields α) : Nat := fields.names.length

end Fields

namespace Codec

/-- How a list that is too short for a record is called. -/
def recordLength (name : String) (count : Nat) : String :=
  "struct " ++ name ++ " with " ++ toString count ++ (if count = 1 then " element" else " elements")

mutual
def write : {α : Type} → Codec α → α → Json
  | _, .bool, b => .bool b
  | _, .int _ _ _, n => .int n
  | _, .float, x => .float x
  | _, .string, s => .string s
  | _, .char, c => .string c.toString
  | _, .unit, _ => .null
  | _, .any, j => j
  | _, .list item, xs => .array (xs.map (write item))
  | _, .optional _, none => .null
  | _, .optional item, some x => write item x
  | _, .table item, members => .object (members.map fun m => (m.1, write item m.2))
  | _, .pair first second, (a, b) => .array [write first a, write second b]
  | _, .choice _ _ name, x => .string (name x)
  | _, .text _ _ show_, x => .string (show_ x)
  | _, .record _ fields, x => .object (Members.ofList (writeFields fields x))
  | _, .via codec _ of, x => write codec (of x)

/-- The members of a record in declaration order. -/
def writeFields : {α : Type} → Fields α → α → List (String × Json)
  | _, .nil, _ => []
  | _, .cons name codec _ rest, (x, xs) => (name, write codec x) :: writeFields rest xs
end

def wrongType {α : Type} (j : Json) (expected : String) : Except ReadFault α :=
  .error (.wrongType (.ofJson j) expected)

/-- An integer where one between two bounds is wanted. -/
def readInt (range : String) (low high : Int) : Json → Except ReadFault Int
  | .int n => if low ≤ n ∧ n ≤ high then .ok n else .error (.wrongValue (.integer n) range)
  | j => wrongType j range

def floatOfInt (n : Int) : Float :=
  if n < 0 then -(Float.ofScientific n.natAbs false 0) else Float.ofScientific n.toNat false 0

def readChar (s : String) : Except ReadFault Char :=
  match s.toList with
  | [c] => .ok c
  | _ => .error (.wrongValue (.string s) "a character")

def readCase {α : Type} (cases : List (String × α)) (name : String) : Except ReadFault α :=
  match Members.find? name cases with
  | some x => .ok x
  | none => .error (.unknownVariant name (Members.keys cases))

def readNull : Json → Except ReadFault Unit
  | .null => .ok ()
  | j => wrongType j "unit"

def readText {α : Type} (read : String → Except String α) (s : String) : Except ReadFault α :=
  match read s with
  | .ok x => .ok x
  | .error message => .error (.malformed message)

/-- A list that no reader took all items of. -/
def tooLong {α : Type} (length : Nat) : Except ReadFault α :=
  .error (.wrongLength length "fewer elements in array")

/-- Members are looked at in their order, so the first bad one is reported. -/
def checkMembers (check : String → Json → Except ReadFault Unit) :
    Members Json → Except ReadFault Unit
  | [] => .ok ()
  | (key, value) :: members =>
    match check key value with
    | .error e => .error e
    | .ok _ => checkMembers check members

mutual
def read : {α : Type} → Codec α → Json → Except ReadFault α
  | _, .bool, j =>
    match j with
    | .bool b => .ok b
    | j => wrongType j "a boolean"
  | _, .int range low high, j => readInt range low high j
  | _, .float, j =>
    match j with
    | .float x => .ok x
    | .int n => .ok (floatOfInt n)
    | j => wrongType j "f64"
  | _, .string, j =>
    match j with
    | .string s => .ok s
    | j => wrongType j "a string"
  | _, .char, j =>
    match j with
    | .string s => readChar s
    | j => wrongType j "a character"
  | _, .unit, j => readNull j
  | _, .any, j => .ok j
  | _, .list item, j =>
    match j with
    | .array items => items.mapM (read item)
    | j => wrongType j "a sequence"
  | _, .optional item, j =>
    match j with
    | .null => .ok none
    | j => (read item j).map some
  | _, .table item, j =>
    match j with
    | .object members =>
      members.mapM fun m =>
        match read item m.2 with
        | .ok x => .ok (m.1, x)
        | .error e => .error e
    | j => wrongType j "a map"
  | _, .pair first second, j =>
    match j with
    | .array [] => .error (.wrongLength 0 "a tuple of size 2")
    | .array [a] =>
      match read first a with
      | .error e => .error e
      | .ok _ => .error (.wrongLength 1 "a tuple of size 2")
    | .array (a :: b :: rest) =>
      match read first a with
      | .error e => .error e
      | .ok x =>
        match read second b with
        | .error e => .error e
        | .ok y => if rest.isEmpty then .ok (x, y) else tooLong (rest.length + 2)
    | j => wrongType j "a tuple of size 2"
  | _, .choice _ cases _, j =>
    match j with
    | .string s => readCase cases s
    | .object [(key, value)] =>
      match readCase cases key with
      | .error e => .error e
      | .ok x => (readNull value).map fun _ => x
    | .object _ => .error (.wrongValue .map "map with a single key")
    | j => wrongType j "string or map"
  | _, .text expected parse _, j =>
    match j with
    | .string s => readText parse s
    | j => wrongType j expected
  | _, .record name fields, j =>
    match j with
    | .object members =>
      match checkMembers (checkMember fields) members with
      | .error e => .error e
      | .ok _ => readMembers fields members
    | .array items =>
      match readItems name fields.count fields 0 items with
      | .error e => .error e
      | .ok (x, rest) => if rest.isEmpty then .ok x else tooLong items.length
    | j => wrongType j ("struct " ++ name)
  | _, .via codec into _, j => (read codec j).map into

/-- Reads a member for a field of its name, if there is one. -/
def checkMember : {α : Type} → Fields α → String → Json → Except ReadFault Unit
  | _, .nil, _, _ => .ok ()
  | _, .cons name codec _ rest, key, value =>
    if key = name then (read codec value).map fun _ => () else checkMember rest key value

/-- The fields of a record from its members. -/
def readMembers : {α : Type} → Fields α → Members Json → Except ReadFault α
  | _, .nil, _ => .ok ()
  | _, .cons name codec default rest, members =>
    let field :=
      match Members.find? name members with
      | some value => read codec value
      | none =>
        match default with
        | some x => .ok x
        | none => .error (.missingField name)
    match field with
    | .error e => .error e
    | .ok x => (readMembers rest members).map fun xs => (x, xs)

/-- The fields of a record by position, and the items that no field took. -/
def readItems (record : String) (count : Nat) :
    {α : Type} → Fields α → Nat → List Json → Except ReadFault (α × List Json)
  | _, .nil, _, items => .ok ((), items)
  | _, .cons _ codec default rest, index, items =>
    let field :=
      match items with
      | item :: _ => read codec item
      | [] =>
        match default with
        | some x => .ok x
        | none => .error (.wrongLength index (recordLength record count))
    match field with
    | .error e => .error e
    | .ok x => (readItems record count rest (index + 1) items.tail).map fun r => ((x, r.1), r.2)
end

/-- Reads a value and writes it again, which fills in defaults and drops what is not known. -/
def normalize {α : Type} (codec : Codec α) (j : Json) : Except ReadFault Json :=
  (read codec j).map (write codec)

end Codec

end PluginHost
