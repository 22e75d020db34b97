import PluginHost.Setting.Path
import PluginHost.Text.Basic

set_option autoImplicit false

namespace PluginHost

/-- Why a setting is not what it is read as. -/
inductive SettingFault where
  /-- Something else stands there, which comes from some origin. -/
  | mistyped (found expected : String) (origin : Option String)
  | unknownCase (type name : String)
  | noCase (type : String)
  /-- What stands there has the right type and is refused. -/
  | refused (fault : ReadFault)

namespace SettingFault

def message : SettingFault → String
  | mistyped found expected _ => "invalid type: " ++ found ++ ", expected " ++ expected
  | unknownCase type name => "enum " ++ type ++ " does not have variant constructor " ++ name
  | noCase type =>
    "value of enum " ++ type ++ " should be represented by either string or table with exactly one key"
  | refused fault => fault.message

/-- Where the value comes from that is at fault. -/
def origin : SettingFault → Option String
  | mistyped _ _ origin => origin
  | _ => none

end SettingFault

/-- A fault and the place of the setting that it is in. -/
structure SettingError where
  fault : SettingFault
  path : Path

namespace SettingError

def message (e : SettingError) : String :=
  let place := if e.path.isEmpty then "" else " for key `" ++ e.path.describe ++ "`"
  let source := match e.fault.origin with
    | some origin => " in " ++ origin
    | none => ""
  e.fault.message ++ place ++ source

/-- The same error, seen from one step further out. -/
def below (step : PathStep) (e : SettingError) : SettingError := { e with path := step :: e.path }

end SettingError

namespace Setting

/-- What a setting is, in words. -/
def found : Setting → String
  | leaf .nothing _ => "unit value"
  | leaf (.bool b) _ => (Found.bool b).describe
  | leaf (.int n) _ => (Found.integer n).describe
  | leaf (.float x) _ => (Found.float x).describe
  | leaf (.text s) _ => (Found.string s).describe
  | list _ _ => Found.sequence.describe
  | table _ _ => Found.map.describe

/-- A setting that cannot be read as something, which is told with where it comes from. -/
def mistyped {α : Type} (s : Setting) (expected : String) : Except SettingFault α :=
  .error (.mistyped s.found expected s.origin)

/-- A setting that is no such thing at all, wherever it comes from. -/
def misshapen {α : Type} (s : Setting) (expected : String) : Except SettingFault α :=
  .error (.mistyped s.found expected none)

/-- A float as the nearest integer between two bounds; a half goes away from zero. -/
def roundWithin (low high : Int) (x : Float) : Int :=
  let n : Int := if 0 ≤ low then x.round.toUInt64.toNat else x.round.toInt64.toInt
  max low (min high n)

/-- An integer: a number, a truth value, or a text for either. -/
def readInteger (low high : Int) (s : Setting) : Except SettingFault Int :=
  match s with
  | leaf (.int n) origin =>
    if low ≤ n ∧ n ≤ high then .ok n
    else
      let sort := if 0 ≤ low then "unsigned" else "signed"
      .error (.mistyped ("64-bit integer `" ++ toString n ++ "`")
        ("an " ++ sort ++ " 64 bit or less integer") origin)
  | leaf (.float x) _ => .ok (roundWithin low high x)
  | leaf (.bool b) _ => .ok (if b then 1 else 0)
  | leaf (.text t) _ =>
    match Text.lowered t with
    | "true" | "on" | "yes" => .ok 1
    | "false" | "off" | "no" => .ok 0
    | _ =>
      match Number.readInt low high t.toList with
      | some n => .ok n
      | none => s.mistyped "an integer"
  | _ => s.mistyped "an integer"

/-- A truth value, a number that is zero or not, or one of eight words. -/
def readBool (s : Setting) : Except SettingFault Bool :=
  match s with
  | leaf (.bool b) _ => .ok b
  | leaf (.int n) _ => .ok (n ≠ 0)
  | leaf (.float x) _ => .ok (x != 0.0)
  | leaf (.text t) origin =>
    match Text.lowered t with
    | "1" | "true" | "on" | "yes" => .ok true
    | "0" | "false" | "off" | "no" => .ok false
    | word => .error (.mistyped (Found.string word).describe "a boolean" origin)
  | _ => s.mistyped "a boolean"

def readFloat (s : Setting) : Except SettingFault Float :=
  match s with
  | leaf (.float x) _ => .ok x
  | leaf (.int n) _ => .ok (Codec.floatOfInt n)
  | leaf (.bool b) _ => .ok (if b then 1.0 else 0.0)
  | leaf (.text t) _ =>
    match Text.lowered t with
    | "true" | "on" | "yes" => .ok 1.0
    | "false" | "off" | "no" => .ok 0.0
    | _ =>
      match Number.readFloat t.toList with
      | some x => .ok x
      | none => s.mistyped "a floating point"
  | _ => s.mistyped "a floating point"

def readText (s : Setting) : Except SettingFault String :=
  match s with
  | leaf (.text t) _ => .ok t
  | leaf (.bool b) _ => .ok (toString b)
  | leaf (.int n) _ => .ok (toString n)
  | leaf (.float x) _ => .ok (Number.renderPlain x)
  | _ => s.mistyped "a string"

/-- Something that JSON readers refuse or not. -/
def accept {α : Type} : Except ReadFault α → Except SettingFault α
  | .ok x => .ok x
  | .error fault => .error (.refused fault)

def readCase {α : Type} (type : String) (cases : List (String × α)) (name : String) :
    Except SettingFault α :=
  match Members.find? name cases with
  | some x => .ok x
  | none => .error (.unknownCase type name)

/-- A fault at the setting itself. -/
def here {α : Type} : Except SettingFault α → Except SettingError α
  | .ok x => .ok x
  | .error fault => .error ⟨fault, []⟩

/-- An error of a part. -/
def atStep {α : Type} (step : PathStep) (result : Except SettingError α) : Except SettingError α :=
  result.mapError (SettingError.below step)

def readItemsAs {α : Type} (read : Setting → Except SettingError α) :
    Nat → List Setting → Except SettingError (List α)
  | _, [] => .ok []
  | index, item :: rest =>
    match atStep (.item index) (read item) with
    | .error e => .error e
    | .ok x => (readItemsAs read (index + 1) rest).map (x :: ·)

def readMembersAs {α : Type} (read : Setting → Except SettingError α) :
    Members Setting → Except SettingError (Members α)
  | [] => .ok []
  | (key, value) :: rest =>
    match atStep (.member key) (read value) with
    | .error e => .error e
    | .ok x => (readMembersAs read rest).map ((key, x) :: ·)

mutual
/-- Reads a setting as a type. -/
def read : {α : Type} → Codec α → Setting → Except SettingError α
  | _, .bool, s => here s.readBool
  | _, .int _ low high, s => here (s.readInteger low high)
  | _, .float, s => here s.readFloat
  | _, .string, s => here s.readText
  | _, .char, s => here (s.readText >>= fun t => accept (Codec.readChar t))
  | _, .unit, s => if s.isNothing then .ok () else here (s.misshapen "unit")
  | _, .any, s => .ok s.toJson
  | _, .list item, s =>
    match s with
    | list items _ => readItemsAs (read item) 0 items
    | s => here (s.misshapen "a sequence")
  | _, .optional item, s => if s.isNothing then .ok none else (read item s).map some
  | _, .table item, s =>
    match s with
    | table members _ => readMembersAs (read item) members
    | leaf .nothing _ => .ok []
    | s => here (s.misshapen "a map")
  | _, .pair first second, s =>
    match s with
    | list (a :: b :: _) _ =>
      match atStep (.item 0) (read first a) with
      | .error e => .error e
      | .ok x => (atStep (.item 1) (read second b)).map fun y => (x, y)
    | list items _ => here (.error (.refused (.wrongLength items.length "a tuple of size 2")))
    | s => here (s.misshapen "a tuple of size 2")
  | _, .choice type cases _, s =>
    match s with
    | leaf (.text name) _ => here (readCase type cases name)
    | table [(name, _)] _ => here (readCase type cases name)
    | _ => here (.error (.noCase type))
  | _, .text _ parse _, s => here (s.readText >>= fun t => accept (Codec.readText parse t))
  | _, .record name fields, s =>
    match s with
    | table members _ => readFields fields members
    | list items _ => readPositions name fields.count fields 0 items
    | s => here (s.misshapen ("struct " ++ name))
  | _, .via codec into _, s => (read codec s).map into

def readFields : {α : Type} → Fields α → Members Setting → Except SettingError α
  | _, .nil, _ => .ok ()
  | _, .cons name codec default rest, members =>
    let field :=
      match Members.find? name members with
      | some value => atStep (.member name) (read codec value)
      | none =>
        match default with
        | some x => .ok x
        | none => here (.error (.refused (.missingField name)))
    match field with
    | .error e => .error e
    | .ok x => (readFields rest members).map fun xs => (x, xs)

/-- Reads the fields of a record by position; items that no field takes do not matter. -/
def readPositions (record : String) (count : Nat) :
    {α : Type} → Fields α → Nat → List Setting → Except SettingError α
  | _, .nil, _, _ => .ok ()
  | _, .cons _ codec default rest, index, items =>
    let field :=
      match items with
      | item :: _ => atStep (.item index) (read codec item)
      | [] =>
        match default with
        | some x => .ok x
        | none =>
          here (.error (.refused (.wrongLength index (Codec.recordLength record count))))
    match field with
    | .error e => .error e
    | .ok x => (readPositions record count rest (index + 1) items.tail).map fun xs => (x, xs)
end

end Setting

end PluginHost
