import PluginHost.Json.Basic

set_option autoImplicit false

namespace PluginHost.Json

def asString : Json → Except String String
  | .string s => .ok s
  | _ => .error "not a string"

def asInt : Json → Except String Int
  | .int n => .ok n
  | _ => .error "not an integer"

def asNat (j : Json) : Except String Nat := Int.toNat <$> asInt j

def asBool : Json → Except String Bool
  | .bool b => .ok b
  | _ => .error "not a boolean"

def asList : Json → Except String (List Json)
  | .array items => .ok items
  | _ => .error "not a list"

def asMembers : Json → Except String (Members Json)
  | .object members => .ok members
  | _ => .error "not an object"

def asStrings (j : Json) : Except String (List String) := do (← asList j).mapM asString

/-- A member that has to be there. -/
def field (j : Json) (key : String) : Except String Json :=
  match j.get? key with
  | some v => .ok v
  | none => .error ("no member " ++ key)

/-- A member that is null if it is absent. -/
def fieldOrNull (j : Json) (key : String) : Json := (j.get? key).getD .null

/-- A member read some way, or a default if it is absent. -/
def fieldOr {α : Type} (j : Json) (key : String) (default : α) (read : Json → Except String α) :
    Except String α :=
  match j.get? key with
  | some v => read v
  | none => .ok default

def stringAt (j : Json) (key : String) : Except String String := do asString (← j.field key)

def intAt (j : Json) (key : String) : Except String Int := do asInt (← j.field key)

def natAt (j : Json) (key : String) : Except String Nat := do asNat (← j.field key)

def stringOr (j : Json) (key default : String) : Except String String :=
  j.fieldOr key default asString

def intOr (j : Json) (key : String) (default : Int) : Except String Int :=
  j.fieldOr key default asInt

def natOr (j : Json) (key : String) (default : Nat) : Except String Nat :=
  j.fieldOr key default asNat

def boolOr (j : Json) (key : String) (default : Bool) : Except String Bool :=
  j.fieldOr key default asBool

def listOr (j : Json) (key : String) : Except String (List Json) := j.fieldOr key [] asList

def membersOr (j : Json) (key : String) : Except String (Members Json) := j.fieldOr key [] asMembers

end PluginHost.Json
