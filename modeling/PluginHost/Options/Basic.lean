import PluginHost.Codec.Basic
import PluginHost.Failure

set_option autoImplicit false

namespace PluginHost

/-- Option values by name, in ascending order of the names. -/
structure Options where
  members : Members Json
  ascending : members.Ascending

namespace Options

def empty : Options := ⟨[], List.Pairwise.nil⟩

def ofMembers (members : Members Json) : Options :=
  ⟨Members.ofList members, Members.ofList_ascending members⟩

/-- Sets an option, replacing the value it had. -/
def insert (o : Options) (key : String) (value : Json) : Options :=
  ⟨o.members.insert key value, Members.insert_ascending o.ascending⟩

def value? (o : Options) (key : String) : Option Json := Members.find? key o.members

def contains (o : Options) (key : String) : Bool := (o.value? key).isSome

/-- Whether an option is present and neither false nor null. -/
def flag (o : Options) (key : String) : Bool :=
  match o.value? key with
  | none | some .null | some (.bool false) => false
  | some _ => true

def size (o : Options) : Nat := o.members.length

def keys (o : Options) : List String := o.members.keys

def toJson (o : Options) : Json := .object o.members

/-- The value of an option as some reader takes it. -/
def readWith {α : Type} (o : Options) (read : Json → Except ReadFault α) (key : String) :
    Except Failure α :=
  match o.value? key with
  | none => .error (.optionNotSet key)
  | some value =>
    match read value with
    | .ok x => .ok x
    | .error fault => .error (.optionMistyped key ⟨fault, none⟩)

/-- The value of an option as a type. -/
def get {α : Type} (o : Options) (codec : Codec α) (key : String) : Except Failure α :=
  o.readWith codec.read key

/-- The value of an option as a type; one that is absent takes the default. -/
def getOr {α : Type} (o : Options) (codec : Codec α) (key : String) (default : α) :
    Except Failure α :=
  if o.contains key then o.get codec key else .ok default

/-- Equality of the tables as values. -/
def same (a b : Options) : Bool := Json.same a.toJson b.toJson

@[simp] theorem value?_insert (o : Options) (key other : String) (value : Json) :
    (o.insert key value).value? other = if key = other then some value else o.value? other :=
  Members.find?_insert key other value o.members

@[ext] theorem ext {a b : Options} (h : a.members = b.members) : a = b := by
  cases a; cases b; cases h; rfl

/-- The form of a table of options: any object. -/
def codec : Codec Options := .via (.table .any) ofMembers members

end Options

end PluginHost
