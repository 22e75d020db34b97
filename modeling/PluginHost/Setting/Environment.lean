import PluginHost.Setting.Layer
import PluginHost.Text.Basic

set_option autoImplicit false

namespace PluginHost

/-- The value that a text spells: a truth value in any case, else an integer of 64 bits, else a
float, else the text itself. -/
def Leaf.ofText (text : String) : Leaf :=
  match Text.lowered text with
  | "true" => .bool true
  | "false" => .bool false
  | _ =>
    match Number.readInt Number.minInt Number.maxInt text.toList with
    | some n => .int n
    | none =>
      match Number.readFloat text.toList with
      | some x => .float x
      | none => .text text

/-- Variables by name; a name may come more than once, and then the last one counts. -/
abbrev Environment := List (String × String)

namespace Environment

def value? (env : Environment) (name : String) : Option String :=
  (env.reverse.find? fun v => v.1 = name).map Prod.snd

/-- How names begin that stand for settings, in lower case. -/
def mark : List Char := "hostkit__".toList

/-- Puts a dot for every two underscores. -/
def dotted : List Char → List Char
  | '_' :: '_' :: rest => '.' :: dotted rest
  | c :: rest => c :: dotted rest
  | [] => []

/-- The key that a name stands for, if it stands for one. -/
def key? (name : String) : Option String :=
  let chars := (Text.lowered name).toList
  if mark.isPrefixOf chars then some (String.ofList (dotted (chars.drop mark.length))) else none

/-- Where settings from variables come from. -/
def origin : String := "the environment"

/-- One variable as an entry. -/
def entry? (variable_ : String × String) : Option (String × Setting) :=
  (key? variable_.1).map fun key => (key, .leaf (.ofText variable_.2) (some origin))

def layer (env : Environment) : Layer := Members.ofList (env.filterMap entry?)

end Environment

end PluginHost
