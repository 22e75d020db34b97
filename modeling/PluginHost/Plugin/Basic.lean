import PluginHost.Host.Basic
import PluginHost.Options.Schema
import PluginHost.Text.Basic

set_option autoImplicit false

namespace PluginHost

/-- What is left of the text after the last double colon, read from the end. -/
def lastSegmentReversed : List Char → List Char
  | ':' :: ':' :: _ => []
  | c :: rest => c :: lastSegmentReversed rest
  | [] => []

/-- The last segment of a type's name before its first argument list. -/
def shortTypeName (name : String) : String :=
  let base := name.toList.takeWhile (· ≠ '<')
  String.ofList (lastSegmentReversed base.reverse).reverse

/-- What a plugin needs: the first plugin of a type, or the plugin of a name. -/
inductive Dependency where
  | typed (type : String)
  | named (name : String)
deriving DecidableEq, Repr

/-- How a dependency is called in messages. -/
def Dependency.name : Dependency → String
  | typed type => shortTypeName type
  | named name => name

/-- How dependencies are listed. -/
def Dependency.describe : Dependency → String
  | typed type => "Typed(PluginFactory \x7b name: " ++ Text.quoted (shortTypeName type) ++ " \x7d)"
  | named name => "Named(" ++ Text.quoted name ++ ")"

/-- A plugin. What it needs may change while it lives; `cells` is its own memory. -/
structure Plugin where
  type : String
  name : String
  cells : List Nat := []
  options : List Declaration := []
  requires : Host → List Dependency := fun _ => []
  setUp : Options → Code := fun _ => .nothing
  start : Code := .nothing
  stop : Code := .nothing
  reload : Code := .nothing
  /-- What it lets go of when it is dropped. -/
  release : Host → Host := id

/-- A plugin type by its full name. -/
structure PluginType where
  name : String
  create : Host → Plugin × Host

/-- How a plugin type is called in listings. -/
def PluginType.describe (t : PluginType) : String :=
  "PluginFactory \x7b name: " ++ Text.quoted (shortTypeName t.name) ++ " \x7d"

/-- The plugin types that there are. -/
abbrev Catalogue := List PluginType

def Catalogue.find? (catalogue : Catalogue) (type : String) : Option PluginType :=
  List.find? (fun t => t.name = type) catalogue

end PluginHost
