import PluginHost.Plugin.Basic
import PluginHost.Script.Basic

set_option autoImplicit false

namespace PluginHost.Script

/-- The scripts of a plugin, under the label that its notes begin with. -/
structure Scripts where
  label : String
  options : List Declaration := []
  setUp : List Line := []
  start : List Line := []
  stop : List Line := []
  reload : List Line := []

/-- Notes the call of a hook and goes through a script. -/
def hookCode (label hook : String) (lines : List Line) (scene : Scene) : Code :=
  (do
    Steps.note (label ++ ":" ++ hook)
    perform scene lines) fun result => .done (result.map fun _ => .null)

/-- A plugin of some type and name. What it needs may change once it was set up. Its first cell
counts visits, its second says whether it was set up. -/
def plugin (type name : String) (scripts : Scripts) (before after : List Dependency) (h : Host) :
    Plugin × Host :=
  let (visits, h) := h.allocate (.int 0)
  let (wasSetUp, h) := h.allocate (.bool false)
  ({ type := type
     name := name
     cells := [visits, wasSetUp]
     options := scripts.options
     requires := fun h =>
       match h.read wasSetUp with
       | .bool true => after
       | _ => before
     setUp := fun options =>
       .ask (.write wasSetUp (.bool true)) fun _ =>
         hookCode scripts.label "init" scripts.setUp { options := options }
     start := hookCode scripts.label "start" scripts.start {}
     stop := hookCode scripts.label "stop" scripts.stop {}
     reload := hookCode scripts.label "sighup" scripts.reload {} }, h)

/-- A plugin type whose plugins need the same all their life and are named after the type. -/
def type (name : String) (scripts : Scripts) (needs : List Dependency) : PluginType :=
  ⟨name, plugin name (shortTypeName name) scripts needs needs⟩

/-- Visits a plugin: the number of the visit. -/
def visit (p : Plugin) (h : Host) : Nat × Host :=
  match p.cells[0]? with
  | none => (0, h)
  | some cell =>
    let count := match h.read cell with
      | .int n => n.toNat + 1
      | _ => 1
    (count, h.write cell (.int count))

end PluginHost.Script
