import PluginHost.Setting.Path

set_option autoImplicit false

namespace PluginHost

namespace Setting

mutual
/-- Lays a setting over another one. -/
def layOver : Setting → Setting → Setting
  | table members _, below => layMembers members (if below.isNothing then emptyTable else below)
  | leaf value origin, _ => leaf value origin
  | list items origin, _ => list items origin

/-- Lays members over those of a setting. -/
def layMembers : List (String × Setting) → Setting → Setting
  | [], below => below
  | (key, value) :: rest, below => layMembers rest (below.changeMember key (layOver value))
end

end Setting

/-- One source of settings: values under keys, each key a path. -/
abbrev Layer := Members Setting

namespace Layer

/-- Lays one entry over what there is. -/
def put (below : Setting) (entry : String × Setting) : Setting :=
  below.changeAt (entry.2.layOver) (.ofKey entry.1)

/-- Lays a whole source over what there is. -/
def onto (layer : Layer) (below : Setting) : Setting := layer.foldl put below

/-- Sources in their order, the first one at the bottom. -/
def stack (layers : List Layer) : Setting :=
  layers.foldl (fun below layer => layer.onto below) .emptyTable

end Layer

end PluginHost
