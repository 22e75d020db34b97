import PluginHost.Options.Basic

set_option autoImplicit false

namespace PluginHost

/-- An option as a plugin declares it. -/
structure Declaration where
  name : String
  description : String
  default : Option Json

/-- A declared option with the plugin that declared it first. -/
structure OptionSpec where
  name : String
  description : String
  default : Option Json
  owner : Option String

/-- Declared options in declaration order, and who declares the next ones. -/
structure Schema where
  specs : List OptionSpec
  owner : Option String

/-- A declaration that came after another one of its name. -/
structure RepeatedDeclaration where
  option : String
  owner : Option String
deriving DecidableEq

namespace Schema

def empty : Schema := ⟨[], none⟩

def setOwner (s : Schema) (owner : Option String) : Schema := { s with owner := owner }

def find? (s : Schema) (name : String) : Option OptionSpec :=
  s.specs.find? fun spec => spec.name = name

/-- Adds an option; a name that is taken changes nothing and is reported. -/
def declare (s : Schema) (d : Declaration) : Schema × Option RepeatedDeclaration :=
  if s.specs.any (fun spec => spec.name = d.name) then (s, some ⟨d.name, s.owner⟩)
  else ({ s with specs := s.specs ++ [⟨d.name, d.description, d.default, s.owner⟩] }, none)

/-- Adds options in their order. -/
def declareAll (s : Schema) : List Declaration → Schema × List RepeatedDeclaration
  | [] => (s, [])
  | d :: rest =>
    let (s, repeated) := s.declare d
    let (s, later) := s.declareAll rest
    (s, repeated.toList ++ later)

/-- Fills in one default. -/
def applyDefault (o : Options) (spec : OptionSpec) : Options :=
  match spec.default with
  | some value => if o.contains spec.name then o else o.insert spec.name value
  | none => o

/-- The options with every missing default filled in. -/
def applyDefaults (s : Schema) (o : Options) : Options := s.specs.foldl applyDefault o

/-- Whether an option is set to exactly its default. -/
def isRedundant (o : Options) (spec : OptionSpec) : Bool :=
  match spec.default, o.value? spec.name with
  | some default, some value => Json.same default value
  | _, _ => false

/-- Options set to exactly their default, in declaration order. -/
def redundantDefaults (s : Schema) (o : Options) : List String :=
  (s.specs.filter (isRedundant o)).map OptionSpec.name

/-- Options that nobody declared, in the order of their names. -/
def undeclared (s : Schema) (o : Options) : List String :=
  o.keys.filter fun key => !s.specs.any fun spec => spec.name = key

/-- A text that begins in a comment and stays in comments over all its lines. -/
def commentLines (text : String) : String :=
  String.ofList (text.toList.flatMap fun c => if c = '\n' then ['\n', '#', ' '] else [c])

/-- A description as comment lines, followed by the plugin that it comes from. -/
def renderDescription (spec : OptionSpec) : String :=
  if spec.description.isEmpty then ""
  else
    let owner := match spec.owner with
      | some name => " (" ++ name ++ ")"
      | none => ""
    "# " ++ commentLines spec.description ++ owner ++ "\n"

/-- An option as comment lines and an empty line. -/
def renderSpec (spec : OptionSpec) : String :=
  let value := match spec.default with
    | some default => default.render
    | none => ""
  renderDescription spec ++ "# " ++ spec.name ++ " = " ++ value ++ "\n\n"

/-- A commented listing of every option and its default. -/
def render (s : Schema) : String := String.join (s.specs.map renderSpec)

end Schema

end PluginHost
