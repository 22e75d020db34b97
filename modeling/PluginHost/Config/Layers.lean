import PluginHost.Config.Basic
import PluginHost.Json.Reader
import PluginHost.Setting.Decoding
import PluginHost.Setting.Environment
import PluginHost.Toml.Reader

set_option autoImplicit false

namespace PluginHost

/-- A format of configuration files: what names of files in it end in, and the members of the table
that a text in it holds, or why it holds none, given what the file is called. -/
structure FileFormat where
  ending : String
  read : String → String → Except String Layer

namespace FileFormat

def toml : FileFormat where
  ending := ".toml"
  read := fun origin text =>
    match Toml.parse text with
    | .ok members => .ok (Setting.membersOfToml origin members)
    | .error e => .error (e.message text)

def json : FileFormat where
  ending := ".json"
  read := fun origin text =>
    match Json.parse text with
    | .ok (.object members) => .ok (Setting.membersOfJson origin members)
    | .ok value =>
      let found := (Setting.ofJson origin value).found
      .error ("invalid type: " ++ found ++ ", expected a map in " ++ origin)
    | .error e => .error e.message

/-- The formats that a program can read without being given others. -/
def known : List FileFormat := [toml, json]

/-- The members of the table in a file, whose text may begin with a byte order mark. -/
def readFile (format : FileFormat) (origin text : String) : Except String Layer :=
  format.read origin (if text.startsWith "\ufeff" then (text.drop 1).toString else text)

end FileFormat

/-- A directory with configuration files: how it is called, what is in a file of it, how a file is
called where its settings are at fault, and the formats that files may have, in the order in which
they are looked for. -/
structure ConfigDirectory where
  name : String
  content? : String → Option String
  origin : String → String
  formats : List FileFormat := FileFormat.known

namespace ConfigDirectory

/-- The files that a name may stand for. -/
def candidates (formats : List FileFormat) (name : String) : List String :=
  name :: formats.map fun format => name ++ format.ending

/-- The way from one directory to a place, both given by the names on the way from the root. -/
def wayFrom : List String → List String → List String
  | [], place => place
  | base, [] => base.map fun _ => ".."
  | b :: base, p :: place =>
    if b = p then wayFrom base place else ((b :: base).map fun _ => "..") ++ p :: place

def names (way : String) : List String := (way.splitOn "/").filter fun n => n ≠ "" && n ≠ "."

/-- How a place is called by someone who works in a directory. -/
def shownFrom (base place : String) : String :=
  if place.startsWith "/" then "/".intercalate (wayFrom (names base) (names place))
  else "/".intercalate (names place)

/-- The file of some name, or else of that name with an ending that tells its format. A file whose
name is exact has to tell its format itself. -/
def find? (d : ConfigDirectory) (name : String) : Option (String × FileFormat × String) :=
  match d.content? name with
  | some text =>
    (d.formats.find? fun format => name.endsWith format.ending).map fun format =>
      (name, format, text)
  | none =>
    d.formats.findSome? fun format =>
      (d.content? (name ++ format.ending)).map fun text => (name ++ format.ending, format, text)

def layer (d : ConfigDirectory) (name : String) : Except Failure Layer :=
  match d.find? name with
  | none => .ok []
  | some (file, format, text) =>
    match format.readFile (d.origin file) text with
    | .ok layer => .ok layer
    | .error cause => .error (.unreadableConfiguration d.name (cause ++ " in " ++ d.origin file))

def load (d : ConfigDirectory) (deployment : String) (env : Environment) : Except Failure Config :=
  match d.layer "default" with
  | .error e => .error e
  | .ok base =>
    match d.layer deployment with
    | .error e => .error e
    | .ok overlay =>
      match Setting.read Config.codec (Layer.stack [base, overlay, env.layer]) with
      | .ok config => .ok config
      | .error e => .error (.invalidConfiguration e.message)

end ConfigDirectory

end PluginHost
