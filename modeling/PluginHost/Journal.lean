import PluginHost.Number.Notation
import PluginHost.Text.Basic

set_option autoImplicit false

namespace PluginHost

/-- Importance of an event, the least first. -/
inductive Level where
  | trace
  | debug
  | info
  | warn
  | error
deriving DecidableEq, Repr

namespace Level

def rank : Level → Nat
  | trace => 0
  | debug => 1
  | info => 2
  | warn => 3
  | error => 4

def name : Level → String
  | trace => "TRACE"
  | debug => "DEBUG"
  | info => "INFO"
  | warn => "WARN"
  | error => "ERROR"

def all : List Level := [trace, debug, info, warn, error]

end Level

/-- The value of an event's field. -/
inductive FieldValue where
  | text (value : String)
  | number (value : Int)
deriving DecidableEq, Repr

def FieldValue.plain : FieldValue → String
  | .text value => value
  | .number value => toString value

/-- One thing that happened: where in the host, and with what. -/
structure Event where
  level : Level
  target : String
  message : String
  fields : List (String × FieldValue)
deriving DecidableEq, Repr

namespace Event

/-- One line: level, message, and the fields in their order. -/
def line (e : Event) : String :=
  e.fields.foldl (fun text field => text ++ " " ++ field.1 ++ "=" ++ field.2.plain)
    (e.level.name ++ " " ++ e.message)

end Event

/-- What happened, in order. -/
inductive Entry where
  | note (text : String)
  | event (event : Event)
deriving DecidableEq, Repr

/-- The journal lists the oldest entry first. -/
abbrev Journal := Array Entry

namespace Entry

/-- The text of an entry for a reader who wants events of some level and above. -/
def shown? (least : Level) : Entry → Option String
  | note text => some text
  | event e => if least.rank ≤ e.level.rank then some e.line else none

end Entry

end PluginHost
