import PluginHost.Codec.Text
import PluginHost.Config.Basic
import PluginHost.Heartbeat.Heartbeat

set_option autoImplicit false

namespace PluginHost

def FailureKind.codec : Codec FailureKind :=
  .choice "ErrorKind" (FailureKind.all.map fun k => (k.name, k)) FailureKind.name

def Codec.signedWord : Codec Int := .int "i64" Number.minInt Number.maxInt

namespace Script

/-- How values of a type are read, from a value or a text, and brought into their normal form. -/
structure ValueType where
  ofJson : Json → Except ReadFault Json
  ofText : String → Except ReadError Json

namespace ValueType

def of {α : Type} (c : Codec α) : ValueType :=
  ⟨c.normalize, fun text => (c.parse text).map c.write⟩

def all : List (String × ValueType) :=
  [("bool", of .bool), ("u8", of (.int "u8" 0 255)), ("u64", of .word), ("usize", of .count),
    ("i32", of (.int "i32" (-2147483648) 2147483647)), ("i64", of .signedWord),
    ("f64", of .float), ("string", of .string), ("char", of .char), ("unit", of .unit),
    ("vec_string", of (.list .string)), ("vec_u64", of (.list .word)),
    ("opt_u64", of (.optional .word)), ("map_i64", of (.table .signedWord)),
    ("pair", of (.pair .signedWord .string)), ("value", of .any),
    ("kind", of FailureKind.codec), ("mode", of PolicyChoice.codec),
    ("format", of LogFormat.codec), ("config", of Config.codec), ("beat", of Beat.codec)]

def named (name : String) : Except String ValueType :=
  match Members.find? name all with
  | some type => .ok type
  | none => .error ("no type " ++ name)

end ValueType

end Script

end PluginHost
