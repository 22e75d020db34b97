import PluginHost.Json.Printer

set_option autoImplicit false

namespace PluginHost

/-- A fault of the text itself. -/
inductive TextFault where
  | endInValue
  | endInList
  | endInObject
  | endInString
  | expectedValue
  | expectedWord
  | expectedColon
  | expectedListEnd
  | expectedObjectEnd
  | keyNotString
  | trailingComma
  | trailingCharacters
  | invalidNumber
  | numberOutOfRange
  | invalidEscape
  | loneSurrogate
  | unfinishedSurrogate
  | controlCharacter
  | tooDeep
deriving DecidableEq, Repr

namespace TextFault

def message : TextFault → String
  | endInValue => "EOF while parsing a value"
  | endInList => "EOF while parsing a list"
  | endInObject => "EOF while parsing an object"
  | endInString => "EOF while parsing a string"
  | expectedValue => "expected value"
  | expectedWord => "expected ident"
  | expectedColon => "expected `:`"
  | expectedListEnd => "expected `,` or `]`"
  | expectedObjectEnd => "expected `,` or `\x7d`"
  | keyNotString => "key must be a string"
  | trailingComma => "trailing comma"
  | trailingCharacters => "trailing characters"
  | invalidNumber => "invalid number"
  | numberOutOfRange => "number out of range"
  | invalidEscape => "invalid escape"
  | loneSurrogate => "lone leading surrogate in hex escape"
  | unfinishedSurrogate => "unexpected end of hex escape"
  | controlCharacter => "control character (\\u0000-\\u001F) found while parsing a string"
  | tooDeep => "recursion limit exceeded"

end TextFault

/-- What stood where something else was expected. -/
inductive Found where
  | bool (value : Bool)
  | integer (value : Int)
  | float (value : Float)
  | string (value : String)
  | null
  | sequence
  | map

namespace Found

def describe : Found → String
  | bool b => "boolean `" ++ toString b ++ "`"
  | integer n => "integer `" ++ toString n ++ "`"
  | float x => "floating point `" ++ Number.render x ++ "`"
  | string s => "string " ++ Text.quoted s
  | null => "null"
  | sequence => "sequence"
  | map => "map"

def ofJson : Json → Found
  | .null => null
  | .bool b => bool b
  | .int n => integer n
  | .float x => float x
  | .string s => string s
  | .array _ => sequence
  | .object _ => map

end Found

inductive ReadFault where
  | text (fault : TextFault)
  | wrongType (found : Found) (expected : String)
  | wrongValue (found : Found) (expected : String)
  | wrongLength (length : Nat) (expected : String)
  | missingField (name : String)
  | duplicateField (name : String)
  | unknownVariant (name : String) (known : List String)
  | malformed (message : String)

namespace ReadFault

/-- The alternatives of a choice in words. -/
def alternatives : List String → String
  | [] => "there are no variants"
  | [a] => "expected `" ++ a ++ "`"
  | [a, b] => "expected `" ++ a ++ "` or `" ++ b ++ "`"
  | names => "expected one of " ++ ", ".intercalate (names.map fun name => "`" ++ name ++ "`")

def message : ReadFault → String
  | text fault => fault.message
  | wrongType found expected => "invalid type: " ++ found.describe ++ ", expected " ++ expected
  | wrongValue found expected => "invalid value: " ++ found.describe ++ ", expected " ++ expected
  | wrongLength n expected => "invalid length " ++ toString n ++ ", expected " ++ expected
  | missingField name => "missing field `" ++ name ++ "`"
  | duplicateField name => "duplicate field `" ++ name ++ "`"
  | unknownVariant name known => "unknown variant `" ++ name ++ "`, " ++ alternatives known
  | malformed message => message

end ReadFault

/-- A fault and, where a text was read, the line and the number of bytes consumed on it. -/
structure ReadError where
  fault : ReadFault
  place : Option (Nat × Nat)

namespace ReadError

def message (e : ReadError) : String :=
  match e.place with
  | none => e.fault.message
  | some (line, column) =>
    e.fault.message ++ " at line " ++ toString line ++ " column " ++ toString column

end ReadError

end PluginHost
