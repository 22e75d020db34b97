import PluginHost.Json.Basic

set_option autoImplicit false

namespace PluginHost

inductive Toml where
  | bool (value : Bool)
  /-- An integer from `-2 ^ 63` to below `2 ^ 63`. -/
  | int (value : Int)
  /-- Any float, the infinities and what is not a number included. -/
  | float (value : Float)
  | text (value : String)
  /-- A date, a time or both, as it is written after normalization. -/
  | time (written : String)
  | list (items : List Toml)
  | table (members : List (String × Toml))

namespace Toml

/-- What kind of value this is, in words. -/
def typeName : Toml → String
  | bool _ => "boolean"
  | int _ => "integer"
  | float _ => "float"
  | text _ => "string"
  | time _ => "datetime"
  | list _ => "array"
  | table _ => "inline table"

end Toml

inductive TomlFault where
  | unclosedTable
  | unclosedTableList
  | emptyKey
  | invalidKey
  | missingEquals
  | notValue
  | duplicateKey
  | notExtensible (type : String)
  | trailing
  | unclosedList
  | missingItemComma
  | unclosedInline
  | missingMemberComma
  | trailingMemberComma
  | inlineNewline
  | unclosedText
  | unclosedLiteral
  | invalidEscape
  | invalidCodePoint
  | controlCharacter
  | invalidNumber
  | integerOverflow
  | floatOverflow
  | tooDeep
deriving DecidableEq, Repr

namespace TomlFault

/-- What an unquoted key is made of. -/
def keyCharacters : String := "expected letters, numbers, `-`, `_`"

def message : TomlFault → String
  | unclosedTable => "unclosed table, expected `]`"
  | unclosedTableList => "unclosed array table, expected `]]`"
  | emptyKey => "unquoted keys cannot be empty, " ++ keyCharacters
  | invalidKey => "invalid unquoted key, " ++ keyCharacters
  | missingEquals => "key with no value, expected `=`"
  | notValue => "string values must be quoted, expected literal string"
  | duplicateKey => "duplicate key"
  | notExtensible type => "cannot extend value of type " ++ type ++ " with a dotted key"
  | trailing => "unexpected key or value, expected newline, `#`"
  | unclosedList => "unclosed array, expected `]`"
  | missingItemComma => "missing comma between array elements, expected `,`"
  | unclosedInline => "unclosed inline table, expected `\x7d`"
  | missingMemberComma => "missing comma between key-value pairs, expected `,`"
  | trailingMemberComma => "trailing commas are not supported in inline tables, expected nothing"
  | inlineNewline => "newlines are unsupported in inline tables, expected nothing"
  | unclosedText => "invalid basic string, expected `\"`"
  | unclosedLiteral => "invalid literal string, expected `'`"
  | invalidEscape =>
    "missing escaped value, expected `b`, `f`, `n`, `r`, `\\`, `\"`, `u`, `U`"
  | invalidCodePoint => "invalid value, expected unicode hexadecimal value"
  | controlCharacter => "invalid character, expected no control characters"
  | invalidNumber => "invalid number"
  | integerOverflow => "integer number overflowed"
  | floatOverflow => "floating-point number overflowed"
  | tooDeep => "cannot recurse further; max recursion depth met"

end TomlFault

/-- A fault and the characters it is at: the number of the first one, and how many there are. -/
structure TomlError where
  fault : TomlFault
  start : Nat
  length : Nat
deriving DecidableEq, Repr

namespace TomlError

/-- The line and the column of a character, both counted from zero. -/
def position : List Char → Nat → Nat × Nat → Nat × Nat
  | _, 0, place => place
  | [], _, place => place
  | '\n' :: chars, n + 1, (line, _) => position chars n (line + 1, 0)
  | _ :: chars, n + 1, (line, column) => position chars n (line, column + 1)

/-- The fault with its line, and a mark under its characters. -/
def message (e : TomlError) (text : String) : String :=
  let (line, column) := position text.toList e.start (0, 0)
  let number := toString (line + 1)
  let content := (text.splitOn "\n").getD line ""
  let gutter := "".pushn ' ' (number.length + 1) ++ "|"
  let marks := "^".pushn '^' (min e.length content.length - 1)
  "TOML parse error at line " ++ number ++ ", column " ++ toString (column + 1) ++ "\n"
    ++ gutter ++ "\n"
    ++ number ++ " | " ++ content ++ "\n"
    ++ gutter ++ " ".pushn ' ' column ++ marks ++ "\n"
    ++ e.fault.message ++ "\n"

end TomlError

end PluginHost
