import PluginHost.Text.Invisible

set_option autoImplicit false

namespace PluginHost.Text

/-- Every character that Unicode calls white space. -/
def isBlank (c : Char) : Bool :=
  let n := c.toNat
  (9 ≤ n && n ≤ 13) || n = 0x20 || n = 0x85 || n = 0xa0 || n = 0x1680 || (0x2000 ≤ n && n ≤ 0x200a) ||
    n = 0x2028 || n = 0x2029 || n = 0x202f || n = 0x205f || n = 0x3000

def dropBlanks (chars : List Char) : List Char := chars.dropWhile isBlank

def trim (s : String) : String :=
  String.ofList (dropBlanks (dropBlanks s.toList).reverse).reverse

/-- The lower case of a character that has one in ASCII; the sign for kelvin is one of them. -/
def lowerChar (c : Char) : Char := if c = '\u212a' then 'k' else c.toLower

def lowered (s : String) : String := String.ofList (s.toList.map lowerChar)

/-- The text before and after the first place where a character stands. -/
def splitAtFirst (c : Char) (s : String) : Option (String × String) :=
  match s.toList.dropWhile (· ≠ c) with
  | [] => none
  | _ :: rest => some (String.ofList (s.toList.takeWhile (· ≠ c)), String.ofList rest)

def hexadecimal (n : Nat) : String := String.ofList (Nat.toDigits 16 n)

def quotedChar (c : Char) : String :=
  match c with
  | '"' => "\\\""
  | '\\' => "\\\\"
  | '\n' => "\\n"
  | '\r' => "\\r"
  | '\t' => "\\t"
  | '\x00' => "\\0"
  | _ => if isInvisible c then "\\u\x7b" ++ hexadecimal c.toNat ++ "\x7d" else c.toString

def quoted (s : String) : String :=
  s.toList.foldl (fun text c => text ++ quotedChar c) "\"" ++ "\""

/-- Names in brackets, in their order. -/
def quotedList (names : List String) : String :=
  "[" ++ ", ".intercalate (names.map quoted) ++ "]"

/-- A name that may be absent. -/
def quotedOption : Option String → String
  | none => "None"
  | some name => "Some(" ++ quoted name ++ ")"

end PluginHost.Text
