import PluginHost.Number.Reader
import PluginHost.Setting.Basic

set_option autoImplicit false

namespace PluginHost

/-- A step from a setting to one of its parts. A negative index counts from the end of a list. -/
inductive PathStep where
  | member (name : String)
  | item (index : Int)
deriving DecidableEq, Repr

abbrev Path := List PathStep

namespace Path

def isNameChar (c : Char) : Bool := c.isAlphanum || c = '_' || c = '-'

/-- The index in brackets, behind the opening one, and what follows. -/
def readIndex (chars : List Char) : Option (Int × List Char) :=
  let inside := chars.takeWhile (· ≠ ']')
  match inside, chars.drop inside.length with
  | '+' :: _, _ => none
  | _, _ :: rest => (Number.readInt Number.minInt Number.maxInt inside).map fun n => (n, rest)
  | _, [] => none

/-- The steps behind a first name. Every round takes a character at least. -/
def readSteps : Nat → List Char → Option Path
  | _, [] => some []
  | 0, _ => none
  | fuel + 1, '.' :: chars =>
    let name := chars.takeWhile isNameChar
    if name.isEmpty then none
    else (readSteps fuel (chars.drop name.length)).map (.member (String.ofList name) :: ·)
  | fuel + 1, '[' :: chars =>
    match readIndex chars with
    | some (index, rest) => (readSteps fuel rest).map (.item index :: ·)
    | none => none
  | _, _ => none

/-- The path that a text spells: names with dots between them, and indices in brackets. -/
def read? (text : String) : Option Path := readSteps (text.length + 1) ('.' :: text.toList)

/-- A key as a path. One that spells no path is a name as it stands. -/
def ofKey (key : String) : Path := (read? key).getD [.member key]

/-- A path in words. -/
def describe : Path → String
  | [] => ""
  | .member name :: rest =>
    let dot := match rest with
      | .member _ :: _ => "."
      | _ => ""
    name ++ dot ++ describe rest
  | .item index :: rest =>
    let dot := match rest with
      | .member _ :: _ => "."
      | _ => ""
    "[" ++ toString index ++ "]" ++ dot ++ describe rest

end Path

namespace Setting

/-- Changes a member, after making a table of whatever is no table. -/
def changeMember (name : String) (change : Setting → Setting) (s : Setting) : Setting :=
  table (s.members.insert name (change ((s.members.find? name).getD empty))) none

/-- Changes an item. Items that are missing are made, at the beginning for a negative index. -/
def changeItem (index : Int) (change : Setting → Setting) (s : Setting) : Setting :=
  let items := s.items
  if 0 ≤ index then
    let place := index.toNat
    let items := items ++ List.replicate (place + 1 - items.length) empty
    list (items.modify place change) none
  else
    let fromEnd := index.natAbs
    let items := List.replicate (fromEnd - items.length) empty ++ items
    list (items.modify (items.length - fromEnd) change) none

/-- Changes the place that a path leads to. -/
def changeAt (change : Setting → Setting) : Path → Setting → Setting
  | [], s => change s
  | .member name :: rest, s => s.changeMember name (changeAt change rest)
  | .item index :: rest, s => s.changeItem index (changeAt change rest)

end Setting

end PluginHost
