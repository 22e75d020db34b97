import PluginHost.Json.Cursor

set_option autoImplicit false

namespace PluginHost.Json

namespace Cursor

/-- Whether a list goes on, behind its opening bracket or behind an item. -/
def nextItem (first : Bool) (c : Cursor) : Reading Bool :=
  let c := c.skipBlanks
  match c.rest with
  | [] => c.fail .endInList
  | ']' :: _ => .ok (false, c)
  | char :: _ =>
    if first then .ok (true, c)
    else if char = ',' then
      let c := (c.skip 1).skipBlanks
      match c.rest with
      | [] => c.fail .endInValue
      | ']' :: _ => c.failNext .trailingComma
      | _ => .ok (true, c)
    else c.failNext .expectedListEnd

/-- Whether an object goes on, behind its opening brace or behind a member. -/
def nextKey (first : Bool) (c : Cursor) : Reading Bool :=
  let c := c.skipBlanks
  match c.rest with
  | [] => c.fail .endInObject
  | '\x7d' :: _ => .ok (false, c)
  | char :: _ =>
    if first then
      if char = '"' then .ok (true, c) else c.failNext .keyNotString
    else if char = ',' then
      let c := (c.skip 1).skipBlanks
      match c.rest with
      | [] => c.fail .endInValue
      | '"' :: _ => .ok (true, c)
      | '\x7d' :: _ => c.failNext .trailingComma
      | _ => c.failNext .keyNotString
    else c.failNext .expectedObjectEnd

/-- The end of a list, where nothing but blanks may come before the bracket. -/
def closeList (c : Cursor) : Except ReadError Cursor :=
  let c := c.skipBlanks
  match c.rest with
  | [] => c.fail .endInList
  | ']' :: _ => .ok (c.skip 1)
  | ',' :: _ =>
    let c := (c.skip 1).skipBlanks
    match c.rest with
    | ']' :: _ => c.failNext .trailingComma
    | _ => c.failNext .trailingCharacters
  | _ => c.failNext .trailingCharacters

/-- The end of an object. -/
def closeObject (c : Cursor) : Except ReadError Cursor :=
  let c := c.skipBlanks
  match c.rest with
  | [] => c.fail .endInObject
  | '\x7d' :: _ => .ok (c.skip 1)
  | ',' :: _ => c.failNext .trailingComma
  | _ => c.failNext .trailingCharacters

def colon (c : Cursor) : Except ReadError Cursor :=
  let c := c.skipBlanks
  match c.rest with
  | [] => c.fail .endInObject
  | ':' :: _ => .ok (c.skip 1)
  | _ => c.failNext .expectedColon

/-- The items of a list up to its bracket. Every round takes a character at least, so the number of
characters left bounds the rounds. -/
def items {α : Type} (item : Cursor → Reading α) : Nat → Bool → List α → Cursor → Reading (List α)
  | 0, _, _, c => c.fail .endInList
  | fuel + 1, first, found, c =>
    match nextItem first c with
    | .error e => .error e
    | .ok (false, c) => .ok (found.reverse, c)
    | .ok (true, c) =>
      match item c with
      | .error e => .error e
      | .ok (value, c) => items item fuel false (value :: found) c

/-- The members of an object up to its brace. -/
def members {α : Type} (value : Cursor → Reading α) :
    Nat → Bool → Members α → Cursor → Reading (Members α)
  | 0, _, _, c => c.fail .endInObject
  | fuel + 1, first, found, c =>
    match nextKey first c with
    | .error e => .error e
    | .ok (false, c) => .ok (found, c)
    | .ok (true, c) =>
      match string (c.skip 1) with
      | .error e => .error e
      | .ok (key, c) =>
        match colon c with
        | .error e => .error e
        | .ok c =>
          match value c with
          | .error e => .error e
          | .ok (v, c) => members value fuel false (found.insert key v) c

/-- A whole list behind its opening bracket. -/
def list {α : Type} (item : Cursor → Reading α) (c : Cursor) : Reading (List α) :=
  match items item (c.rest.length + 1) true [] c with
  | .error e => .error e
  | .ok (found, c) =>
    match closeList c with
    | .error e => .error e
    | .ok c => .ok (found, c)

/-- A whole object behind its opening brace. -/
def object {α : Type} (value : Cursor → Reading α) (c : Cursor) : Reading (Members α) :=
  match members value (c.rest.length + 1) true [] c with
  | .error e => .error e
  | .ok (found, c) =>
    match closeObject c with
    | .error e => .error e
    | .ok c => .ok (found, c)

/-- A word whose first letter is next. -/
def literal (letters : String) (result : Json) (c : Cursor) : Reading Json :=
  match (c.skip 1).word letters.toList with
  | .error e => .error e
  | .ok c => .ok (result, c)

def numberJson (positive : Bool) (c : Cursor) : Reading Json :=
  match number positive c with
  | .error e => .error e
  | .ok (token, c) => .ok (token.toJson, c)

/-- Any value. `depth` is how many containers may still be opened. -/
def value : Nat → Cursor → Reading Json
  | depth, c =>
    let c := c.skipBlanks
    match c.rest with
    | [] => c.fail .endInValue
    | 'n' :: _ => literal "ull" .null c
    | 't' :: _ => literal "rue" (.bool true) c
    | 'f' :: _ => literal "alse" (.bool false) c
    | '-' :: _ => numberJson false (c.skip 1)
    | '"' :: _ =>
      match string (c.skip 1) with
      | .error e => .error e
      | .ok (s, c) => .ok (.string s, c)
    | '[' :: _ =>
      match depth with
      | 0 => c.failNext .tooDeep
      | depth + 1 =>
        match list (value depth) (c.skip 1) with
        | .error e => .error e
        | .ok (found, c) => .ok (.array found, c)
    | '\x7b' :: _ =>
      match depth with
      | 0 => c.failNext .tooDeep
      | depth + 1 =>
        match object (value depth) (c.skip 1) with
        | .error e => .error e
        | .ok (found, c) => .ok (.object found, c)
    | char :: _ => if char.isDigit then numberJson true c else c.failNext .expectedValue

/-- Nothing but blanks may be left. -/
def finish {α : Type} : Reading α → Except ReadError α
  | .error e => .error e
  | .ok (result, c) =>
    let c := c.skipBlanks
    match c.rest with
    | [] => .ok result
    | _ => c.failNext .trailingCharacters

end Cursor

/-- How many containers may be open at once. -/
def depthLimit : Nat := 127

/-- The value that a text stands for. -/
def parse (text : String) : Except ReadError Json :=
  Cursor.finish (Cursor.value depthLimit (Cursor.ofString text))

end PluginHost.Json
