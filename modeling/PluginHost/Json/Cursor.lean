import PluginHost.Json.ReadError

set_option autoImplicit false

namespace PluginHost.Json

/-- The rest of a text and how far the reading has come. -/
structure Cursor where
  rest : List Char
  line : Nat
  column : Nat
deriving Repr

/-- What a reader of part of a text answers: a value and where it ends. -/
abbrev Reading (α : Type) := Except ReadError (α × Cursor)

namespace Cursor

def ofString (text : String) : Cursor := ⟨text.toList, 1, 0⟩

/-- Moves over one character. -/
def advance (c : Cursor) : Cursor :=
  match c.rest with
  | [] => c
  | '\n' :: rest => ⟨rest, c.line + 1, 0⟩
  | char :: rest => ⟨rest, c.line, c.column + char.utf8Size⟩

/-- The place after the next `count` bytes, or at the end of the text. -/
def placeAfter (c : Cursor) : Nat → Nat × Nat
  | 0 => (c.line, c.column)
  | count + 1 =>
    match c.rest with
    | [] => (c.line, c.column)
    | '\n' :: rest => placeAfter ⟨rest, c.line + 1, 0⟩ count
    | char :: rest =>
      if char.utf8Size ≤ count + 1 then
        placeAfter ⟨rest, c.line, c.column + char.utf8Size⟩ (count + 1 - char.utf8Size)
      else (c.line, c.column + (count + 1))
termination_by count => count
decreasing_by
  · omega
  · have := Char.utf8Size_pos char
    omega

/-- An error where the reading stands. -/
def fail {α : Type} (c : Cursor) (fault : TextFault) : Except ReadError α :=
  .error ⟨.text fault, some (c.line, c.column)⟩

/-- An error at the byte that comes next. -/
def failNext {α : Type} (c : Cursor) (fault : TextFault) : Except ReadError α :=
  .error ⟨.text fault, some (c.placeAfter 1)⟩

/-- Gives an error found in a value that was read the place where the reading stands. -/
def settle {α : Type} (c : Cursor) : Except ReadFault α → Except ReadError α
  | .ok value => .ok value
  | .error fault => .error ⟨fault, some (c.line, c.column)⟩

def isBlank (char : Char) : Bool := char = ' ' || char = '\n' || char = '\t' || char = '\r'

/-- Skips the characters of a list that is a beginning of the rest. -/
def skipBlanksIn : List Char → Cursor → Cursor
  | char :: chars, c => if isBlank char then skipBlanksIn chars c.advance else c
  | [], c => c

def skipBlanks (c : Cursor) : Cursor := skipBlanksIn c.rest c

/-- Reads the remaining letters of `null`, `true` or `false`. -/
def word : List Char → Cursor → Except ReadError Cursor
  | [], c => .ok c
  | letter :: letters, c =>
    match c.rest with
    | [] => c.fail .endInValue
    | char :: _ => if char = letter then word letters c.advance else c.failNext .expectedWord

/-- Moves over characters that are one byte long each and no line ends. -/
def skip (c : Cursor) (count : Nat) : Cursor := ⟨c.rest.drop count, c.line, c.column + count⟩

end Cursor

inductive NumberToken where
  | int (value : Int)
  | float (value : Float)

namespace NumberToken

def toJson : NumberToken → Json
  | int n => .int n
  | float x => .float x

def found : NumberToken → Found
  | int n => .integer n
  | float x => .float x

end NumberToken

/-- The digits at the beginning of a list. -/
def leadingDigits (chars : List Char) : List Char := chars.takeWhile Char.isDigit

/-- A number whose digits are gathered into 64 bits, times a power of ten. The digits are rounded
once and the product or quotient once more; a result that is too large is an error. -/
def scaleDecimal : Nat → Float → Int → Option Float
  | 0, x, _ => some x
  | fuel + 1, x, exponent =>
    if exponent.natAbs ≤ 308 then
      let power := Float.ofScientific 1 false exponent.natAbs
      if exponent ≥ 0 then
        let scaled := x * power
        if scaled.isInf then none else some scaled
      else some (x / power)
    else if x == 0.0 then some x
    else if exponent ≥ 0 then none
    else scaleDecimal fuel (x / Float.ofScientific 1 false 308) (exponent + 308)

namespace Cursor

/-- The float with the given sign, digits and exponent; the reading stands behind its last digit. -/
def finishFloat (c : Cursor) (positive : Bool) (significand : Nat) (exponent : Int) :
    Reading NumberToken :=
  match scaleDecimal 8 significand.toUInt64.toFloat exponent with
  | none => c.fail .numberOutOfRange
  | some x => .ok (.float (if positive then x else -x), c)

/-- Exponent digits, of which a value above `2 ^ 31 - 1` needs no further look. -/
def exponentDigits (positive up : Bool) (significand : Nat) (start : Int) :
    List Char → Nat → Cursor → Reading NumberToken
  | char :: chars, exponent, c =>
    if char.isDigit then
      let next := exponent * 10 + (char.toNat - '0'.toNat)
      if next > 2147483647 then
        if significand ≠ 0 ∧ up then (c.skip 1).fail .numberOutOfRange
        else .ok (.float (if positive then 0.0 else -0.0),
          (c.skip 1).skip (leadingDigits (c.skip 1).rest).length)
      else exponentDigits positive up significand start chars next (c.skip 1)
    else c.finishFloat positive significand (if up then start + exponent else start - exponent)
  | [], exponent, c =>
    c.finishFloat positive significand (if up then start + exponent else start - exponent)

/-- From the letter of an exponent on. -/
def exponent (positive : Bool) (significand : Nat) (start : Int) (c : Cursor) :
    Reading NumberToken :=
  let c := c.skip 1
  let (up, c) :=
    match c.rest with
    | '+' :: _ => (true, c.skip 1)
    | '-' :: _ => (false, c.skip 1)
    | _ => (true, c)
  match c.rest with
  | [] => c.fail .endInValue
  | char :: _ =>
    if char.isDigit then exponentDigits positive up significand start c.rest 0 c
    else c.failNext .invalidNumber

/-- What may follow the digits of a float: an exponent or nothing. -/
def afterDigits (positive : Bool) (significand : Nat) (start : Int) (c : Cursor) :
    Reading NumberToken :=
  match c.rest with
  | 'e' :: _ | 'E' :: _ => c.exponent positive significand start
  | _ => c.finishFloat positive significand start

/-- Digits after a point, gathered while they fit 64 bits and dropped from then on. -/
def fractionDigits (positive : Bool) : List Char → Nat → Int → Cursor → Reading NumberToken
  | char :: chars, significand, start, c =>
    if char.isDigit then
      let next := significand * 10 + (char.toNat - '0'.toNat)
      if next > Number.maxWord then
        (c.skip (leadingDigits (char :: chars)).length).afterDigits positive significand start
      else fractionDigits positive chars next (start - 1) (c.skip 1)
    else c.afterDigits positive significand start
  | [], significand, start, c => c.afterDigits positive significand start

/-- From the point on. -/
def fraction (positive : Bool) (significand : Nat) (start : Int) (c : Cursor) :
    Reading NumberToken :=
  let c := c.skip 1
  match c.rest with
  | [] => c.failNext .endInValue
  | char :: _ =>
    if char.isDigit then fractionDigits positive c.rest significand start c
    else c.failNext .invalidNumber

/-- Behind the integer digits: a fraction, an exponent, or the end of an integer. A negative zero
is a float, and so is an integer that is too small for a word with a sign. -/
def afterInteger (positive : Bool) (significand : Nat) (c : Cursor) : Reading NumberToken :=
  match c.rest with
  | '.' :: _ => c.fraction positive significand 0
  | 'e' :: _ | 'E' :: _ => c.exponent positive significand 0
  | _ =>
    if positive then .ok (.int significand, c)
    else if significand = 0 ∨ -(significand : Int) < Number.minInt then
      .ok (.float (-significand.toUInt64.toFloat), c)
    else .ok (.int (-(significand : Int)), c)

/-- Integer digits, gathered while they fit 64 bits; each one dropped counts as a power of ten. -/
def integerDigits (positive : Bool) : List Char → Nat → Cursor → Reading NumberToken
  | char :: chars, significand, c =>
    if char.isDigit then
      let next := significand * 10 + (char.toNat - '0'.toNat)
      if next > Number.maxWord then
        let dropped := (leadingDigits (char :: chars)).length
        let c := c.skip dropped
        match c.rest with
        | '.' :: _ => c.fraction positive significand dropped
        | 'e' :: _ | 'E' :: _ => c.exponent positive significand dropped
        | _ => c.finishFloat positive significand dropped
      else integerDigits positive chars next (c.skip 1)
    else c.afterInteger positive significand
  | [], significand, c => c.afterInteger positive significand

/-- A number behind its sign. No digit may follow a leading zero. -/
def number (positive : Bool) (c : Cursor) : Reading NumberToken :=
  match c.rest with
  | [] => c.fail .endInValue
  | '0' :: rest =>
    let c := c.skip 1
    match rest with
    | char :: _ =>
      if char.isDigit then c.failNext .invalidNumber else c.afterInteger positive 0
    | [] => c.afterInteger positive 0
  | char :: _ =>
    if char.isDigit then integerDigits positive c.rest 0 c else c.failNext .invalidNumber

def hexValue (char : Char) : Option Nat :=
  if char.isDigit then some (char.toNat - '0'.toNat)
  else if 'a' ≤ char ∧ char ≤ 'f' then some (char.toNat - 'a'.toNat + 10)
  else if 'A' ≤ char ∧ char ≤ 'F' then some (char.toNat - 'A'.toNat + 10)
  else none

/-- The number of bytes of a text, or `limit` if there are more. -/
def bytesUpTo (limit : Nat) : List Char → Nat
  | [] => 0
  | char :: chars => if limit ≤ char.utf8Size then limit else
      min limit (char.utf8Size + bytesUpTo (limit - char.utf8Size) chars)

/-- Four hexadecimal digits. Four bytes are taken whatever they are. -/
def hexEscape (c : Cursor) : Reading Nat :=
  if bytesUpTo 4 c.rest < 4 then
    .error ⟨.text .endInString, some (c.placeAfter 4)⟩
  else
    match (c.rest.take 4).map hexValue with
    | [some a, some b, some d, some e] => .ok (((a * 16 + b) * 16 + d) * 16 + e, c.skip 4)
    | _ => .error ⟨.text .invalidEscape, some (c.placeAfter 4)⟩

/-- The character named by the digits of an escape, two escapes for one beyond `0xffff`. -/
def unicodeEscape (c : Cursor) : Reading Char :=
  match hexEscape c with
  | .error e => .error e
  | .ok (high, c) =>
    if 0xdc00 ≤ high ∧ high ≤ 0xdfff then c.fail .loneSurrogate
    else if high < 0xd800 ∨ 0xdbff < high then .ok (Char.ofNat high, c)
    else
      match c.rest with
      | [] => c.fail .endInString
      | ['\\'] => (c.skip 1).fail .endInString
      | '\\' :: 'u' :: _ =>
        match hexEscape (c.skip 2) with
        | .error e => .error e
        | .ok (low, c) =>
          if low < 0xdc00 ∨ 0xdfff < low then c.fail .loneSurrogate
          else .ok (Char.ofNat ((high - 0xd800) * 0x400 + (low - 0xdc00) + 0x10000), c)
      | '\\' :: _ => (c.skip 1).failNext .unfinishedSurrogate
      | _ => c.failNext .unfinishedSurrogate

/-- The character that an escape stands for, behind its backslash. -/
def escape (c : Cursor) : Reading Char :=
  match c.rest with
  | [] => c.fail .endInString
  | '"' :: _ => .ok ('"', c.skip 1)
  | '\\' :: _ => .ok ('\\', c.skip 1)
  | '/' :: _ => .ok ('/', c.skip 1)
  | 'b' :: _ => .ok ('\x08', c.skip 1)
  | 'f' :: _ => .ok ('\x0c', c.skip 1)
  | 'n' :: _ => .ok ('\n', c.skip 1)
  | 'r' :: _ => .ok ('\r', c.skip 1)
  | 't' :: _ => .ok ('\t', c.skip 1)
  | 'u' :: _ => unicodeEscape (c.skip 1)
  | _ => c.failNext .invalidEscape

/-- The characters of a string up to its closing quote, last one first. -/
def stringChars : Nat → List Char → Cursor → Reading (List Char)
  | 0, _, c => c.fail .endInString
  | fuel + 1, chars, c =>
    match c.rest with
    | [] => c.fail .endInString
    | '"' :: _ => .ok (chars, c.skip 1)
    | '\\' :: _ =>
      match escape (c.skip 1) with
      | .ok (char, c) => stringChars fuel (char :: chars) c
      | .error e => .error e
    | char :: _ =>
      if char.toNat < 0x20 then c.failNext .controlCharacter
      else stringChars fuel (char :: chars) c.advance

/-- A string behind its opening quote. Every round takes a character at least. -/
def string (c : Cursor) : Reading String :=
  match stringChars (c.rest.length + 1) [] c with
  | .ok (chars, c) => .ok (String.ofList chars.reverse, c)
  | .error e => .error e

end Cursor

end PluginHost.Json
