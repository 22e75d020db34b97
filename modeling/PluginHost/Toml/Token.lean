import PluginHost.Number.Reader
import PluginHost.Toml.Basic

set_option autoImplicit false

namespace PluginHost.Toml

/-- The rest of a text, and how many characters come before it. -/
structure Cursor where
  rest : List Char
  place : Nat
deriving Repr

abbrev Reading (α : Type) := Except TomlError (α × Cursor)

namespace Cursor

def ofString (text : String) : Cursor :=
  match text.toList with
  | '\ufeff' :: rest => ⟨rest, 1⟩
  | rest => ⟨rest, 0⟩

def skip (c : Cursor) (count : Nat) : Cursor := ⟨c.rest.drop count, c.place + count⟩

/-- A fault of the next characters. -/
def failAt {α : Type} (c : Cursor) (length : Nat) (fault : TomlFault) : Except TomlError α :=
  .error ⟨fault, c.place, length⟩

def fail {α : Type} (c : Cursor) (fault : TomlFault) : Except TomlError α := c.failAt 0 fault

/-- The first characters of the rest that all have a property. -/
def run (p : Char → Bool) (c : Cursor) : List Char := c.rest.takeWhile p

def skipBlanks (c : Cursor) : Cursor := c.skip (c.run fun char => char = ' ' || char = '\t').length

/-- Whether a character may not stand in a text as it is. -/
def isControl (char : Char) : Bool :=
  (char.toNat < 0x20 && char ≠ '\t') || char.toNat = 0x7f

/-- Moves over a line end, if there is one. -/
def lineEnd? (c : Cursor) : Option Cursor :=
  match c.rest with
  | '\n' :: _ => some (c.skip 1)
  | '\r' :: '\n' :: _ => some (c.skip 2)
  | _ => none

/-- Skips blanks and a comment up to the end of the line. -/
def skipComment (c : Cursor) : Except TomlError Cursor :=
  let c := c.skipBlanks
  match c.rest with
  | '#' :: _ =>
    let c := c.skip (c.run fun char => char = '\t' || !isControl char).length
    match c.rest, c.lineEnd? with
    | [], _ | _, some _ => .ok c
    | _, none => c.fail .controlCharacter
  | _ => .ok c

/-- Skips blanks, comments and line ends; every round takes a line end at least. -/
def skipLines : Nat → Cursor → Except TomlError Cursor
  | 0, c => .ok c
  | fuel + 1, c =>
    match c.skipComment with
    | .error e => .error e
    | .ok c =>
      match c.lineEnd? with
      | some c => skipLines fuel c
      | none => .ok c

/-- Skips all that may stand between values in a list. -/
def skipSpace (c : Cursor) : Except TomlError Cursor := skipLines (c.rest.length + 1) c

def hexDigit? (char : Char) : Option Nat :=
  if char.isDigit then some (char.toNat - '0'.toNat)
  else if 'a' ≤ char ∧ char ≤ 'f' then some (char.toNat - 'a'.toNat + 10)
  else if 'A' ≤ char ∧ char ≤ 'F' then some (char.toNat - 'A'.toNat + 10)
  else none

def hexNumber? (chars : List Char) : Option Nat :=
  (chars.mapM hexDigit?).map fun digits => digits.foldl (fun n d => n * 16 + d) 0

/-- The character whose number is given by a fixed count of hexadecimal digits. -/
def codePoint (count : Nat) (c : Cursor) : Reading Char :=
  let digits := c.rest.take count
  if digits.length < count then c.fail .invalidCodePoint
  else
    match hexNumber? digits with
    | none => c.fail .invalidCodePoint
    | some n => if n.isValidChar then .ok (Char.ofNat n, c.skip count) else c.fail .invalidCodePoint

/-- The character that an escape stands for, behind its backslash. -/
def escape (c : Cursor) : Reading Char :=
  match c.rest with
  | 'b' :: _ => .ok ('\x08', c.skip 1)
  | 't' :: _ => .ok ('\t', c.skip 1)
  | 'n' :: _ => .ok ('\n', c.skip 1)
  | 'f' :: _ => .ok ('\x0c', c.skip 1)
  | 'r' :: _ => .ok ('\r', c.skip 1)
  | '"' :: _ => .ok ('"', c.skip 1)
  | '\\' :: _ => .ok ('\\', c.skip 1)
  | 'u' :: _ => codePoint 4 (c.skip 1)
  | 'U' :: _ => codePoint 8 (c.skip 1)
  | _ => c.fail .invalidEscape

/-- How a string is written: which quote it has, whether escapes count, and whether it may go on
over lines. -/
structure Style where
  quote : Char
  escapes : Bool
  lines : Bool

def Style.unclosed (style : Style) : TomlFault :=
  if style.escapes then .unclosedText else .unclosedLiteral

/-- Skips blanks and line ends. -/
def skipWhite (c : Cursor) : Cursor :=
  c.skip (c.run fun char => char = ' ' || char = '\t' || char = '\n' || char = '\r').length

/-- Behind a backslash: a backslash at the end of a line takes away the line end and all blanks
behind it. -/
def joinedLine? (c : Cursor) : Option Cursor :=
  c.skipBlanks.lineEnd?.map fun c => c.skipWhite

/-- The characters of a string up to its closing quotes, last one first. Three quotes close one that
may go on over lines; up to two more in front of them belong to it. -/
def stringChars (style : Style) : Nat → List Char → Cursor → Reading (List Char)
  | 0, _, c => c.fail style.unclosed
  | fuel + 1, chars, c =>
    match c.rest with
    | [] => c.fail style.unclosed
    | char :: _ =>
      if char = style.quote then
        let quotes := (c.run (· = style.quote)).length
        if !style.lines then .ok (chars, c.skip 1)
        else if quotes < 3 then
          stringChars style fuel (List.replicate quotes style.quote ++ chars) (c.skip quotes)
        else
          let inside := min (quotes - 3) 2
          .ok (List.replicate inside style.quote ++ chars, c.skip (inside + 3))
      else if char = '\\' && style.escapes then
        match (if style.lines then joinedLine? (c.skip 1) else none) with
        | some c => stringChars style fuel chars c
        | none =>
          match escape (c.skip 1) with
          | .ok (char, c) => stringChars style fuel (char :: chars) c
          | .error e => .error e
      else
        match c.lineEnd? with
        | some next =>
          if style.lines then
            stringChars style fuel ((c.rest.take (next.place - c.place)).reverse ++ chars) next
          else c.fail style.unclosed
        | none =>
          if isControl char then c.fail .controlCharacter
          else stringChars style fuel (char :: chars) (c.skip 1)

/-- A string behind its opening quotes. Every round takes a character at least. -/
def stringBody (style : Style) (c : Cursor) : Reading String :=
  match stringChars style (c.rest.length + 1) [] c with
  | .ok (chars, c) => .ok (String.ofList chars.reverse, c)
  | .error e => .error e

/-- A string over lines, behind its opening quotes; a line end that comes first is not part of it. -/
def linesBody (style : Style) (c : Cursor) : Reading String := stringBody style (c.lineEnd?.getD c)

/-- A string of any style, if one begins here. -/
def string? (c : Cursor) : Option (Reading String) :=
  match c.rest with
  | '"' :: '"' :: '"' :: _ => some (linesBody ⟨'"', true, true⟩ (c.skip 3))
  | '"' :: _ => some (stringBody ⟨'"', true, false⟩ (c.skip 1))
  | '\'' :: '\'' :: '\'' :: _ => some (linesBody ⟨'\'', false, true⟩ (c.skip 3))
  | '\'' :: _ => some (stringBody ⟨'\'', false, false⟩ (c.skip 1))
  | _ => none

def isKeyChar (char : Char) : Bool := char.isAlphanum || char = '-' || char = '_'

/-- Whether a character ends an unquoted token. -/
def endsToken (char : Char) : Bool :=
  char = ' ' || char = '\t' || char = '\n' || char = '\r' || char = '#' || char = ',' || char = '=' ||
    char = '[' || char = ']' || char = '\x7b' || char = '\x7d'

def keyPart (c : Cursor) : Reading String :=
  match c.rest with
  | '"' :: _ => stringBody ⟨'"', true, false⟩ (c.skip 1)
  | '\'' :: _ => stringBody ⟨'\'', false, false⟩ (c.skip 1)
  | _ =>
    let token := c.run fun char => !endsToken char && char ≠ '.'
    if token.isEmpty then c.fail .emptyKey
    else if token.all isKeyChar then .ok (String.ofList token, c.skip token.length)
    else (c.skip (token.takeWhile isKeyChar).length).fail .invalidKey

/-- The parts of a key with dots between them; every round takes a dot at least. -/
def keyParts : Nat → List String → Cursor → Reading (List String)
  | 0, parts, c => .ok (parts.reverse, c)
  | fuel + 1, parts, c =>
    match keyPart c.skipBlanks with
    | .error e => .error e
    | .ok (part, c) =>
      let c := c.skipBlanks
      match c.rest with
      | '.' :: _ => keyParts fuel (part :: parts) (c.skip 1)
      | _ => .ok ((part :: parts).reverse, c)

def key (c : Cursor) : Reading (List String) := keyParts (c.rest.length + 1) [] c

/-- Digits with single underscores between them, without the underscores. -/
def joinedDigits (isDigit : Char → Bool) : List Char → Option (List Char)
  | [] => none
  | [d] => if isDigit d then some [d] else none
  | d :: '_' :: rest => if isDigit d then (joinedDigits isDigit rest).map (d :: ·) else none
  | d :: rest => if isDigit d then (joinedDigits isDigit rest).map (d :: ·) else none

/-- Digits of a base behind the letter for it. -/
def basedNumber? (base : Nat) (digits : List Char) : Option Nat :=
  let inBase (char : Char) : Bool := (hexDigit? char).any (· < base)
  (joinedDigits inBase digits).map fun digits =>
    digits.foldl (fun n char => n * base + (hexDigit? char).getD 0) 0

/-- Decimal digits that do not begin with a needless zero. -/
def wholeDigits? (chars : List Char) : Option (List Char) :=
  match joinedDigits Char.isDigit chars with
  | some ('0' :: _ :: _) => none
  | digits => digits

def integer? (chars : List Char) : Option Int :=
  match chars with
  | '0' :: 'x' :: digits => (basedNumber? 16 digits).map Int.ofNat
  | '0' :: 'o' :: digits => (basedNumber? 8 digits).map Int.ofNat
  | '0' :: 'b' :: digits => (basedNumber? 2 digits).map Int.ofNat
  | _ =>
    let (negative, digits) := Number.splitSign chars
    (wholeDigits? digits).map fun digits =>
      let n : Int := Number.ofDigits digits
      if negative then -n else n

/-- The exponent of a float, behind its letter. -/
def floatExponent? (chars : List Char) : Option Int :=
  let (negative, digits) := Number.splitSign chars
  (joinedDigits Char.isDigit digits).map fun digits =>
    let n : Int := Number.ofDigits digits
    if negative then -n else n

/-- A float without its sign: whole digits and then a fraction, an exponent, or both. -/
def decimal? (chars : List Char) : Option Number.Decimal :=
  let isMark (char : Char) : Bool := char = 'e' || char = 'E'
  let mantissa := chars.takeWhile fun char => !isMark char
  let whole := mantissa.takeWhile (· ≠ '.')
  let fraction? := match mantissa.drop whole.length with
    | _ :: fraction => joinedDigits Char.isDigit fraction
    | [] => some []
  let exponent? := match chars.drop mantissa.length with
    | _ :: exponent => floatExponent? exponent
    | [] => some 0
  match wholeDigits? whole, fraction?, exponent? with
  | some whole, some fraction, some exponent =>
    some ⟨Number.ofDigits (whole ++ fraction), exponent - fraction.length⟩
  | _, _, _ => none

/-- A float, with the size of an infinity if it is too large. -/
def float? (chars : List Char) : Option (Float × Bool) :=
  let (negative, rest) := Number.splitSign chars
  let signed (x : Float) : Float := if negative then -x else x
  match rest with
  | ['i', 'n', 'f'] => some (signed (1.0 / 0.0), true)
  | ['n', 'a', 'n'] => some (signed (0.0 / 0.0), true)
  | _ => (decimal? rest).map fun d => (signed d.toFloat, !d.toFloat.isInf)

def pair? (bound : Nat) : List Char → Option (List Char × List Char)
  | a :: b :: rest =>
    if a.isDigit && b.isDigit && Number.ofDigits [a, b] < bound then some ([a, b], rest) else none
  | _ => none

/-- The fraction of a second to nine digits, without zeros at its end. -/
def fraction? : List Char → Option (List Char × List Char)
  | '.' :: rest =>
    let digits := rest.takeWhile Char.isDigit
    if digits.isEmpty then none
    else
      let kept := ((digits.take 9).reverse.dropWhile (· = '0')).reverse
      some (if kept.isEmpty then [] else '.' :: kept, rest.drop digits.length)
  | rest => some ([], rest)

def timeOfDay? (chars : List Char) : Option (List Char × List Char) := do
  let (hour, rest) ← pair? 24 chars
  let (minute, rest) ← pair? 60 (← colon? rest)
  let (second, rest) ← pair? 61 (← colon? rest)
  let (fraction, rest) ← fraction? rest
  pure (hour ++ ':' :: minute ++ ':' :: second ++ fraction, rest)
where
  colon? : List Char → Option (List Char)
    | ':' :: rest => some rest
    | _ => none

def offset? : List Char → Option (List Char)
  | [] => some []
  | ['Z'] | ['z'] => some ['Z']
  | sign :: rest =>
    if sign = '+' ∨ sign = '-' then
      match pair? 24 rest with
      | some (hour, ':' :: rest) =>
        match pair? 60 rest with
        | some (minute, []) => some (sign :: hour ++ ':' :: minute)
        | _ => none
      | _ => none
    else none

def daysIn (year month : Nat) : Nat :=
  if month = 2 then
    if year % 4 = 0 ∧ (year % 100 ≠ 0 ∨ year % 400 = 0) then 29 else 28
  else if month = 4 ∨ month = 6 ∨ month = 9 ∨ month = 11 then 30
  else 31

def date? (chars : List Char) : Option (List Char × List Char) :=
  let year := chars.take 4
  if year.length = 4 ∧ year.all Char.isDigit then
    match chars.drop 4 with
    | '-' :: rest =>
      match pair? 13 rest with
      | some (month, '-' :: rest) =>
        match pair? 32 rest with
        | some (day, rest) =>
          let m := Number.ofDigits month
          let d := Number.ofDigits day
          if 1 ≤ m ∧ 1 ≤ d ∧ d ≤ daysIn (Number.ofDigits year) m then
            some (year ++ '-' :: month ++ '-' :: day, rest)
          else none
        | none => none
      | _ => none
    | _ => none
  else none

/-- A date, a time, or both with or without a distance from universal time. -/
def time? (chars : List Char) : Option String :=
  match date? chars with
  | some (date, []) => some (String.ofList date)
  | some (date, mark :: rest) =>
    if mark = 'T' ∨ mark = 't' ∨ mark = ' ' then
      match timeOfDay? rest with
      | some (clock, rest) => (offset? rest).map fun offset =>
          String.ofList (date ++ 'T' :: clock ++ offset)
      | none => none
    else none
  | none =>
    match timeOfDay? chars with
    | some (clock, []) => some (String.ofList clock)
    | _ => none

/-- Whether a token is a date that a time may follow behind a blank. -/
def awaitsTime (token rest : List Char) : Bool :=
  (date? token).any (fun d => d.2.isEmpty) &&
    match rest with
    | ' ' :: a :: b :: ':' :: _ => a.isDigit && b.isDigit
    | _ => false

/-- The characters of an unquoted value. -/
def token (c : Cursor) : List Char :=
  let chars := c.run fun char => !endsToken char
  let rest := c.rest.drop chars.length
  if awaitsTime chars rest then
    chars ++ ' ' :: (rest.drop 1).takeWhile fun char => !endsToken char
  else chars

def scalar (c : Cursor) : Reading Toml :=
  match c.string? with
  | some (.ok (content, c)) => .ok (.text content, c)
  | some (.error e) => .error e
  | none =>
    let chars := c.token
    let next := c.skip chars.length
    let fault {α : Type} (fault : TomlFault) : Except TomlError α := c.failAt chars.length fault
    match String.ofList chars with
    | "true" => .ok (.bool true, next)
    | "false" => .ok (.bool false, next)
    | _ =>
      match integer? chars, float? chars, time? chars with
      | some n, _, _ =>
        if Number.minInt ≤ n ∧ n ≤ Number.maxInt then .ok (.int n, next)
        else fault .integerOverflow
      | _, some (x, fits), _ => if fits then .ok (.float x, next) else fault .floatOverflow
      | _, _, some written => .ok (.time written, next)
      | none, none, none =>
        match chars with
        | char :: _ =>
          if char.isDigit || char = '+' || char = '-' then fault .invalidNumber else fault .notValue
        | [] => fault .notValue

end Cursor

end PluginHost.Toml
