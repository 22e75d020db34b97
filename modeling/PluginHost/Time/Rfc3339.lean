import PluginHost.Number.Reader
import PluginHost.Text.Basic
import PluginHost.Time.Instant

set_option autoImplicit false

namespace PluginHost.Time

/-- Why a text is no date and time. -/
inductive TimeFault where
  | tooShort
  | invalid
  | outOfRange
  | tooLong
  | impossible
deriving DecidableEq, Repr

namespace TimeFault

def message : TimeFault → String
  | tooShort => "premature end of input"
  | invalid => "input contains invalid characters"
  | outOfRange => "input is out of range"
  | tooLong => "trailing input"
  | impossible => "no possible date and time matching input"

end TimeFault

/-- One to `most` digits; a value must fit 63 bits. -/
def number (most : Nat) (s : List Char) : Except TimeFault (Nat × List Char) :=
  match s with
  | [] => .error .tooShort
  | _ =>
    let digits := (s.take most).takeWhile Char.isDigit
    if digits.isEmpty then .error .invalid
    else if Number.ofDigits digits > Number.maxInt then .error .outOfRange
    else .ok (Number.ofDigits digits, s.drop digits.length)

/-- A number of at most two digits between two bounds. -/
def bounded (low high : Nat) (s : List Char) : Except TimeFault (Nat × List Char) :=
  match number 2 (Text.dropBlanks s) with
  | .error e => .error e
  | .ok (n, s) => if low ≤ n ∧ n ≤ high then .ok (n, s) else .error .outOfRange

def year (s : List Char) : Except TimeFault (Int × List Char) :=
  let fit (n : Int) (s : List Char) : Except TimeFault (Int × List Char) :=
    if -2147483648 ≤ n ∧ n ≤ 2147483647 then .ok (n, s) else .error .outOfRange
  match Text.dropBlanks s with
  | '-' :: s =>
    match number s.length s with
    | .error e => .error e
    | .ok (n, s) => fit (-(n : Int)) s
  | '+' :: s =>
    match number s.length s with
    | .error e => .error e
    | .ok (n, s) => fit n s
  | s =>
    match number 4 s with
    | .error e => .error e
    | .ok (n, s) => fit n s

def separator (c : Char) (s : List Char) : Except TimeFault (List Char) :=
  match Text.dropBlanks s with
  | [] => .error .tooShort
  | d :: s => if c = d then .ok s else .error .invalid

/-- Nanoseconds behind a point, from as many digits as there are; those after the ninth are
dropped. -/
def fraction (s : List Char) : Except TimeFault (Nat × List Char) :=
  match s with
  | '.' :: s =>
    match number 9 s with
    | .error e => .error e
    | .ok (n, rest) =>
      .ok (n * Nat.pow 10 (9 - (s.length - rest.length)), rest.dropWhile Char.isDigit)
  | s => .ok (0, s)

/-- Two digits that stand next, without looking further. -/
def pair? (s : List Char) : Except TimeFault (Char × Char) :=
  match s with
  | a :: b :: _ => .ok (a, b)
  | [a] => if a.utf8Size ≥ 2 then .ok (a, a) else .error .tooShort
  | [] => .error .tooShort

/-- The offset of a zone from universal time in seconds. -/
def offset (s : List Char) : Except TimeFault (Int × List Char) :=
  let signed (negative : Bool) (s : List Char) : Except TimeFault (Int × List Char) :=
    match pair? s with
    | .error e => .error e
    | .ok (h, i) =>
      if h.isDigit && i.isDigit then
        let hours := Number.ofDigits [h, i]
        let s := (s.drop 2).dropWhile fun c => c = ':' || Text.isBlank c
        match pair? s with
        | .error e => .error e
        | .ok (m, n) =>
          if '0' ≤ m && m ≤ '5' && n.isDigit then
            let seconds : Int := (hours * 3600 + Number.ofDigits [m, n] * 60 : Nat)
            .ok (if negative then -seconds else seconds, s.drop 2)
          else if m.isDigit && n.isDigit then .error .outOfRange
          else .error .invalid
      else .error .invalid
  match s with
  | [] => .error .tooShort
  | c :: rest =>
    if c = 'Z' || c = 'z' then .ok (0, rest)
    else if c = '+' then signed false rest
    else if c = '-' || c = '\u2212' then signed true rest
    else .error .invalid

/-- The zone: its offset, or the letters of universal time. -/
def zone (s : List Char) : Except TimeFault (Int × List Char) :=
  match s with
  | u :: t :: c :: rest =>
    if u.toLower = 'u' && t.toLower = 't' && c.toLower = 'c' then .ok (0, rest) else offset s
  | _ => offset s

/-- The local date and time with its offset. -/
structure Stamp where
  date : Date
  second : Nat
  nano : Nat
  offset : Int
deriving Repr

/-- The parts of a text in their order. -/
def stamp (s : List Char) : Except TimeFault (Stamp × List Char) := do
  let (year, s) ← year s
  let s ← separator '-' s
  let (month, s) ← bounded 1 12 s
  let s ← separator '-' s
  let (day, s) ← bounded 1 31 s
  let s ← match s with
    | c :: s => if c = 't' || c = 'T' || c = ' ' then .ok s else .error .invalid
    | [] => .error .tooShort
  let (hour, s) ← bounded 0 23 s
  let s ← separator ':' s
  let (minute, s) ← bounded 0 59 s
  let s ← separator ':' s
  let (second, s) ← bounded 0 60 s
  let (nano, s) ← fraction s
  let (offset, s) ← zone (Text.dropBlanks s)
  let leap := if second = 60 then 1000000000 else 0
  return (⟨⟨year, month, day⟩, hour * 3600 + minute * 60 + (if second = 60 then 59 else second),
    nano + leap, offset⟩, s)

/-- The instant of a stamp. Dates beyond the year 262142 are out of range. -/
def Stamp.toInstant (t : Stamp) : Except TimeFault Instant :=
  if ¬ (-262143 ≤ t.date.year ∧ t.date.year ≤ 262142) ∨ ¬ t.date.Valid then .error .outOfRange
  else if ¬ (-86400 < t.offset ∧ t.offset < 86400) then .error .outOfRange
  else
    let instant := (Instant.mk t.date.toDays t.second t.nano).minusOffset t.offset
    let year := (Date.ofDays instant.day).year
    if -262143 ≤ year ∧ year ≤ 262142 then .ok instant else .error .impossible

def parse (text : String) : Except TimeFault Instant := do
  let (t, rest) ← stamp text.toList
  if (Text.dropBlanks rest).isEmpty then t.toInstant else .error .tooLong

def padded (width n : Nat) : String :=
  let digits := toString n
  "".pushn '0' (width - digits.length) ++ digits

/-- Four digits, and a sign outside the years 0 to 9999. -/
def renderYear (year : Int) : String :=
  if 0 ≤ year ∧ year ≤ 9999 then padded 4 year.toNat
  else (if year < 0 then "-" else "+") ++ padded 4 year.natAbs

def renderFraction (nano : Nat) : String :=
  if nano = 0 then ""
  else if nano % 1000000 = 0 then "." ++ padded 3 (nano / 1000000)
  else if nano % 1000 = 0 then "." ++ padded 6 (nano / 1000)
  else "." ++ padded 9 nano

def render (i : Instant) : String :=
  let date := Date.ofDays i.day
  let leap := i.nano ≥ 1000000000
  renderYear date.year ++ "-" ++ padded 2 date.month ++ "-" ++ padded 2 date.day ++ "T" ++
    padded 2 (i.second / 3600) ++ ":" ++ padded 2 (i.second / 60 % 60) ++ ":" ++
    padded 2 (i.second % 60 + if leap then 1 else 0) ++
    renderFraction (if leap then i.nano - 1000000000 else i.nano) ++ "Z"

end PluginHost.Time
