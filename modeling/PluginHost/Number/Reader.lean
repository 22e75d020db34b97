import PluginHost.Number.Shortest

set_option autoImplicit false

namespace PluginHost.Number

/-- The number that some digits spell. -/
def ofDigits (digits : List Char) : Nat :=
  digits.foldl (fun n c => n * 10 + (c.toNat - '0'.toNat)) 0

/-- Digits and nothing else, at least one. -/
def readNat (chars : List Char) : Option Nat :=
  if !chars.isEmpty && chars.all Char.isDigit then some (ofDigits chars) else none

/-- A sign, if there is one, and what follows. -/
def splitSign : List Char → Bool × List Char
  | '-' :: rest => (true, rest)
  | '+' :: rest => (false, rest)
  | chars => (false, chars)

/-- An integer between two bounds, with a sign or without. Where no negative number is allowed,
a minus sign is not allowed either. -/
def readInt (low high : Int) (chars : List Char) : Option Int :=
  let (negative, digits) := splitSign chars
  if negative && 0 ≤ low then none
  else
    match readNat digits with
    | none => none
    | some n =>
      let value : Int := if negative then -n else n
      if low ≤ value ∧ value ≤ high then some value else none

/-- The number nearest to a decimal. Beyond the range of exponents the answer is known without
looking at the digits. -/
def Decimal.toFloat (d : Decimal) : Float :=
  if d.digits = 0 then 0.0
  else
    let magnitude := d.exponent + (Nat.toDigits 10 d.digits).length
    if 310 < magnitude then 1.0 / 0.0
    else if magnitude < -330 then 0.0
    else Float.ofScientific d.digits (d.exponent < 0) d.exponent.natAbs

/-- An exponent behind its letter. -/
def readExponent (chars : List Char) : Option Int :=
  let (negative, digits) := splitSign chars
  (readNat digits).map fun n => if negative then -(n : Int) else n

/-- Digits with or without a point, with or without an exponent. There is a digit on one side of the
point at least. -/
def readDecimal (chars : List Char) : Option Decimal :=
  let whole := chars.takeWhile Char.isDigit
  let rest := chars.drop whole.length
  let (fraction, rest) := match rest with
    | '.' :: rest => (rest.takeWhile Char.isDigit, rest.dropWhile Char.isDigit)
    | rest => ([], rest)
  if whole.isEmpty && fraction.isEmpty then none
  else
    let digits := ofDigits (whole ++ fraction)
    let places : Int := fraction.length
    match rest with
    | [] => some ⟨digits, -places⟩
    | letter :: rest =>
      if letter = 'e' ∨ letter = 'E' then (readExponent rest).map fun e => ⟨digits, e - places⟩
      else none

/-- A number in any notation, the names of the infinities and of what is not a number included. -/
def readFloat (chars : List Char) : Option Float :=
  let (negative, rest) := splitSign chars
  let size := match String.ofList (rest.map Char.toLower) with
    | "inf" | "infinity" => some (1.0 / 0.0)
    | "nan" => some (0.0 / 0.0)
    | _ => (readDecimal rest).map Decimal.toFloat
  size.map fun x => if negative then -x else x

end PluginHost.Number
