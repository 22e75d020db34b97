import PluginHost.Number.Shortest

set_option autoImplicit false

namespace PluginHost.Number

/-- The digits of a decimal with the point where its exponent puts it, and zeros where there are no
digits. `point` asks for a fraction even if it is zero. -/
def Decimal.plain (d : Decimal) (point : Bool) : String :=
  let digits := toString d.digits
  if d.exponent ≥ 0 then
    digits ++ "".pushn '0' d.exponent.toNat ++ (if point then ".0" else "")
  else
    let places := d.exponent.natAbs
    let padded := "".pushn '0' (places + 1 - digits.length) ++ digits
    let chars := padded.toList
    let whole := chars.length - places
    String.ofList (chars.take whole) ++ "." ++ String.ofList (chars.drop whole)

/-- One digit before the point, and the exponent with its sign. -/
def Decimal.scientific (d : Decimal) : String :=
  let digits := (toString d.digits).toList
  let exponent := d.exponent + (digits.length - 1 : Nat)
  let tail := digits.drop 1
  String.ofList (digits.take 1) ++ (if tail.isEmpty then "" else "." ++ String.ofList tail) ++ "e" ++
    (if exponent < 0 then "-" else "+") ++ toString exponent.natAbs

/-- The exponent of the leading digit. -/
def Decimal.magnitude (d : Decimal) : Int := d.exponent + ((toString d.digits).length - 1 : Nat)

/-- Plain notation covers the exponents from -5 to 15. A number that is not finite has no JSON form
and is written as null. -/
def render (x : Float) : String :=
  match classify x with
  | (_, .nan) | (_, .infinite) => "null"
  | (negative, .zero) => if negative then "-0.0" else "0.0"
  | (negative, .finite m) =>
    let d := shortest m
    let body := if -5 ≤ d.magnitude ∧ d.magnitude < 16 then d.plain true else d.scientific
    if negative then "-" ++ body else body

/-- Never with an exponent, and without a point where the number is whole. -/
def renderPlain (x : Float) : String :=
  match classify x with
  | (_, .nan) => "NaN"
  | (negative, .infinite) => if negative then "-inf" else "inf"
  | (negative, .zero) => if negative then "-0" else "0"
  | (negative, .finite m) =>
    let body := (shortest m).plain false
    if negative then "-" ++ body else body

end PluginHost.Number
