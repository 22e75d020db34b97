/-!
The shortest decimal that reads back as a given binary64 number.

A finite number stands for every real that rounds to it, an interval around it. Among the decimals
inside that interval the one with the fewest digits is written, and of two with equally many the
nearer one. Everything is decided in exact integer arithmetic.
-/

set_option autoImplicit false

namespace PluginHost.Number

/-- The greatest number of 64 bits without a sign. -/
def maxWord : Nat := 18446744073709551615

def minInt : Int := -9223372036854775808

def maxInt : Int := 9223372036854775807

/-- A positive decimal `digits * 10 ^ exponent`. -/
structure Decimal where
  digits : Nat
  exponent : Int
deriving DecidableEq, Repr

/-- A nonzero finite number without its sign: `mantissa * 2 ^ exponent`. `narrow` marks a power of
two whose lower neighbour is only half as far away as its upper one. -/
structure Magnitude where
  mantissa : Nat
  exponent : Int
  narrow : Bool
deriving DecidableEq, Repr

/-- What a binary64 number is, apart from its sign. -/
inductive Class where
  | nan
  | infinite
  | zero
  | finite (magnitude : Magnitude)
deriving DecidableEq, Repr

/-- The sign bit and the class of a number, read off its 64 bits. -/
def classify (x : Float) : Bool × Class :=
  let bits := x.toBits.toNat
  let unit := Nat.pow 2 52
  let negative := bits / Nat.pow 2 63 == 1
  let biased := bits / unit % 2048
  let fraction := bits % unit
  let kind :=
    if biased = 2047 then (if fraction = 0 then .infinite else .nan)
    else if biased = 0 then
      (if fraction = 0 then .zero else .finite ⟨fraction, -1074, false⟩)
    else .finite ⟨unit + fraction, Int.ofNat biased - 1075, fraction == 0 && 1 < biased⟩
  (negative, kind)

/-- A nonnegative rational over a positive denominator. -/
structure Ratio where
  num : Nat
  den : Nat
deriving DecidableEq, Repr

namespace Ratio

/-- `n * 2 ^ e`. -/
def scaleTwo (n : Nat) (e : Int) : Ratio :=
  if e < 0 then ⟨n, Nat.pow 2 e.natAbs⟩ else ⟨n * Nat.pow 2 e.natAbs, 1⟩

/-- `n * 10 ^ e`. -/
def scaleTen (n : Nat) (e : Int) : Ratio :=
  if e < 0 then ⟨n, Nat.pow 10 e.natAbs⟩ else ⟨n * Nat.pow 10 e.natAbs, 1⟩

def le (a b : Ratio) : Bool := a.num * b.den ≤ b.num * a.den

def lt (a b : Ratio) : Bool := a.num * b.den < b.num * a.den

/-- The integer part of `a / 10 ^ e`. -/
def floorTen (a : Ratio) (e : Int) : Nat :=
  if e < 0 then a.num * Nat.pow 10 e.natAbs / a.den else a.num / (a.den * Nat.pow 10 e.natAbs)

end Ratio

namespace Magnitude

def value (m : Magnitude) : Ratio := .scaleTwo m.mantissa m.exponent

/-- The middle between the number and its lower neighbour. -/
def lower (m : Magnitude) : Ratio :=
  .scaleTwo (4 * m.mantissa - if m.narrow then 1 else 2) (m.exponent - 2)

/-- The middle between the number and its upper neighbour. -/
def upper (m : Magnitude) : Ratio := .scaleTwo (4 * m.mantissa + 2) (m.exponent - 2)

/-- Whether a real rounds to this number. A middle goes to the even mantissa. -/
def contains (m : Magnitude) (r : Ratio) : Bool :=
  if m.mantissa % 2 = 0 then m.lower.le r && r.le m.upper else m.lower.lt r && r.lt m.upper

/-- The greatest `p` with `10 ^ p` at most the value, found from a bound on the number of bits. -/
def leading (m : Magnitude) : Int :=
  let guess : Int := ((m.exponent + m.mantissa.log2) * 30103).fdiv 100000
  let fits (p : Int) : Bool := (Ratio.scaleTen 1 p).le m.value
  if fits (guess + 1) then guess + 1 else if fits guess then guess else guess - 1

/-- The decimal with the given place of its last digit that is nearest to the value, if one of the
value's two neighbours at that place rounds to it. -/
def onGrid? (m : Magnitude) (place : Int) : Option Nat :=
  let below := m.value.floorTen place
  let inside (d : Nat) : Bool := 0 < d && m.contains (.scaleTen d place)
  match inside below, inside (below + 1) with
  | false, false => none
  | true, false => some below
  | false, true => some (below + 1)
  | true, true =>
    let middle := Ratio.scaleTen (2 * below + 1) place
    let twice : Ratio := ⟨2 * m.value.num, m.value.den⟩
    if twice.lt middle then some below
    else if middle.lt twice then some (below + 1)
    else some (if below % 2 = 0 then below else below + 1)

end Magnitude

/-- Moves trailing zeros of the digits into the exponent. -/
def Decimal.trim : Nat → Decimal → Decimal
  | 0, d => d
  | fuel + 1, d =>
    if d.digits ≠ 0 ∧ d.digits % 10 = 0 then Decimal.trim fuel ⟨d.digits / 10, d.exponent + 1⟩ else d

/-- Seventeen digits always suffice for binary64, so the search ends there. -/
def shortest (m : Magnitude) : Decimal :=
  let lead := m.leading
  let rec search : Nat → Int → Decimal
    | 0, place => ⟨m.value.floorTen place, place⟩
    | fuel + 1, place =>
      match m.onGrid? place with
      | some d => ⟨d, place⟩
      | none => search fuel (place - 1)
  Decimal.trim 20 (search 17 lead)

end PluginHost.Number
