/-!
Instants with nanosecond precision in the proleptic Gregorian calendar, in coordinated universal
time. A leap second is the second 59 with more than a second's worth of nanoseconds.
-/

set_option autoImplicit false

namespace PluginHost.Time

structure Date where
  year : Int
  month : Nat
  day : Nat
deriving DecidableEq, Repr

def isLeapYear (year : Int) : Bool := year % 4 = 0 && (year % 100 ≠ 0 || year % 400 = 0)

def daysInMonth (year : Int) : Nat → Nat
  | 2 => if isLeapYear year then 29 else 28
  | 4 | 6 | 9 | 11 => 30
  | _ => 31

namespace Date

def Valid (d : Date) : Prop :=
  1 ≤ d.month ∧ d.month ≤ 12 ∧ 1 ≤ d.day ∧ d.day ≤ daysInMonth d.year d.month

instance (d : Date) : Decidable d.Valid := by unfold Valid; infer_instance

/-- Days since 1 March of the year 0. Years begin in March here, so that the leap day is last. -/
def toDays (d : Date) : Int :=
  let year := if d.month ≤ 2 then d.year - 1 else d.year
  let month : Int := if d.month ≤ 2 then d.month + 9 else (d.month : Int) - 3
  let era := year.fdiv 400
  let yearOfEra := year - era * 400
  let dayOfYear := (153 * month + 2) / 5 + d.day - 1
  era * 146097 + yearOfEra * 365 + yearOfEra / 4 - yearOfEra / 100 + dayOfYear

/-- The date a number of days after 1 March of the year 0. -/
def ofDays (days : Int) : Date :=
  let era := days.fdiv 146097
  let dayOfEra := days - era * 146097
  let yearOfEra := (dayOfEra - dayOfEra / 1460 + dayOfEra / 36524 - dayOfEra / 146096) / 365
  let dayOfYear := dayOfEra - (365 * yearOfEra + yearOfEra / 4 - yearOfEra / 100)
  let month := (5 * dayOfYear + 2) / 153
  let day := dayOfYear - (153 * month + 2) / 5 + 1
  let civilMonth := if month < 10 then month + 3 else month - 9
  let year := yearOfEra + era * 400
  ⟨if civilMonth ≤ 2 then year + 1 else year, civilMonth.toNat, day.toNat⟩

end Date

/-- An instant: days since 1 March of the year 0, the second of the day and the nanosecond. -/
structure Instant where
  day : Int
  second : Nat
  nano : Nat
deriving DecidableEq, Repr

namespace Instant

/-- The first instant of 1970, where clocks begin. -/
def epoch : Instant := ⟨719468, 0, 0⟩

def addMillis (i : Instant) (millis : Nat) : Instant :=
  let nanos := i.nano + millis % 1000 * 1000000
  let seconds := i.second + millis / 1000 + nanos / 1000000000
  ⟨i.day + (seconds / 86400 : Nat), seconds % 86400, nanos % 1000000000⟩

/-- The local time minus the offset of its zone. -/
def minusOffset (i : Instant) (offset : Int) : Instant :=
  let seconds : Int := i.second - offset
  ⟨i.day + seconds.fdiv 86400, (seconds.fmod 86400).toNat, i.nano⟩

end Instant

end PluginHost.Time
