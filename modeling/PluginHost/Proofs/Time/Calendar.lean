import Mathlib.Tactic.IntervalCases
import PluginHost.Time.Instant

/-!
Every day number is that of a valid date. Years are counted from March here, so that a leap day ends
its year; a day of an era of 400 such years is placed by the centuries, the groups of four years and
the years before it.
-/

set_option autoImplicit false

namespace PluginHost.Time

/-- A day of an era: the centuries, the groups of four years, the years and the days before it. -/
structure EraDay where
  centuries : Int
  groups : Int
  years : Int
  days : Int

namespace EraDay

def number (e : EraDay) : Int := 36524 * e.centuries + 1461 * e.groups + 365 * e.years + e.days

def year (e : EraDay) : Int := 100 * e.centuries + 4 * e.groups + e.years

/-- A year has 366 days if it is the last one of a group. The last group of a century has no such
year, but for the last century. -/
structure Proper (e : EraDay) : Prop where
  centuries : 0 ≤ e.centuries ∧ e.centuries ≤ 3
  groups : 0 ≤ e.groups ∧ e.groups ≤ 24
  years : 0 ≤ e.years ∧ e.years ≤ 3
  days : 0 ≤ e.days ∧ e.days ≤ 365
  leapDay : e.days = 365 → e.years = 3 ∧ (e.groups = 24 → e.centuries = 3)

variable {e : EraDay}

def ofNumber (n : Int) : EraDay :=
  let centuries := min (n / 36524) 3
  let inCentury := n - 36524 * centuries
  let inGroup := inCentury % 1461
  let years := min (inGroup / 365) 3
  ⟨centuries, inCentury / 1461, years, inGroup - 365 * years⟩

theorem number_ofNumber (n : Int) : (ofNumber n).number = n := by
  simp only [ofNumber, number]
  omega

theorem ofNumber_proper {n : Int} (least : 0 ≤ n) (most : n ≤ 146096) : (ofNumber n).Proper := by
  constructor <;> simp only [ofNumber] <;> omega

namespace Proper

theorem year_bounds (proper : e.Proper) : 0 ≤ e.year ∧ e.year ≤ 399 := by
  have centuries := proper.centuries
  have groups := proper.groups
  have years := proper.years
  unfold year
  omega

theorem number_bounds (proper : e.Proper) : 0 ≤ e.number ∧ e.number ≤ 146096 := by
  have centuries := proper.centuries
  have groups := proper.groups
  have years := proper.years
  have days := proper.days
  have leapDay := proper.leapDay
  unfold number
  by_cases leap : e.days = 365 <;> omega

/-- The days of the years before. -/
theorem daysBefore_year (proper : e.Proper) :
    e.year * 365 + e.year / 4 - e.year / 100 + e.days = e.number := by
  have groups := proper.groups
  have years := proper.years
  have fours : e.year / 4 = 25 * e.centuries + e.groups := by
    unfold year
    omega
  have hundreds : e.year / 100 = e.centuries := by
    unfold year
    omega
  rw [fours, hundreds]
  unfold year number
  omega

/-- Taking away the leap days that are over leaves years of the same length. -/
theorem year_of_number (proper : e.Proper) :
    (e.number - e.number / 1460 + e.number / 36524 - e.number / 146096) / 365 = e.year := by
  have bounds := proper.number_bounds
  obtain ⟨centuries, groups, years, days, leapDay⟩ := proper
  generalize same : e.number = n at bounds ⊢
  unfold number at same
  have century : n / 36524 - n / 146096 = e.centuries := by
    have least : 36524 * e.centuries ≤ n := by omega
    have most : n ≤ 36524 * e.centuries + 36523 ∨ e.centuries = 3 ∧ n = 146096 := by
      by_cases leap : e.days = 365 <;> omega
    clear same leapDay
    omega
  have gone : n / 1460 = 25 * e.centuries + e.groups +
      (24 * e.centuries + e.groups + 365 * e.years + e.days) / 1460 := by
    omega
  have earlier : 0 ≤ 24 * e.centuries + e.groups + 365 * e.years ∧
      24 * e.centuries + e.groups + 365 * e.years ≤ 1191 ∧
      (e.days = 365 → 1095 ≤ 24 * e.centuries + e.groups + 365 * e.years) := by
    omega
  generalize 24 * e.centuries + e.groups + 365 * e.years = rest at gone earlier
  -- one more is taken away from the last days of a group, its leap day among them
  have late : 0 ≤ e.days - (rest + e.days) / 1460 ∧ e.days - (rest + e.days) / 1460 ≤ 364 := by
    clear gone century same leapDay bounds
    omega
  generalize (rest + e.days) / 1460 = more at gone late
  generalize n / 1460 = leapDays at gone ⊢
  generalize n / 36524 = ended, n / 146096 = whole at century ⊢
  have left : n - leapDays + ended - whole = 365 * e.year + (e.days - more) := by
    unfold year
    omega
  rw [left]
  omega

end Proper

end EraDay

theorem isLeapYear_iff {year : Int} :
    isLeapYear year = true ↔ year % 4 = 0 ∧ (year % 100 = 0 → year % 400 = 0) := by
  simp only [isLeapYear, Bool.and_eq_true, Bool.or_eq_true, decide_eq_true_eq]
  omega

namespace EraDay

variable {e : EraDay}

/-- The leap day of a year that begins in March is in the year that begins in the January after. -/
theorem Proper.isLeapYear (proper : e.Proper) (era : Int) (leap : e.days = 365) :
    isLeapYear (e.year + era * 400 + 1) = true := by
  obtain ⟨_, groups, _, _, leapDay⟩ := proper
  have last := leapDay leap
  rw [isLeapYear_iff]
  unfold year
  omega

end EraDay

namespace Date

variable {d : Date} {year days : Int} {month : Nat}

def monthsSinceMarch (month : Nat) : Int := if month ≤ 2 then (month : Int) + 9 else month - 3

/-- How many days are in the first months of a year that begins in March. -/
def daysBefore (months : Int) : Int := (153 * months + 2) / 5

/-- A month lasts until the next one begins. Only February, the last one, can be shorter. -/
theorem daysInMonth_eq (year : Int) (least : 1 ≤ month) (most : month ≤ 12) (other : month ≠ 2) :
    (daysInMonth year month : Int) =
      daysBefore (monthsSinceMarch month + 1) - daysBefore (monthsSinceMarch month) := by
  interval_cases month <;> first | rfl | exact absurd rfl other

theorem daysInMonth_february (year : Int) :
    daysInMonth year 2 = 28 ∨ daysInMonth year 2 = 29 ∧ isLeapYear year = true := by
  unfold daysInMonth
  by_cases leap : isLeapYear year = true <;> simp [leap]

theorem daysInMonth_le (year : Int) (month : Nat) : daysInMonth year month ≤ 31 := by
  unfold daysInMonth
  split
  · split <;> omega
  all_goals omega

def marchYear (d : Date) : Int := if d.month ≤ 2 then d.year - 1 else d.year

/-- How many days have passed since 1 March. -/
def marchDay (d : Date) : Int := daysBefore (monthsSinceMarch d.month) + d.day - 1

/-- The date a number of days after 1 March of a year. -/
def ofMarch (year days : Int) : Date :=
  let months := (5 * days + 2) / 153
  let month := if months < 10 then months + 3 else months - 9
  ⟨if month ≤ 2 then year + 1 else year, month.toNat, (days - daysBefore months + 1).toNat⟩

theorem ofDays_eq {e : EraDay} (proper : e.Proper) (era : Int) :
    ofDays (era * 146097 + e.number) = ofMarch (e.year + era * 400) e.days := by
  have bounds := proper.number_bounds
  have whole : (era * 146097 + e.number).fdiv 146097 = era := by
    rw [Int.fdiv_eq_ediv_of_nonneg _ (by omega)]
    omega
  have rest : era * 146097 + e.number - era * 146097 = e.number := by omega
  have before : e.number - (365 * e.year + e.year / 4 - e.year / 100) = e.days := by
    have same := proper.daysBefore_year
    omega
  simp only [ofDays, ofMarch, daysBefore, whole, rest, proper.year_of_number, before]

theorem toDays_eq (d : Date) :
    d.toDays = d.marchYear / 400 * 146097 + (d.marchYear % 400 * 365 + d.marchYear % 400 / 4 -
      d.marchYear % 400 / 100 + d.marchDay) := by
  have whole : d.marchYear.fdiv 400 = d.marchYear / 400 :=
    Int.fdiv_eq_ediv_of_nonneg _ (by omega)
  have rest : d.marchYear - d.marchYear / 400 * 400 = d.marchYear % 400 := by omega
  have opened : d.toDays = d.marchYear.fdiv 400 * 146097 +
      (d.marchYear - d.marchYear.fdiv 400 * 400) * 365 +
      (d.marchYear - d.marchYear.fdiv 400 * 400) / 4 -
      (d.marchYear - d.marchYear.fdiv 400 * 400) / 100 + d.marchDay := by
    simp only [toDays, marchYear, marchDay, monthsSinceMarch, daysBefore]
  rw [opened, whole, rest]
  omega

theorem marchYear_ofMarch (within : 0 ≤ days ∧ days ≤ 365) :
    (ofMarch year days).marchYear = year := by
  simp only [ofMarch, marchYear]
  omega

theorem marchDay_ofMarch (within : 0 ≤ days ∧ days ≤ 365) :
    (ofMarch year days).marchDay = days := by
  simp only [ofMarch, marchDay, monthsSinceMarch, daysBefore]
  omega

/-- Every day of a year is a day of one of its months. -/
theorem ofMarch_valid (within : 0 ≤ days ∧ days ≤ 365)
    (leap : days = 365 → isLeapYear (year + 1) = true) : (ofMarch year days).Valid := by
  have sinceMarch : (ofMarch year days).marchDay = days := marchDay_ofMarch within
  have least : 1 ≤ (ofMarch year days).month := by
    simp only [ofMarch]
    omega
  have most : (ofMarch year days).month ≤ 12 := by
    simp only [ofMarch]
    omega
  have first : 1 ≤ (ofMarch year days).day := by
    simp only [ofMarch, daysBefore]
    omega
  have months : monthsSinceMarch (ofMarch year days).month = (5 * days + 2) / 153 := by
    simp only [ofMarch, monthsSinceMarch]
    omega
  refine ⟨least, most, first, ?_⟩
  unfold marchDay at sinceMarch
  by_cases other : (ofMarch year days).month = 2
  · have february : (ofMarch year days).year = year + 1 := by
      simp only [ofMarch] at other ⊢
      omega
    rw [other] at sinceMarch ⊢
    rw [february]
    simp only [monthsSinceMarch, daysBefore] at sinceMarch
    by_cases last : days = 365
    · simp only [daysInMonth, leap last, if_true]
      omega
    · have length := daysInMonth_february (year + 1)
      omega
  · have length := daysInMonth_eq (ofMarch year days).year least most other
    rw [months] at length sinceMarch
    simp only [daysBefore] at length sinceMarch
    omega

/-- A day number is one of a day of an era. -/
theorem exists_eraDay (n : Int) :
    ∃ (era : Int) (e : EraDay), e.Proper ∧ n = era * 146097 + e.number := by
  refine ⟨n / 146097, .ofNumber (n % 146097), EraDay.ofNumber_proper ?_ ?_, ?_⟩
  · omega
  · omega
  · rw [EraDay.number_ofNumber]
    omega

theorem ofDays_valid (n : Int) : (ofDays n).Valid := by
  obtain ⟨era, e, proper, rfl⟩ := exists_eraDay n
  rw [ofDays_eq proper]
  exact ofMarch_valid proper.days (proper.isLeapYear era)

theorem toDays_ofDays (n : Int) : (ofDays n).toDays = n := by
  obtain ⟨era, e, proper, rfl⟩ := exists_eraDay n
  have bounds := proper.year_bounds
  have before := proper.daysBefore_year
  have whole : (e.year + era * 400) / 400 = era := by omega
  have rest : (e.year + era * 400) % 400 = e.year := by omega
  rw [ofDays_eq proper, toDays_eq, marchYear_ofMarch proper.days, marchDay_ofMarch proper.days,
    whole, rest]
  omega

end Date

end PluginHost.Time
