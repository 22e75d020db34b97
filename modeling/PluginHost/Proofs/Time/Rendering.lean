import PluginHost.Proofs.Digits
import PluginHost.Proofs.Time.Calendar
import PluginHost.Time.Rfc3339

set_option autoImplicit false

namespace PluginHost.Time

theorem toList_padded (width n : Nat) :
    (padded width n).toList =
      List.replicate (width - (Nat.toDigits 10 n).length) '0' ++ Nat.toDigits 10 n := by
  have digits : (toString n).toList = Nat.toDigits 10 n := by
    rw [Nat.toString_eq_repr, Nat.toList_repr]
  have length : (toString n).length = (Nat.toDigits 10 n).length := by
    rw [← digits, String.length_toList]
  simp only [padded, String.toList_append, Number.toList_pushn, digits, length]

theorem isDigit_padded {width n : Nat} {c : Char} (member : c ∈ (padded width n).toList) :
    c.isDigit = true := by
  rw [toList_padded, List.mem_append] at member
  rcases member with zero | digit
  · rw [List.eq_of_mem_replicate zero]
    rfl
  · exact Number.isDigit_toDigits digit

theorem ofDigits_padded (width n : Nat) : Number.ofDigits (padded width n).toList = n := by
  rw [toList_padded, Number.ofDigits_zeros]

theorem padded_ne_nil (width n : Nat) : (padded width n).toList ≠ [] := by
  rw [toList_padded]
  simp [Nat.toDigits_ne_nil]

/-- A number that fits its digits has as many of them. -/
theorem length_padded {width n : Nat} (some_ : 0 < width) (fits : n < 10 ^ width) :
    (padded width n).toList.length = width := by
  have few := (Nat.length_toDigits_le_iff (by omega) some_).2 fits
  rw [toList_padded, List.length_append, List.length_replicate]
  omega

variable {rest : List Char}

/-- Digits are read as far as they go. -/
theorem number_append {most : Nat} {digits : List Char} (some_ : digits ≠ [])
    (each : ∀ c ∈ digits, c.isDigit = true) (fits : digits.length ≤ most)
    (ends : digits.length = most ∨ ∀ c ∈ rest.head?, c.isDigit = false)
    (small : (Number.ofDigits digits : Int) ≤ Number.maxInt) :
    number most (digits ++ rest) = .ok (Number.ofDigits digits, rest) := by
  have later : (rest.take (most - digits.length)).takeWhile Char.isDigit = [] := by
    obtain full | stops := ends
    · rw [full, Nat.sub_self, List.take_zero]
      rfl
    · cases rest with
      | nil => rw [List.take_nil]; rfl
      | cons c rest =>
        have stop : c.isDigit = false := stops c rfl
        cases most - digits.length with
        | zero => rfl
        | succ more => simp [stop]
  have taken : ((digits ++ rest).take most).takeWhile Char.isDigit = digits := by
    rw [List.take_append, List.take_of_length_le fits, List.takeWhile_append_of_pos each, later,
      List.append_nil]
  have some' : digits.isEmpty = false := by simp [some_]
  unfold number
  split
  next empty => simp [some_] at empty
  next => simp [taken, some', small]

/-- A padded number is read in front of what is no digit, or where no more digits are taken. -/
theorem number_padded {width most n : Nat} (some_ : 0 < width) (fits : n < 10 ^ width)
    (few : width ≤ most) (ends : width = most ∨ ∀ c ∈ rest.head?, c.isDigit = false)
    (small : (n : Int) ≤ Number.maxInt) :
    number most ((padded width n).toList ++ rest) = .ok (n, rest) := by
  have length := length_padded some_ fits
  have value := ofDigits_padded width n
  rw [number_append (padded_ne_nil width n) (fun _ => isDigit_padded), value]
  · omega
  · rwa [length]
  · rwa [value]

theorem isBlank_of_isDigit {c : Char} (digit : c.isDigit = true) : Text.isBlank c = false := by
  simp only [Char.isDigit, Bool.and_eq_true, decide_eq_true_eq] at digit
  have least : 48 ≤ c.toNat := digit.1
  have most : c.toNat ≤ 57 := digit.2
  simp only [Text.isBlank, Bool.or_eq_false_iff, Bool.and_eq_false_iff, decide_eq_false_iff_not]
  omega

/-- A padded number begins with a digit. -/
theorem padded_append (width n : Nat) (rest : List Char) :
    ∃ c more, c.isDigit = true ∧ (padded width n).toList ++ rest = c :: more := by
  have digits : ∀ c ∈ (padded width n).toList, c.isDigit = true := fun _ => isDigit_padded
  cases shape : (padded width n).toList with
  | nil => exact absurd shape (padded_ne_nil width n)
  | cons c more => exact ⟨c, more ++ rest, digits c (by simp [shape]), rfl⟩

theorem dropBlanks_padded (width n : Nat) :
    Text.dropBlanks ((padded width n).toList ++ rest) = (padded width n).toList ++ rest := by
  obtain ⟨c, more, digit, shape⟩ := padded_append width n rest
  rw [shape]
  simp [Text.dropBlanks, isBlank_of_isDigit digit]

theorem bounded_padded {low high n : Nat} (least : low ≤ n) (most : n ≤ high) (fits : high < 100) :
    bounded low high ((padded 2 n).toList ++ rest) = .ok (n, rest) := by
  have small : (n : Int) ≤ Number.maxInt := by
    unfold Number.maxInt
    omega
  unfold bounded
  rw [dropBlanks_padded, number_padded (by omega) (by omega) (by omega) (.inl rfl) small]
  exact if_pos ⟨least, most⟩

theorem separator_cons {c : Char} (solid : Text.isBlank c = false) :
    separator c (c :: rest) = .ok rest := by
  simp [separator, Text.dropBlanks, solid]

/-- A year of the calendar's range is read in front of a dash. -/
theorem year_renderYear {y : Int} (least : -262143 ≤ y) (most : y ≤ 262142) :
    year ((renderYear y).toList ++ '-' :: rest) = .ok (y, '-' :: rest) := by
  have dash : ∀ c ∈ ('-' :: rest).head?, c.isDigit = false := by
    rintro c ⟨⟩
    rfl
  have inRange : -2147483648 ≤ y ∧ y ≤ 2147483647 := by omega
  have small : (y.natAbs : Int) ≤ Number.maxInt := by
    unfold Number.maxInt
    omega
  by_cases plain : 0 ≤ y ∧ y ≤ 9999
  · have same : y.toNat = y.natAbs := by omega
    have value : (y.natAbs : Int) = y := by omega
    have read : number 4 ((padded 4 y.natAbs).toList ++ '-' :: rest) =
        .ok (y.natAbs, '-' :: rest) :=
      number_padded (by omega) (by omega) (by omega) (.inl rfl) small
    rw [renderYear, if_pos plain, same, year, dropBlanks_padded]
    obtain ⟨c, more, digit, shape⟩ := padded_append 4 y.natAbs ('-' :: rest)
    rw [shape] at read ⊢
    split
    next signed =>
      cases signed
      cases digit
    next signed =>
      cases signed
      cases digit
    next =>
      simp only [read, value]
      exact if_pos inRange
  · have read : number ((padded 4 y.natAbs).toList ++ '-' :: rest).length
        ((padded 4 y.natAbs).toList ++ '-' :: rest) = .ok (y.natAbs, '-' :: rest) := by
      have value := ofDigits_padded 4 y.natAbs
      rw [number_append (padded_ne_nil 4 y.natAbs) (fun _ => isDigit_padded) (by simp) (.inr dash),
        value]
      rwa [value]
    rw [renderYear, if_neg plain]
    by_cases negative : y < 0
    · have value : -(y.natAbs : Int) = y := by omega
      have minus : ((if y < 0 then "-" else "+") ++ padded 4 y.natAbs).toList ++ '-' :: rest =
          '-' :: ((padded 4 y.natAbs).toList ++ '-' :: rest) := by simp [negative]
      rw [minus]
      generalize (padded 4 y.natAbs).toList ++ '-' :: rest = digits at read ⊢
      have solid : Text.dropBlanks ('-' :: digits) = '-' :: digits := rfl
      unfold year
      simp only [solid, read, value]
      exact if_pos inRange
    · have value : (y.natAbs : Int) = y := by omega
      have plus : ((if y < 0 then "-" else "+") ++ padded 4 y.natAbs).toList ++ '-' :: rest =
          '+' :: ((padded 4 y.natAbs).toList ++ '-' :: rest) := by simp [negative]
      rw [plus]
      generalize (padded 4 y.natAbs).toList ++ '-' :: rest = digits at read ⊢
      have solid : Text.dropBlanks ('+' :: digits) = '+' :: digits := rfl
      unfold year
      simp only [solid, read, value]
      exact if_pos inRange

/-- So many digits behind a point are a part of a second. -/
theorem fraction_padded {width n : Nat} (some_ : 0 < width) (most : width ≤ 9)
    (fits : n < 10 ^ width) (ends : ∀ c ∈ rest.head?, c.isDigit = false) :
    fraction (('.' :: (padded width n).toList) ++ rest) = .ok (n * 10 ^ (9 - width), rest) := by
  have length := length_padded some_ fits
  have small : (n : Int) ≤ Number.maxInt := by
    have bound : 10 ^ width ≤ 10 ^ 9 := Nat.pow_le_pow_right (by omega) most
    unfold Number.maxInt
    omega
  have read := number_padded some_ fits most (.inr ends) small
  have stops : rest.dropWhile Char.isDigit = rest := by
    cases rest with
    | nil => rfl
    | cons c rest => simp [ends c rfl]
  have count : ((padded width n).toList ++ rest).length - rest.length = width := by
    rw [List.length_append, length]
    omega
  rw [List.cons_append]
  generalize (padded width n).toList ++ rest = digits at read count ⊢
  simp [fraction, read, stops, count]

theorem fraction_renderFraction {nano : Nat} (fits : nano < 1000000000)
    (ends : ∀ c ∈ rest.head?, c.isDigit = false ∧ c ≠ '.') :
    fraction ((renderFraction nano).toList ++ rest) = .ok (nano, rest) := by
  have stops : ∀ c ∈ rest.head?, c.isDigit = false := fun c member => (ends c member).1
  have point (digits : String) : ("." ++ digits).toList = '.' :: digits.toList := by simp
  unfold renderFraction
  split
  next none_ =>
    rw [none_]
    cases rest with
    | nil => rfl
    | cons c rest =>
      have other := (ends c rfl).2
      simp [fraction, other]
  next =>
    split
    next millis =>
      have value : nano / 1000000 * 10 ^ (9 - 3) = nano := by omega
      rw [point, fraction_padded (by omega) (by omega) (by omega) stops, value]
    next =>
      split
      next micros =>
        have value : nano / 1000 * 10 ^ (9 - 6) = nano := by omega
        rw [point, fraction_padded (by omega) (by omega) (by omega) stops, value]
      next =>
        have value : nano * 10 ^ (9 - 9) = nano := by omega
        rw [point, fraction_padded (by omega) (by omega) (by omega) stops, value]

namespace Instant

/-- What a clock can show: a leap second comes only at the end of a minute. -/
structure Proper (i : Instant) : Prop where
  second : i.second < 86400
  nano : i.nano < 1000000000 ∨ i.nano < 2000000000 ∧ i.second % 60 = 59

theorem minusOffset_zero {i : Instant} (proper : i.Proper) : i.minusOffset 0 = i := by
  obtain ⟨day, second, nano⟩ := i
  have whole : (second : Int).fdiv 86400 = 0 := by
    rw [Int.fdiv_eq_ediv_of_nonneg _ (by omega)]
    have most : second < 86400 := proper.second
    omega
  have rest : (second : Int).fmod 86400 = second := by
    rw [Int.fmod_eq_emod_of_nonneg _ (by omega)]
    have most : second < 86400 := proper.second
    omega
  simp [minusOffset, whole, rest]

end Instant

/-- The parts of a text in universal time are read one after the other. -/
theorem stamp_parts {y : Int} {month day : Nat} (hour minute second nano : Nat)
    (years : -262143 ≤ y ∧ y ≤ 262142) (months : 1 ≤ month ∧ month ≤ 12)
    (days : 1 ≤ day ∧ day ≤ 31) (hours : hour ≤ 23) (minutes : minute ≤ 59) (seconds : second ≤ 60)
    (nanos : nano < 1000000000) :
    stamp ((renderYear y).toList ++ '-' :: ((padded 2 month).toList ++ '-' ::
      ((padded 2 day).toList ++ 'T' :: ((padded 2 hour).toList ++ ':' ::
        ((padded 2 minute).toList ++ ':' :: ((padded 2 second).toList ++
          ((renderFraction nano).toList ++ ['Z']))))))) =
      .ok (⟨⟨y, month, day⟩,
        hour * 3600 + minute * 60 + (if second = 60 then 59 else second),
        nano + (if second = 60 then 1000000000 else 0), 0⟩, []) := by
  have dash : Text.isBlank '-' = false := rfl
  have colon : Text.isBlank ':' = false := rfl
  have universal : zone (Text.dropBlanks ['Z']) = .ok (0, []) := rfl
  have ends : ∀ c ∈ ['Z'].head?, c.isDigit = false ∧ c ≠ '.' := by
    rintro c ⟨⟩
    exact ⟨rfl, by decide⟩
  unfold stamp
  rw [year_renderYear years.1 years.2]
  simp only [bind, Except.bind, separator_cons dash, separator_cons colon, universal,
    bounded_padded months.1 months.2 (by omega : 12 < 100),
    bounded_padded days.1 days.2 (by omega : 31 < 100),
    bounded_padded (Nat.zero_le hour) hours (by omega : 23 < 100),
    bounded_padded (Nat.zero_le minute) minutes (by omega : 59 < 100),
    bounded_padded (Nat.zero_le second) seconds (by omega : 60 < 100),
    fraction_renderFraction nanos ends]
  rfl

theorem stamp_render {i : Instant} (proper : i.Proper)
    (years : -262143 ≤ (Date.ofDays i.day).year ∧ (Date.ofDays i.day).year ≤ 262142) :
    stamp (render i).toList = .ok (⟨Date.ofDays i.day, i.second, i.nano, 0⟩, []) := by
  obtain ⟨second, nano⟩ := proper
  obtain ⟨leastMonth, mostMonth, leastDay, mostDay⟩ := Date.ofDays_valid i.day
  have few : (Date.ofDays i.day).day ≤ 31 := Nat.le_trans mostDay (Date.daysInMonth_le _ _)
  have dash : "-".toList = ['-'] := rfl
  have colon : ":".toList = [':'] := rfl
  have tee : "T".toList = ['T'] := rfl
  have zee : "Z".toList = ['Z'] := rfl
  have parts := stamp_parts (i.second / 3600) (i.second / 60 % 60)
    (i.second % 60 + if i.nano ≥ 1000000000 then 1 else 0)
    (if i.nano ≥ 1000000000 then i.nano - 1000000000 else i.nano)
    years ⟨leastMonth, mostMonth⟩ ⟨leastDay, few⟩ (by omega) (by omega)
    (by split <;> omega) (by split <;> omega)
  unfold render
  simp only [String.toList_append, List.append_assoc, dash, colon, tee, zee, List.cons_append,
    List.nil_append]
  rw [parts]
  by_cases leap : i.nano ≥ 1000000000
  · have last : i.second % 60 = 59 := by omega
    have secondOf : i.second / 3600 * 3600 + i.second / 60 % 60 * 60 + 59 = i.second := by omega
    have nanoOf : i.nano - 1000000000 + 1000000000 = i.nano := by omega
    simp only [leap, if_true, last]
    rw [secondOf, nanoOf]
  · have other : ¬ i.second % 60 + 0 = 60 := by omega
    have secondOf : i.second / 3600 * 3600 + i.second / 60 % 60 * 60 + (i.second % 60 + 0) =
        i.second := by omega
    simp only [leap, if_false, other]
    rw [secondOf]
    rfl

/-- An instant of the calendar's years is read again from its text. -/
theorem parse_render {i : Instant} (proper : i.Proper)
    (years : -262143 ≤ (Date.ofDays i.day).year ∧ (Date.ofDays i.day).year ≤ 262142) :
    parse (render i) = .ok i := by
  have valid := Date.ofDays_valid i.day
  have local_ : Instant.mk (Date.ofDays i.day).toDays i.second i.nano = i := by
    rw [Date.toDays_ofDays]
  have none_ : (Text.dropBlanks []).isEmpty = true := rfl
  unfold parse
  rw [stamp_render proper years]
  simp only [bind, Except.bind, none_, if_true]
  unfold Stamp.toInstant
  simp only [local_, Instant.minusOffset_zero proper]
  rw [if_neg (by simp [years, valid]), if_neg (by omega), if_pos years]

theorem bind_eq_ok {α β : Type} {x : Except TimeFault α} {f : α → Except TimeFault β} {b : β}
    (came : (x >>= f) = .ok b) : ∃ a, x = .ok a ∧ f a = .ok b := by
  cases x with
  | error e => cases came
  | ok a => exact ⟨a, rfl, came⟩

theorem number_bounds {most n : Nat} {s rest : List Char} (came : number most s = .ok (n, rest)) :
    s.length - rest.length ≤ most ∧ n < 10 ^ (s.length - rest.length) := by
  unfold number at came
  split at came
  next => cases came
  next =>
    have few := (List.takeWhile_prefix Char.isDigit (l := s.take most)).length_le
    have each : ∀ c ∈ (s.take most).takeWhile Char.isDigit, c.isDigit = true := fun _ member =>
      List.all_eq_true.1 List.all_takeWhile _ member
    generalize (s.take most).takeWhile Char.isDigit = digits at came few each
    dsimp only at came
    split at came
    · cases came
    · split at came
      · cases came
      · cases came
        have count : s.length - (s.drop digits.length).length = digits.length := by
          rw [List.length_take] at few
          rw [List.length_drop]
          omega
        rw [List.length_take] at few
        rw [count]
        exact ⟨by omega, Number.ofDigits_lt each⟩

theorem bounded_bounds {low high n : Nat} {s rest : List Char}
    (came : bounded low high s = .ok (n, rest)) : low ≤ n ∧ n ≤ high := by
  unfold bounded at came
  split at came
  · cases came
  · split at came
    · cases came
      assumption
    · cases came

/-- A part of a second is less than a second. -/
theorem fraction_lt {nano : Nat} {s rest : List Char} (came : fraction s = .ok (nano, rest)) :
    nano < 1000000000 := by
  unfold fraction at came
  split at came
  next s =>
    split at came
    · cases came
    next n after read =>
      cases came
      obtain ⟨few, fits⟩ := number_bounds read
      calc n * 10 ^ (9 - (s.length - after.length))
          < 10 ^ (s.length - after.length) * 10 ^ (9 - (s.length - after.length)) :=
            Nat.mul_lt_mul_of_pos_right fits (Nat.pow_pos (by omega))
        _ = 10 ^ 9 := by rw [← Nat.pow_add, Nat.add_sub_cancel' few]
  next =>
    cases came
    omega

/-- An offset is so many minutes. -/
theorem offset_minutes {seconds : Int} {s rest : List Char}
    (came : offset s = .ok (seconds, rest)) : seconds % 60 = 0 := by
  unfold offset at came
  extract_lets signed at came
  have whole : ∀ negative s, signed negative s = .ok (seconds, rest) → seconds % 60 = 0 := by
    intro negative s came
    simp only [signed] at came
    split at came
    case h_1 => cases came
    split at came
    case isFalse => cases came
    split at came
    case h_1 => cases came
    split at came
    case isTrue =>
      cases came
      split <;> omega
    split at came <;> cases came
  split at came
  case h_1 => cases came
  split at came
  case isTrue =>
    cases came
    rfl
  split at came
  case isTrue => exact whole false _ came
  split at came
  case isTrue => exact whole true _ came
  cases came

theorem zone_minutes {seconds : Int} {s rest : List Char}
    (came : zone s = .ok (seconds, rest)) : seconds % 60 = 0 := by
  unfold zone at came
  split at came
  · split at came
    · cases came
      rfl
    · exact offset_minutes came
  · exact offset_minutes came

theorem stamp_bounds {t : Stamp} {s rest : List Char} (came : stamp s = .ok (t, rest)) :
    t.second < 86400 ∧ (t.nano < 1000000000 ∨ t.nano < 2000000000 ∧ t.second % 60 = 59) ∧
      t.offset % 60 = 0 := by
  unfold stamp at came
  obtain ⟨⟨year, s⟩, _, came⟩ := bind_eq_ok came
  obtain ⟨s, _, came⟩ := bind_eq_ok came
  obtain ⟨⟨month, s⟩, _, came⟩ := bind_eq_ok came
  obtain ⟨s, _, came⟩ := bind_eq_ok came
  obtain ⟨⟨day, s⟩, _, came⟩ := bind_eq_ok came
  dsimp only at came
  split at came
  case h_2 => cases came
  split at came
  case isFalse => cases came
  obtain ⟨s, _, came⟩ := bind_eq_ok came
  obtain ⟨⟨hour, s⟩, hours, came⟩ := bind_eq_ok came
  obtain ⟨s, _, came⟩ := bind_eq_ok came
  obtain ⟨⟨minute, s⟩, minutes, came⟩ := bind_eq_ok came
  obtain ⟨s, _, came⟩ := bind_eq_ok came
  obtain ⟨⟨second, s⟩, seconds, came⟩ := bind_eq_ok came
  obtain ⟨⟨nano, s⟩, nanos, came⟩ := bind_eq_ok came
  obtain ⟨⟨offset, s⟩, zoned, came⟩ := bind_eq_ok came
  cases came
  have ofHours := bounded_bounds hours
  have ofMinutes := bounded_bounds minutes
  have ofSeconds := bounded_bounds seconds
  have ofNanos := fraction_lt nanos
  refine ⟨?_, ?_, zone_minutes zoned⟩
  · dsimp only
    split <;> omega
  · dsimp only
    by_cases leap : second = 60
    · simp only [leap, if_true]
      omega
    · simp only [leap, if_false]
      omega

/-- What is read is an instant of the calendar's years. -/
theorem proper_of_parse {text : String} {i : Instant} (came : parse text = .ok i) :
    i.Proper ∧ -262143 ≤ (Date.ofDays i.day).year ∧ (Date.ofDays i.day).year ≤ 262142 := by
  unfold parse at came
  obtain ⟨⟨t, rest⟩, stamped, came⟩ := bind_eq_ok came
  obtain ⟨seconds, nanos, minutes⟩ := stamp_bounds stamped
  dsimp only at came
  split at came
  case isFalse => cases came
  unfold Stamp.toInstant at came
  split at came
  case isTrue => cases came
  split at came
  case isTrue => cases came
  dsimp only at came
  split at came
  case isFalse => cases came
  next years =>
    cases came
    refine ⟨?_, years⟩
    -- an offset of whole minutes moves no second within its minute
    have shifted : (((t.second : Int) - t.offset).fmod 86400).toNat % 60 = t.second % 60 := by
      rw [Int.fmod_eq_emod_of_nonneg _ (by omega)]
      omega
    have within : (((t.second : Int) - t.offset).fmod 86400).toNat < 86400 := by
      rw [Int.fmod_eq_emod_of_nonneg _ (by omega)]
      omega
    constructor
    · exact within
    · simp only [Instant.minusOffset]
      omega

/-- What is read is written, and read again. -/
theorem parse_render_of_parse {text : String} {i : Instant} (came : parse text = .ok i) :
    parse (render i) = .ok i :=
  parse_render (proper_of_parse came).1 (proper_of_parse came).2

end PluginHost.Time
