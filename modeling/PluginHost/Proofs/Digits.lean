import Mathlib.Algebra.Group.Nat.Defs
import Mathlib.Data.List.Induction
import PluginHost.Number.Notation
import PluginHost.Number.Reader

set_option autoImplicit false

namespace PluginHost.Number

theorem mem_pushn {c d : Char} {n : Nat} (member : c ∈ ("".pushn d n).toList) : c = d := by
  rw [String.pushn_eq_repeat_push] at member
  induction n with
  | zero => simp [Nat.repeat] at member
  | succ n ih =>
    rw [Nat.repeat, String.toList_push, List.mem_append] at member
    rcases member with old | last
    · exact ih old
    · simpa using last

theorem toList_pushn (c : Char) (n : Nat) : ("".pushn c n).toList = List.replicate n c := by
  have length : ("".pushn c n).toList.length = n := by
    rw [String.length_toList, String.length_pushn]
    exact Nat.zero_add n
  exact List.eq_replicate_iff.2 ⟨length, fun _ member => mem_pushn member⟩

theorem isDigit_toDigits {n : Nat} {c : Char} (member : c ∈ Nat.toDigits 10 n) :
    c.isDigit = true :=
  Nat.isDigit_of_mem_toDigits (by omega) (by omega) member

theorem exists_toDigits_cons (n : Nat) :
    ∃ d more, Nat.toDigits 10 n = d :: more ∧ d.isDigit = true := by
  obtain ⟨d, more, written⟩ := List.exists_cons_of_ne_nil (Nat.toDigits_ne_nil (n := n) (b := 10))
  exact ⟨d, more, written, isDigit_toDigits (written ▸ List.mem_cons_self)⟩

theorem ofDigits_eq (digits : List Char) : ofDigits digits = Nat.ofDigitChars 10 digits 0 := by
  rw [Nat.ofDigitChars_eq_foldl]
  simp [ofDigits, Nat.mul_comm]

theorem ofDigits_toDigits (n : Nat) : ofDigits (Nat.toDigits 10 n) = n := by
  rw [ofDigits_eq, Nat.ofDigitChars_ten_toDigits]

/-- Zeros in front change nothing. -/
theorem ofDigits_zeros (count n : Nat) :
    ofDigits (List.replicate count '0' ++ Nat.toDigits 10 n) = n := by
  rw [ofDigits_eq, Nat.ofDigitChars_append, Nat.ofDigitChars_replicate_zero]
  exact Nat.ofDigitChars_ten_toDigits

/-- As many digits as there are bound the number. -/
theorem ofDigits_lt {digits : List Char} (each : ∀ c ∈ digits, c.isDigit = true) :
    ofDigits digits < 10 ^ digits.length := by
  induction digits using List.reverseRecOn with
  | nil => decide
  | append_singleton front c ih =>
    have before := ih fun d member => each d (List.mem_append_left _ member)
    have last : c.toNat - '0'.toNat ≤ 9 := by
      have digit := each c (List.mem_append_right _ (List.mem_singleton.2 rfl))
      simp only [Char.isDigit, Bool.and_eq_true, decide_eq_true_eq] at digit
      have most : c.toNat ≤ '9'.toNat := digit.2
      have nine : '9'.toNat = '0'.toNat + 9 := rfl
      omega
    have step : ofDigits (front ++ [c]) = ofDigits front * 10 + (c.toNat - '0'.toNat) := by
      simp [ofDigits]
    rw [step, List.length_append, List.length_singleton, Nat.pow_succ]
    omega

/-- How an integer is written: perhaps a minus sign, and digits. -/
theorem toList_toString (n : Int) :
    (toString n).toList = (if n < 0 then ['-'] else []) ++ Nat.toDigits 10 n.natAbs := by
  cases n with
  | ofNat n => simp [toString, Int.repr]
  | negSucc n => simp [toString, Int.repr]

theorem isDigit_toString {n : Nat} {c : Char} (member : c ∈ (toString n).toList) :
    c.isDigit = true := by
  rw [Nat.toString_eq_repr, Nat.toList_repr] at member
  exact isDigit_toDigits member

theorem digit_or_minus {n : Int} {c : Char} (member : c ∈ (toString n).toList) :
    c.isDigit = true ∨ c = '-' := by
  rw [toList_toString, List.mem_append] at member
  rcases member with sign | digit
  · split at sign
    · exact .inr (by simpa using sign)
    · cases sign
  · exact .inl (isDigit_toDigits digit)

/-- What plain notation is made of. -/
theorem digit_or_point {d : Decimal} {point : Bool} {c : Char}
    (member : c ∈ (d.plain point).toList) : c.isDigit = true ∨ c = '.' := by
  have zero : ∀ {n} {c : Char}, c ∈ ("".pushn '0' n).toList → c.isDigit = true := by
    intro n c member
    rw [mem_pushn member]
    rfl
  unfold Decimal.plain at member
  split at member
  · simp only [String.toList_append, List.mem_append] at member
    rcases member with (written | padding) | fraction
    · exact .inl (isDigit_toString written)
    · exact .inl (zero padding)
    · cases point with
      | false => cases fraction
      | true =>
        rcases List.mem_cons.1 fraction with rfl | rest
        · exact .inr rfl
        · rw [List.mem_singleton.1 rest]
          exact .inl rfl
  · simp only [String.toList_append, List.mem_append, String.toList_ofList] at member
    have padded : ∀ {n},
        c ∈ ("".pushn '0' n).toList ∨ c ∈ (toString d.digits).toList → c.isDigit = true := by
      rintro n (padding | written)
      · exact zero padding
      · exact isDigit_toString written
    rcases member with (whole | dot) | fraction
    · exact .inl (padded (List.mem_append.1 (List.mem_of_mem_take whole)))
    · exact .inr (List.mem_singleton.1 dot)
    · exact .inl (padded (List.mem_append.1 (List.mem_of_mem_drop fraction)))

/-- What scientific notation is made of. -/
theorem digit_or_mark {d : Decimal} {c : Char} (member : c ∈ d.scientific.toList) :
    c.isDigit = true ∨ c ∈ ['.', 'e', '-', '+'] := by
  simp only [Decimal.scientific, String.toList_append, List.mem_append, String.toList_ofList]
    at member
  rcases member with (((first | later) | mark) | sign) | exponent
  · exact .inl (isDigit_toString (List.mem_of_mem_take first))
  · split at later
    · cases later
    · simp only [String.toList_append, List.mem_append, String.toList_ofList] at later
      rcases later with point | later
      · exact .inr (by simp_all)
      · exact .inl (isDigit_toString (List.mem_of_mem_drop later))
  · exact .inr (by simp_all)
  · split at sign
    all_goals exact .inr (by simp_all)
  · exact .inl (isDigit_toString exponent)

/-- No number is written over more than one line. -/
theorem line_end_not_mem_render (x : Float) : '\n' ∉ (render x).toList := by
  have body : ∀ d : Decimal, '\n' ∉
      (if -5 ≤ d.magnitude ∧ d.magnitude < 16 then d.plain true else d.scientific).toList := by
    intro d member
    split at member
    · exact absurd (digit_or_point member) (by decide)
    · exact absurd (digit_or_mark member) (by decide)
  unfold render
  split
  · decide
  · decide
  · split
    all_goals decide
  next m _ =>
    dsimp only
    split
    · rw [String.toList_append, List.mem_append]
      exact not_or.2 ⟨by decide, body _⟩
    · exact body _

end PluginHost.Number
