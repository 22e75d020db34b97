import PluginHost.Json.Cursor
import PluginHost.Proofs.Json.Parts

set_option autoImplicit false

namespace PluginHost.Json.Cursor

variable {α : Type}

/-- From any place where some characters come before the rest, a reader answers a value and stops
at the rest. -/
def Reads (read : Cursor → Reading α) (chars : List Char) (value : α) (rest : List Char) : Prop :=
  ∀ c : Cursor, c.rest = chars ++ rest → ∃ after, read c = .ok (value, after) ∧ after.rest = rest

theorem rest_skip (c : Cursor) (count : Nat) : (c.skip count).rest = c.rest.drop count := rfl

theorem rest_skip_one {c : Cursor} {char : Char} {rest : List Char} (next : c.rest = char :: rest) :
    (c.skip 1).rest = rest := by
  rw [rest_skip, next]
  rfl

theorem rest_advance {c : Cursor} {char : Char} {rest : List Char} (next : c.rest = char :: rest) :
    c.advance.rest = rest := by
  unfold advance
  split
  next none_ => rw [none_] at next; cases next
  next rest' some_ => rw [some_] at next; cases next; rfl
  next char' rest' _ some_ => rw [some_] at next; cases next; rfl

/-- Skipping blanks drops them. -/
theorem rest_skipBlanks (c : Cursor) : c.skipBlanks.rest = c.rest.dropWhile isBlank := by
  have in_ : ∀ (chars : List Char) (c : Cursor), c.rest = chars →
      (skipBlanksIn chars c).rest = chars.dropWhile isBlank := by
    intro chars
    induction chars with
    | nil => exact fun c none_ => none_
    | cons char rest ih =>
      intro c next
      rw [skipBlanksIn, List.dropWhile_cons]
      split
      · exact ih _ (rest_advance next)
      · exact next
  exact in_ c.rest c rfl

/-- Where no blank comes next, skipping blanks does nothing. -/
theorem skipBlanks_of_solid {c : Cursor} {char : Char} {rest : List Char}
    (next : c.rest = char :: rest) (solid : isBlank char = false) : c.skipBlanks = c := by
  rw [skipBlanks, next, skipBlanksIn, solid]
  rfl

/-- What may follow a number: nothing, or the end of an item or of what it is in. -/
def Ends (rest : List Char) : Prop :=
  rest = [] ∨ ∃ char others, rest = char :: others ∧ (char = ',' ∨ char = ']' ∨ char = '\x7d')

theorem afterInteger_of_ends {c : Cursor} (ends : Ends c.rest) (positive : Bool)
    (significand : Nat) : c.afterInteger positive significand =
      if positive then .ok (.int significand, c)
      else if significand = 0 ∨ -(significand : Int) < Number.minInt then
        .ok (.float (-significand.toUInt64.toFloat), c)
      else .ok (.int (-(significand : Int)), c) := by
  unfold afterInteger
  rcases ends with none_ | ⟨char, others, next, mark⟩
  · rw [none_]
  · rw [next]
    rcases mark with rfl | rfl | rfl <;> rfl

theorem le_ofDigitChars (digits : List Char) (start : Nat) :
    start ≤ Nat.ofDigitChars 10 digits start := by
  rw [Nat.ofDigitChars_eq_ofDigitChars_zero]
  have most := Nat.le_mul_of_pos_left start (Nat.pow_pos (n := digits.length) (show 0 < 10 by omega))
  omega

theorem not_digit_of_ends {rest others : List Char} {char : Char} (ends : Ends rest)
    (next : rest = char :: others) : char.isDigit = false := by
  rcases ends with none_ | ⟨mark, _, same, which⟩
  · rw [none_] at next
    cases next
  · rw [next] at same
    cases same
    rcases which with rfl | rfl | rfl <;> rfl

/-- Digits are gathered as long as their number fits a word. -/
theorem integerDigits_of_digits (positive : Bool) {digits rest : List Char}
    (each : ∀ d ∈ digits, d.isDigit = true) (ends : Ends rest) {start : Nat}
    (fits : Nat.ofDigitChars 10 digits start ≤ Number.maxWord) {c : Cursor}
    (next : c.rest = digits ++ rest) :
    ∃ after : Cursor, integerDigits positive (digits ++ rest) start c =
        after.afterInteger positive (Nat.ofDigitChars 10 digits start) ∧ after.rest = rest := by
  induction digits generalizing start c with
  | nil =>
    refine ⟨c, ?_, next⟩
    cases rest with
    | nil => rfl
    | cons char others =>
      rw [List.nil_append, integerDigits, not_digit_of_ends ends rfl]
      rfl
  | cons d digits ih =>
    have digit := each d List.mem_cons_self
    rw [Nat.ofDigitChars_cons, Nat.mul_comm] at fits ⊢
    have small : ¬ start * 10 + (d.toNat - '0'.toNat) > Number.maxWord := by
      have grows := le_ofDigitChars digits (start * 10 + (d.toNat - '0'.toNat))
      omega
    obtain ⟨after, reads, stops⟩ := ih (fun e member => each e (List.mem_cons_of_mem _ member))
      fits (rest_skip_one next)
    refine ⟨after, ?_, stops⟩
    rw [← reads, List.cons_append, integerDigits, if_pos digit]
    simp only [small, if_false]

/-- Of all numbers only zero is written with a zero in front. -/
theorem head_toDigits {n : Nat} (positive : 0 < n) :
    ∃ d digits, Nat.toDigits 10 n = d :: digits ∧ d ≠ '0' := by
  induction n using Nat.strongRecOn with
  | ind n ih =>
    by_cases small : n < 10
    · have written : ∀ m : Fin 10, 0 < m.val → m.val.digitChar ≠ '0' := by decide
      exact ⟨n.digitChar, [], Nat.toDigits_of_lt_base small, written ⟨n, small⟩ positive⟩
    · obtain ⟨d, digits, front, other⟩ := ih (n / 10) (by omega) (by omega)
      refine ⟨d, digits ++ [(n % 10).digitChar], ?_, other⟩
      rw [Nat.toDigits_of_base_le (by omega) (by omega), front, List.cons_append]

/-- The digits of a number that fits a word are taken as a whole. -/
theorem number_of_digits (positive : Bool) {n : Nat} (fits : n ≤ Number.maxWord)
    {rest : List Char} (ends : Ends rest) {c : Cursor} (next : c.rest = Nat.toDigits 10 n ++ rest) :
    ∃ after : Cursor, c.number positive = after.afterInteger positive n ∧ after.rest = rest := by
  rcases Nat.eq_zero_or_pos n with rfl | some_
  · rw [Nat.toDigits_zero, List.singleton_append] at next
    refine ⟨c.skip 1, ?_, rest_skip_one next⟩
    unfold number
    rw [next]
    cases rest with
    | nil => rfl
    | cons char others => simp [not_digit_of_ends ends rfl]
  · obtain ⟨d, digits, written, other⟩ := head_toDigits some_
    have each : ∀ e ∈ Nat.toDigits 10 n, e.isDigit = true := fun _ member =>
      Number.isDigit_toDigits member
    have digit : d.isDigit = true := each d (written ▸ List.mem_cons_self)
    have all : Nat.ofDigitChars 10 (Nat.toDigits 10 n) 0 ≤ Number.maxWord := by
      rwa [Nat.ofDigitChars_ten_toDigits]
    have whole := integerDigits_of_digits positive each ends all next
    rw [Nat.ofDigitChars_ten_toDigits, ← next] at whole
    rw [written, List.cons_append] at next
    unfold number
    split
    next none_ => rw [none_] at next; cases next
    next others zero => rw [zero] at next; cases next; exact absurd rfl other
    next char others _ some_ =>
      rw [some_] at next
      cases next
      rwa [if_pos digit]

/-- Every character is one byte at least. -/
theorem le_bytesUpTo (limit : Nat) (chars : List Char) :
    min limit chars.length ≤ bytesUpTo limit chars := by
  induction chars generalizing limit with
  | nil => simp
  | cons char rest ih =>
    have size := Char.utf8Size_pos char
    have later := ih (limit - char.utf8Size)
    rw [bytesUpTo, List.length_cons]
    split <;> omega

/-- The four digits that spell the code of a control. -/
def controlDigits (code : Nat) : List Char :=
  ("00" ++ (if code < 0x10 then "0" else "") ++ Text.hexadecimal code).toList

theorem hexValue_controlDigits : ∀ code : Fin 0x20,
    (controlDigits code).map hexValue =
      [some 0, some 0, some (code.val / 0x10), some (code.val % 0x10)] := by
  decide

theorem hexEscape_of_control {code : Nat} (control : code < 0x20) {rest : List Char} {c : Cursor}
    (next : c.rest = controlDigits code ++ rest) :
    c.hexEscape = .ok (code, c.skip 4) ∧ (c.skip 4).rest = rest := by
  have values := hexValue_controlDigits ⟨code, control⟩
  have four : (controlDigits code).length = 4 := by
    rw [← List.length_map (f := hexValue), values]
    rfl
  have enough : ¬ bytesUpTo 4 c.rest < 4 := by
    have least := le_bytesUpTo 4 c.rest
    rw [next, List.length_append, four] at least
    rw [next]
    omega
  have taken : c.rest.take 4 = controlDigits code := by
    rw [next, ← four, List.take_left]
  have spelled : ((0 * 16 + 0) * 16 + code / 0x10) * 16 + code % 0x10 = code := by omega
  constructor
  · rw [hexEscape, if_neg enough, taken, values]
    simp only [spelled]
  · rw [rest_skip, next, ← four, List.drop_left]

theorem stringChars_of_escape {fuel : Nat} {found : List Char} {char : Char} {more : List Char}
    {c after : Cursor} (next : c.rest = '\\' :: more)
    (escaped : escape (c.skip 1) = .ok (char, after)) :
    stringChars (fuel + 1) found c = stringChars fuel (char :: found) after := by
  rw [stringChars, next]
  simp only [escaped]

theorem escape_of_control {code : Nat} (control : code < 0x20) {rest : List Char} {c : Cursor}
    (next : c.rest = 'u' :: controlDigits code ++ rest) :
    ∃ after, escape c = .ok (Char.ofNat code, after) ∧ after.rest = rest := by
  obtain ⟨digits, stops⟩ := hexEscape_of_control control (rest_skip_one next)
  refine ⟨_, ?_, stops⟩
  have low : ¬ (0xdc00 ≤ code ∧ code ≤ 0xdfff) := by omega
  have plain : code < 0xd800 ∨ 0xdbff < code := by omega
  rw [escape, next]
  simp only [List.cons_append, unicodeEscape, digits, low, plain, if_false, if_true]

/-- What is written of a character stands for that character. -/
theorem stringChars_escapeChar (fuel : Nat) (found : List Char) (char : Char) {rest : List Char}
    {c : Cursor} (next : c.rest = (escapeChar char).toList ++ rest) :
    ∃ after : Cursor, stringChars (fuel + 1) found c = stringChars fuel (char :: found) after ∧
      after.rest = rest := by
  have marked : ∀ letter : Char, c.rest = '\\' :: letter :: rest →
      (∀ line column, escape ⟨letter :: rest, line, column⟩ =
        .ok (char, ⟨rest, line, column + 1⟩)) →
      ∃ after : Cursor, stringChars (fuel + 1) found c = stringChars fuel (char :: found) after ∧
        after.rest = rest := by
    intro letter next escaped
    have behind : c.skip 1 = ⟨letter :: rest, c.line, c.column + 1⟩ := by rw [skip, next]; rfl
    exact ⟨_, stringChars_of_escape next (behind ▸ escaped _ _), rfl⟩
  unfold escapeChar at next
  split at next
  · exact marked '"' next fun _ _ => rfl
  · exact marked '\\' next fun _ _ => rfl
  · exact marked 'b' next fun _ _ => rfl
  · exact marked 'f' next fun _ _ => rfl
  · exact marked 'n' next fun _ _ => rfl
  · exact marked 'r' next fun _ _ => rfl
  · exact marked 't' next fun _ _ => rfl
  next quote backslash _ _ _ _ _ =>
    split at next
    next control =>
      have digits : c.rest = '\\' :: ('u' :: controlDigits char.toNat ++ rest) := by
        rw [next, controlDigits]
        simp
      obtain ⟨after, escaped, stops⟩ := escape_of_control control (rest_skip_one digits)
      rw [Char.ofNat_toNat] at escaped
      exact ⟨after, stringChars_of_escape digits escaped, stops⟩
    next plain =>
      have here : c.rest = char :: rest := by simpa using next
      refine ⟨c.advance, ?_, rest_advance here⟩
      rw [stringChars, here]
      split
      next none_ => cases none_
      next written => cases written; exact absurd rfl quote
      next written => cases written; exact absurd rfl backslash
      next written => cases written; rw [if_neg plain]

/-- The characters of a string, written one by one. -/
theorem stringChars_written (text : List Char) {fuel : Nat} (enough : text.length < fuel)
    (found : List Char) {rest : List Char} {c : Cursor}
    (next : c.rest = text.flatMap (fun char => (escapeChar char).toList) ++ '"' :: rest) :
    ∃ after : Cursor, stringChars fuel found c = .ok (text.reverse ++ found, after) ∧
      after.rest = rest := by
  induction text generalizing fuel found c with
  | nil =>
    obtain ⟨fuel, rfl⟩ := Nat.exists_eq_add_one_of_ne_zero (show fuel ≠ 0 by omega)
    refine ⟨c.skip 1, ?_, rest_skip_one next⟩
    rw [stringChars, next]
    rfl
  | cons char text ih =>
    rw [List.length_cons] at enough
    obtain ⟨fuel, rfl⟩ := Nat.exists_eq_add_one_of_ne_zero (show fuel ≠ 0 by omega)
    rw [List.flatMap_cons, List.append_assoc] at next
    have less : text.length < fuel := by omega
    obtain ⟨behind, first, stops⟩ := stringChars_escapeChar fuel found char next
    obtain ⟨after, others, ends⟩ := ih less (char :: found) stops
    refine ⟨after, ?_, ends⟩
    rw [first, others, List.reverse_cons, List.append_assoc, List.singleton_append]

theorem length_le_escaped (text : List Char) :
    text.length ≤ (text.flatMap fun char => (escapeChar char).toList).length := by
  have some_ : ∀ char, 1 ≤ (escapeChar char).toList.length := by
    intro char
    unfold escapeChar
    split
    any_goals decide
    split
    · simp
    · simp
  induction text with
  | nil => exact Nat.le_refl _
  | cons char rest ih =>
    have here := some_ char
    rw [List.flatMap_cons, List.length_append, List.length_cons]
    omega

/-- A string is read as it was written. -/
theorem string_reads (s : String) (rest : List Char) :
    Reads (fun c => string (c.skip 1)) (renderString s).toList s rest := by
  intro c next
  rw [toList_renderString, List.cons_append, List.cons_append, List.append_assoc] at next
  have inside := rest_skip_one next
  have enough : s.toList.length < (c.skip 1).rest.length + 1 := by
    have longer := length_le_escaped s.toList
    rw [inside, List.length_append]
    omega
  obtain ⟨after, chars, stops⟩ := stringChars_written s.toList enough [] inside
  refine ⟨after, ?_, stops⟩
  dsimp only
  rw [string, chars]
  simp

end PluginHost.Json.Cursor
