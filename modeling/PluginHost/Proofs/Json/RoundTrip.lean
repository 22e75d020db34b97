import PluginHost.Json.Reader
import PluginHost.Proofs.Json.Tokens
import PluginHost.Proofs.Members

/-!
Reading back what is written. A value whose numbers are integers is read again from its compact
text, with blanks before it or none, as long as no more containers are open at once than the reader
allows. The lists and objects in it are read by the same argument whatever their parts are: a part
is read where it stands, and the loop goes on behind it.
-/

set_option autoImplicit false

namespace PluginHost.Json

namespace Cursor

variable {α : Type}

theorem length_le_behind (write : α → List Char) (parts : List α) :
    parts.length ≤ (behind write parts).length := by
  induction parts with
  | nil => exact Nat.le_refl _
  | cons part rest ih =>
    rw [behind, List.flatMap_cons, List.length_append, List.length_cons, List.length_cons]
    rw [behind] at ih
    omega

/-- Behind a part comes a comma or the end of what it is in. -/
theorem ends_behind {close : Char} (closes : close = ']' ∨ close = '\x7d')
    (write : α → List Char) (parts : List α) (rest : List Char) :
    Ends (behind write parts ++ close :: rest) := by
  cases parts with
  | nil => exact .inr ⟨close, rest, rfl, .inr closes⟩
  | cons part others => exact .inr ⟨',', _, rfl, .inl rfl⟩

theorem nextItem_of_end (first : Bool) {c : Cursor} {rest : List Char}
    (next : c.rest = ']' :: rest) : nextItem first c = .ok (false, c) := by
  rw [nextItem, skipBlanks_of_solid next rfl]
  simp only [next]

theorem nextItem_of_first {c : Cursor} {char : Char} {rest : List Char}
    (next : c.rest = char :: rest) (solid : isBlank char = false) (other : char ≠ ']') :
    nextItem true c = .ok (true, c) := by
  rw [nextItem, skipBlanks_of_solid next solid, next]
  split
  next none_ => cases none_
  next close => cases close; exact absurd rfl other
  next some_ => rfl

theorem nextItem_of_comma {c : Cursor} {char : Char} {rest : List Char}
    (next : c.rest = ',' :: char :: rest) (solid : isBlank char = false) (other : char ≠ ']') :
    nextItem false c = .ok (true, c.skip 1) := by
  have inside := rest_skip_one next
  rw [nextItem, skipBlanks_of_solid next rfl, next]
  split
  next none_ => cases none_
  next close => cases close
  next some_ =>
    cases some_
    rw [if_neg Bool.false_ne_true, if_pos rfl]
    dsimp only
    rw [skipBlanks_of_solid inside solid, inside]
    split
    next none_ => cases none_
    next close => cases close; exact absurd rfl other
    next => rfl

section Items

variable {item : Cursor → Reading α} {write : α → List Char}

/-- How the text of an item begins: with no blank, and not as if the list ended. -/
def Begins (chars : List Char) : Prop :=
  ∃ char rest, chars = char :: rest ∧ isBlank char = false ∧ char ≠ ']'

/-- The loop goes from comma to comma and ends at the bracket. -/
theorem items_behind {parts : List α} (begins : ∀ x ∈ parts, Begins (write x))
    (each : ∀ x ∈ parts, ∀ rest, Ends rest → Reads item (write x) x rest) {fuel : Nat}
    (enough : parts.length < fuel) (found : List α) {rest : List Char} {c : Cursor}
    (next : c.rest = behind write parts ++ ']' :: rest) :
    ∃ after : Cursor, items item fuel false found c = .ok (found.reverse ++ parts, after) ∧
      after.rest = ']' :: rest := by
  induction parts generalizing fuel found c with
  | nil =>
    obtain ⟨fuel, rfl⟩ := Nat.exists_eq_add_one_of_ne_zero (show fuel ≠ 0 by omega)
    exact ⟨c, by rw [items, nextItem_of_end false next, List.append_nil], next⟩
  | cons x parts ih =>
    rw [List.length_cons] at enough
    obtain ⟨fuel, rfl⟩ := Nat.exists_eq_add_one_of_ne_zero (show fuel ≠ 0 by omega)
    have less : parts.length < fuel := by omega
    obtain ⟨char, more, begin_, solid, other⟩ := begins x List.mem_cons_self
    have comma : c.rest = ',' :: (write x ++ (behind write parts ++ ']' :: rest)) := by
      rw [next, behind, List.flatMap_cons, List.append_assoc, List.cons_append]
      rfl
    obtain ⟨here, reads, stops⟩ := each x List.mem_cons_self _
      (ends_behind (.inl rfl) write parts rest) (c.skip 1) (rest_skip_one comma)
    obtain ⟨after, others, ends⟩ := ih (fun y member => begins y (List.mem_cons_of_mem _ member))
      (fun y member => each y (List.mem_cons_of_mem _ member)) less (x :: found) stops
    rw [begin_, List.cons_append] at comma
    refine ⟨after, ?_, ends⟩
    rw [items, nextItem_of_comma comma solid other]
    simp only [reads, others, List.reverse_cons, List.append_assoc, List.singleton_append]

/-- A list is read if its items are, wherever they stand. -/
theorem list_reads {parts : List α} (begins : ∀ x ∈ parts, Begins (write x))
    (each : ∀ x ∈ parts, ∀ rest, Ends rest → Reads item (write x) x rest) (rest : List Char) :
    Reads (list item) (joined write parts ++ [']']) parts rest := by
  intro c next
  rw [List.append_assoc, List.singleton_append] at next
  have inside : ∃ after : Cursor, items item (c.rest.length + 1) true [] c = .ok (parts, after) ∧
      after.rest = ']' :: rest := by
    cases parts with
    | nil => exact ⟨c, by rw [items, nextItem_of_end true next]; rfl, next⟩
    | cons x parts =>
      rw [joined, List.append_assoc] at next
      have enough : parts.length < c.rest.length := by
        have longer := length_le_behind write parts
        rw [next, List.length_append, List.length_append, List.length_cons]
        omega
      obtain ⟨here, reads, stops⟩ := each x List.mem_cons_self _
        (ends_behind (.inl rfl) write parts rest) c next
      obtain ⟨after, others, ends⟩ := items_behind
        (fun y member => begins y (List.mem_cons_of_mem _ member))
        (fun y member => each y (List.mem_cons_of_mem _ member)) enough [x] stops
      obtain ⟨char, more, begin_, solid, other⟩ := begins x List.mem_cons_self
      rw [begin_, List.cons_append] at next
      refine ⟨after, ?_, ends⟩
      rw [items, nextItem_of_first next solid other]
      simp only [reads, others, List.reverse_singleton, List.singleton_append]
  obtain ⟨after, inside, ends⟩ := inside
  refine ⟨after.skip 1, ?_, rest_skip_one ends⟩
  rw [list, inside]
  simp only [closeList, skipBlanks_of_solid ends rfl, ends]

end Items

theorem nextKey_of_end (first : Bool) {c : Cursor} {rest : List Char}
    (next : c.rest = '\x7d' :: rest) : nextKey first c = .ok (false, c) := by
  rw [nextKey, skipBlanks_of_solid next rfl]
  simp only [next]

theorem nextKey_of_first {c : Cursor} {rest : List Char} (next : c.rest = '"' :: rest) :
    nextKey true c = .ok (true, c) := by
  rw [nextKey, skipBlanks_of_solid next rfl, next]
  rfl

theorem nextKey_of_comma {c : Cursor} {rest : List Char} (next : c.rest = ',' :: '"' :: rest) :
    nextKey false c = .ok (true, c.skip 1) := by
  have inside := rest_skip_one next
  rw [nextKey, skipBlanks_of_solid next rfl, next]
  simp only [skipBlanks_of_solid inside rfl, inside]
  rfl

section Members

variable {part : Cursor → Reading α} {write : α → List Char}

/-- A key, a colon and a value. -/
theorem member_reads {m : String × α} {rest : List Char} (each : Reads part (write m.2) m.2 rest)
    {c : Cursor} (next : c.rest = memberText write m ++ rest) :
    ∃ keyed pointed after : Cursor, string (c.skip 1) = .ok (m.1, keyed) ∧
      colon keyed = .ok pointed ∧ part pointed = .ok (m.2, after) ∧ after.rest = rest := by
  rw [memberText, List.append_assoc, List.cons_append] at next
  obtain ⟨keyed, key, stops⟩ := string_reads m.1 _ c next
  obtain ⟨after, value, ends⟩ := each (keyed.skip 1) (rest_skip_one stops)
  refine ⟨keyed, keyed.skip 1, after, key, ?_, value, ends⟩
  rw [colon, skipBlanks_of_solid stops rfl]
  simp only [stops]

/-- The loop goes from comma to comma and ends at the brace. -/
theorem members_behind {parts : Members α}
    (each : ∀ m ∈ parts, ∀ rest, Ends rest → Reads part (write m.2) m.2 rest) {fuel : Nat}
    (enough : parts.length < fuel) (found : Members α) {rest : List Char} {c : Cursor}
    (next : c.rest = behind (memberText write) parts ++ '\x7d' :: rest) :
    ∃ after : Cursor, members part fuel false found c =
        .ok (parts.foldl (fun members m => members.insert m.1 m.2) found, after) ∧
      after.rest = '\x7d' :: rest := by
  induction parts generalizing fuel found c with
  | nil =>
    obtain ⟨fuel, rfl⟩ := Nat.exists_eq_add_one_of_ne_zero (show fuel ≠ 0 by omega)
    exact ⟨c, by rw [members, nextKey_of_end false next]; rfl, next⟩
  | cons m parts ih =>
    rw [List.length_cons] at enough
    obtain ⟨fuel, rfl⟩ := Nat.exists_eq_add_one_of_ne_zero (show fuel ≠ 0 by omega)
    have less : parts.length < fuel := by omega
    have comma : c.rest =
        ',' :: (memberText write m ++ (behind (memberText write) parts ++ '\x7d' :: rest)) := by
      rw [next, behind, List.flatMap_cons, List.append_assoc, List.cons_append]
      rfl
    obtain ⟨keyed, pointed, here, key, sign, value, stops⟩ := member_reads
      (each m List.mem_cons_self _ (ends_behind (.inr rfl) (memberText write) parts rest))
      (rest_skip_one comma)
    obtain ⟨after, others, ends⟩ := ih (fun n member => each n (List.mem_cons_of_mem _ member)) less
      (found.insert m.1 m.2) stops
    rw [memberText, toList_renderString] at comma
    refine ⟨after, ?_, ends⟩
    rw [members, nextKey_of_comma comma]
    simp only [key, sign, value, others, List.foldl_cons]

/-- An object is read if its values are, wherever they stand. -/
theorem object_reads {parts : Members α} (ascending : parts.Ascending)
    (each : ∀ m ∈ parts, ∀ rest, Ends rest → Reads part (write m.2) m.2 rest)
    (rest : List Char) :
    Reads (object part) (joined (memberText write) parts ++ ['\x7d']) parts rest := by
  intro c next
  rw [List.append_assoc, List.singleton_append] at next
  have inside : ∃ after : Cursor, members part (c.rest.length + 1) true [] c =
      .ok (Members.ofList parts, after) ∧ after.rest = '\x7d' :: rest := by
    cases parts with
    | nil => exact ⟨c, by rw [members, nextKey_of_end true next]; rfl, next⟩
    | cons m parts =>
      rw [joined, List.append_assoc] at next
      have enough : parts.length < c.rest.length := by
        have longer := length_le_behind (memberText write) parts
        rw [next, List.length_append, List.length_append, List.length_cons]
        omega
      obtain ⟨keyed, pointed, here, key, sign, value, stops⟩ := member_reads
        (each m List.mem_cons_self _ (ends_behind (.inr rfl) (memberText write) parts rest)) next
      obtain ⟨after, others, ends⟩ := members_behind
        (fun n member => each n (List.mem_cons_of_mem _ member)) enough
        (Members.insert m.1 m.2 []) stops
      rw [memberText, toList_renderString] at next
      refine ⟨after, ?_, ends⟩
      rw [members, nextKey_of_first next]
      simp only [key, sign, value, others]
      rfl
  obtain ⟨after, inside, ends⟩ := inside
  refine ⟨after.skip 1, ?_, rest_skip_one ends⟩
  rw [object, inside, Members.ofList_of_ascending ascending]
  simp only [closeObject, skipBlanks_of_solid ends rfl, ends]

end Members

/-- A value may have blanks before it. -/
theorem value_skipBlanks (depth : Nat) (c : Cursor) : value depth c.skipBlanks = value depth c := by
  have once : c.skipBlanks.skipBlanks = c.skipBlanks := by
    cases rest : c.skipBlanks.rest with
    | nil => rw [skipBlanks.eq_def c.skipBlanks, rest, skipBlanksIn]
    | cons char others =>
      have stops := List.head?_dropWhile_not isBlank c.rest
      rw [← rest_skipBlanks, rest] at stops
      exact skipBlanks_of_solid rest (by simpa using stops)
  rw [value.eq_def, value.eq_def depth c]
  simp only [once]

/-- The letters of a word are taken one by one. -/
theorem word_reads (letters : List Char) {rest : List Char} {c : Cursor}
    (next : c.rest = letters ++ rest) :
    ∃ after : Cursor, word letters c = .ok after ∧ after.rest = rest := by
  induction letters generalizing c with
  | nil => exact ⟨c, rfl, next⟩
  | cons letter letters ih =>
    obtain ⟨after, others, ends⟩ := ih (rest_advance next)
    refine ⟨after, ?_, ends⟩
    rw [word, next, List.cons_append]
    simp only [if_true, others]

theorem literal_reads (letters : String) (result : Json) {first : Char} {rest : List Char}
    {c : Cursor} (next : c.rest = first :: (letters.toList ++ rest)) :
    ∃ after : Cursor, literal letters result c = .ok (result, after) ∧ after.rest = rest := by
  obtain ⟨after, reads, stops⟩ := word_reads letters.toList (rest_skip_one next)
  refine ⟨after, ?_, stops⟩
  rw [literal, reads]

/-- A word is read as the value that it names. -/
theorem value_of_word (depth : Nat) (first : Char) (letters : String) (result : Json)
    (names : (first, letters, result) ∈ [('n', "ull", Json.null), ('t', "rue", .bool true),
      ('f', "alse", .bool false)]) {rest : List Char} :
    Reads (value depth) (first :: letters.toList) result rest := by
  intro c next
  obtain ⟨after, reads, stops⟩ := literal_reads letters result next
  refine ⟨after, ?_, stops⟩
  rw [← reads, value.eq_def]
  simp only [List.mem_cons, List.not_mem_nil, or_false, Prod.mk.injEq] at names
  rcases names with ⟨rfl, rfl, rfl⟩ | ⟨rfl, rfl, rfl⟩ | ⟨rfl, rfl, rfl⟩
  all_goals
    simp only [skipBlanks_of_solid next rfl]
    rw [next]
    rfl

theorem solid_of_digit {d : Char} (digit : d.isDigit = true) : isBlank d = false := by
  rw [Bool.eq_false_iff]
  intro blank
  simp only [isBlank, Bool.or_eq_true, decide_eq_true_eq] at blank
  rcases blank with ((rfl | rfl) | rfl) | rfl
  all_goals exact absurd digit (by decide)

theorem value_of_digit (depth : Nat) {c : Cursor} {d : Char} {rest : List Char}
    (next : c.rest = d :: rest) (digit : d.isDigit = true) :
    value depth c = numberJson true c := by
  rw [value.eq_def]
  simp only [skipBlanks_of_solid next (solid_of_digit digit)]
  rw [next]
  split
  next none_ => cases none_
  iterate 7 next written => cases written; exact absurd digit (by decide)
  next written => cases written; exact if_pos digit

theorem value_of_minus (depth : Nat) {c : Cursor} {rest : List Char} (next : c.rest = '-' :: rest) :
    value depth c = numberJson false (c.skip 1) := by
  rw [value.eq_def]
  simp only [skipBlanks_of_solid next rfl]
  rw [next]
  rfl

/-- An integer that fits a word is read with its sign. -/
theorem int_reads {n : Int} (least : Number.minInt ≤ n) (most : n ≤ Number.maxWord) (depth : Nat)
    {rest : List Char} (ends : Ends rest) :
    Reads (value depth) (render (.int n)).toList (.int n) rest := by
  intro c next
  have fits : n.natAbs ≤ Number.maxWord := by
    simp only [Number.minInt, Number.maxWord] at *
    omega
  rw [render, Number.toList_toString] at next
  by_cases negative : n < 0
  · rw [if_pos negative, List.append_assoc, List.singleton_append] at next
    obtain ⟨after, digits, stops⟩ := number_of_digits false fits ends (rest_skip_one next)
    have value_ : -(n.natAbs : Int) = n := by omega
    have small : ¬ (n.natAbs = 0 ∨ n < Number.minInt) := by omega
    refine ⟨after, ?_, stops⟩
    rw [value_of_minus depth next, numberJson, digits, afterInteger_of_ends (stops ▸ ends)]
    rw [if_neg Bool.false_ne_true, value_, if_neg small]
    rfl
  · rw [if_neg negative, List.nil_append] at next
    obtain ⟨after, digits, stops⟩ := number_of_digits true fits ends next
    have value_ : (n.natAbs : Int) = n := by omega
    obtain ⟨d, more, written, digit⟩ := Number.exists_toDigits_cons n.natAbs
    refine ⟨after, ?_, stops⟩
    rw [written, List.cons_append] at next
    rw [value_of_digit depth next digit, numberJson, digits, afterInteger_of_ends (stops ▸ ends),
      if_pos rfl, value_]
    rfl

theorem value_of_string (depth : Nat) {s : String} {rest : List Char} :
    Reads (value depth) (renderString s).toList (.string s) rest := by
  intro c next
  obtain ⟨after, reads, stops⟩ := string_reads s rest c next
  rw [toList_renderString] at next
  refine ⟨after, ?_, stops⟩
  rw [value.eq_def]
  simp only [skipBlanks_of_solid next rfl]
  rw [next]
  simp only [List.cons_append, reads]

theorem value_of_list {depth : Nat} {c after : Cursor} {rest : List Char}
    (next : c.rest = '[' :: rest) {items : List Json}
    (inside : list (value depth) (c.skip 1) = .ok (items, after)) :
    value (depth + 1) c = .ok (.array items, after) := by
  rw [value.eq_def]
  simp only [skipBlanks_of_solid next rfl]
  rw [next]
  simp only [inside]

theorem value_of_object {depth : Nat} {c after : Cursor} {rest : List Char}
    (next : c.rest = '\x7b' :: rest) {members : Members Json}
    (inside : object (value depth) (c.skip 1) = .ok (members, after)) :
    value (depth + 1) c = .ok (.object members, after) := by
  rw [value.eq_def]
  simp only [skipBlanks_of_solid next rfl]
  rw [next]
  simp only [inside]

theorem begins_of_whole {value : Json} (whole : value.Whole) : Begins value.render.toList := by
  cases whole with
  | null => exact ⟨'n', _, rfl, rfl, by decide⟩
  | bool b => cases b <;> exact ⟨_, _, rfl, rfl, by decide⟩
  | string s => exact ⟨'"', _, toList_renderString s, rfl, by decide⟩
  | array _ => exact ⟨'[', _, toList_render_array _, rfl, by decide⟩
  | object _ _ => exact ⟨'\x7b', _, toList_render_object _, rfl, by decide⟩
  | @int n _ _ =>
    rw [render, Number.toList_toString]
    by_cases negative : n < 0
    · exact ⟨'-', _, by rw [if_pos negative]; rfl, rfl, by decide⟩
    · obtain ⟨d, more, written, digit⟩ := Number.exists_toDigits_cons n.natAbs
      refine ⟨d, more, by rw [if_neg negative, written]; rfl, solid_of_digit digit, ?_⟩
      rintro rfl
      exact absurd digit (by decide)

/-- A value whose numbers are integers is read where it stands, if what it nests may be opened. -/
theorem value_reads {v : Json} (whole : v.Whole) {depth : Nat} (shallow : v.depth ≤ depth)
    {rest : List Char} (ends : Ends rest) : Reads (value depth) v.render.toList v rest := by
  induction whole generalizing depth rest with
  | null => exact value_of_word depth 'n' "ull" .null (by simp)
  | bool b =>
    cases b with
    | true => exact value_of_word depth 't' "rue" (.bool true) (by simp)
    | false => exact value_of_word depth 'f' "alse" (.bool false) (by simp)
  | int least most => exact int_reads least most depth ends
  | string s => exact value_of_string depth
  | @array items each ih =>
    rw [Json.depth] at shallow
    obtain ⟨depth, rfl⟩ := Nat.exists_eq_add_one_of_ne_zero (show depth ≠ 0 by omega)
    intro c next
    rw [toList_render_array, List.cons_append] at next
    have parts : ∀ item ∈ items, ∀ rest, Ends rest →
        Reads (value depth) item.render.toList item rest := by
      intro item member rest ends
      have deep := depth_le_of_item member
      exact ih item member (by omega) ends
    obtain ⟨after, inside, stops⟩ := list_reads
      (fun item member => begins_of_whole (each item member)) parts rest _ (rest_skip_one next)
    exact ⟨after, value_of_list next inside, stops⟩
  | @object members ascending each ih =>
    rw [Json.depth] at shallow
    obtain ⟨depth, rfl⟩ := Nat.exists_eq_add_one_of_ne_zero (show depth ≠ 0 by omega)
    intro c next
    rw [toList_render_object, List.cons_append] at next
    have parts : ∀ m ∈ members, ∀ rest, Ends rest →
        Reads (value depth) m.2.render.toList m.2 rest := by
      intro m member rest ends
      have deep := depth_le_of_member member
      exact ih m member (by omega) ends
    obtain ⟨after, inside, stops⟩ := object_reads ascending parts rest _ (rest_skip_one next)
    exact ⟨after, value_of_object next inside, stops⟩

end Cursor

/-- A value whose numbers are integers is read from its compact text, blanks before it or none, if
it does not nest deeper than the reader allows. -/
theorem parse_render {v : Json} (whole : v.Whole) (shallow : v.depth ≤ depthLimit) {text : String}
    {blanks : List Char} (blank : ∀ char ∈ blanks, Cursor.isBlank char = true)
    (written : text.toList = blanks ++ v.render.toList) : parse text = .ok v := by
  obtain ⟨char, more, begin_, solid, -⟩ := Cursor.begins_of_whole whole
  have start : (Cursor.ofString text).skipBlanks.rest = v.render.toList ++ [] := by
    rw [Cursor.rest_skipBlanks, Cursor.ofString, written, List.dropWhile_append_of_pos blank, begin_,
      List.dropWhile_cons_of_neg (by rw [solid]; decide), List.append_nil]
  obtain ⟨after, reads, stops⟩ := Cursor.value_reads whole shallow (.inl rfl) _ start
  have ended : after.skipBlanks.rest = [] := by
    rw [Cursor.rest_skipBlanks, stops]
    rfl
  rw [parse, ← Cursor.value_skipBlanks, reads]
  simp only [Cursor.finish, ended]

end PluginHost.Json
