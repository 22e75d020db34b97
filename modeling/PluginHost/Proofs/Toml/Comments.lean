import PluginHost.Toml.Reader

set_option autoImplicit false

namespace PluginHost

namespace Text

def lines (text : String) : List (List Char) := text.toList.splitOn '\n'

/-- Every line is empty or begins with a hash. -/
def Commented (text : String) : Prop := ∀ line ∈ lines text, line = [] ∨ line.head? = some '#'

instance (text : String) : Decidable (Commented text) :=
  List.decidableBAll (fun line => line = [] ∨ line.head? = some '#') (lines text)

/-- What may stand inside a comment with more behind it: after every line end comes a hash, or one
more line end. -/
def FitsComment (chars : List Char) : Prop :=
  ∀ before after, chars = before ++ '\n' :: after →
    after.head? = some '#' ∨ after.head? = some '\n'

/-- Characters begin no line but with a hash, read on from inside a line or from its beginning. -/
def Stays : Bool → List Char → Prop
  | _, [] => True
  | inside, c :: rest =>
    if c = '\n' then Stays false rest else (inside = true ∨ c = '#') ∧ Stays true rest

def insideAfter : Bool → List Char → Bool
  | inside, [] => inside
  | _, c :: rest => insideAfter (c ≠ '\n') rest

@[simp]
theorem stays_nil (inside : Bool) : Stays inside [] := trivial

@[simp]
theorem stays_line_end {inside : Bool} {rest : List Char} :
    Stays inside ('\n' :: rest) ↔ Stays false rest := by
  rw [Stays, if_pos rfl]

theorem stays_cons {inside : Bool} {c : Char} {rest : List Char} (other : c ≠ '\n') :
    Stays inside (c :: rest) ↔ (inside = true ∨ c = '#') ∧ Stays true rest := by
  rw [Stays, if_neg other]

theorem stays_inside {c : Char} {rest : List Char} (other : c ≠ '\n') :
    Stays true (c :: rest) ↔ Stays true rest := by
  rw [stays_cons other]
  exact and_iff_right (.inl rfl)

theorem stays_hash {inside : Bool} {rest : List Char} :
    Stays inside ('#' :: rest) ↔ Stays true rest := by
  rw [stays_cons (by decide)]
  exact and_iff_right (.inr rfl)

/-- A line begins with its end or with a hash. -/
theorem Stays.begins {c : Char} {rest : List Char} (stays : Stays false (c :: rest)) :
    c = '\n' ∨ c = '#' := by
  by_cases ends : c = '\n'
  · exact .inl ends
  · exact .inr (((stays_cons ends).1 stays).1.resolve_left Bool.false_ne_true)

theorem stays_append {inside : Bool} {first later : List Char} :
    Stays inside (first ++ later) ↔
      Stays inside first ∧ Stays (insideAfter inside first) later := by
  induction first generalizing inside with
  | nil => simp [insideAfter]
  | cons c rest ih =>
    by_cases ends : c = '\n'
    · subst ends
      simp [insideAfter, ih]
    · rw [List.cons_append, stays_cons ends, stays_cons ends, ih, insideAfter, and_assoc]
      simp [ends]

theorem insideAfter_append {inside : Bool} {first later : List Char} :
    insideAfter inside (first ++ later) = insideAfter (insideAfter inside first) later := by
  induction first generalizing inside with
  | nil => rfl
  | cons c rest ih => rw [List.cons_append, insideAfter, ih, insideAfter]

/-- Fitting characters stay in comments and end inside of one. -/
theorem fitsComment_iff {chars : List Char} :
    FitsComment chars ↔ Stays true chars ∧ insideAfter true chars = true := by
  -- Where a line begins, the first character counts too; behind a line end the same holds again.
  have from_ : ∀ inside : Bool, Stays inside chars ∧ insideAfter inside chars = true ↔
      (inside = false → chars.head? = some '#' ∨ chars.head? = some '\n') ∧ FitsComment chars := by
    induction chars with
    | nil => intro inside; cases inside <;> simp [insideAfter, FitsComment]
    | cons c rest ih =>
      intro inside
      have splits : FitsComment (c :: rest) ↔
          (c = '\n' → rest.head? = some '#' ∨ rest.head? = some '\n') ∧ FitsComment rest := by
        constructor
        · intro each
          exact ⟨fun ends => each [] rest (by rw [ends]; rfl),
            fun before after parts => each (c :: before) after (by rw [parts]; rfl)⟩
        · rintro ⟨here, later⟩ before after parts
          cases before with
          | nil => obtain ⟨rfl, rfl⟩ := List.cons.inj parts; exact here rfl
          | cons d before => exact later before after (List.cons.inj parts).2
      rw [splits]
      by_cases ends : c = '\n'
      · subst ends
        rw [stays_line_end, insideAfter, decide_eq_false (not_not_intro rfl), ih]
        simp
      · rw [stays_cons ends, insideAfter, decide_eq_true ends, and_assoc, ih]
        cases inside <;> simp [ends]
  rw [from_]
  simp

/-- What is written on one line fits. -/
theorem fitsComment_of_not_mem {chars : List Char} (one : '\n' ∉ chars) : FitsComment chars := by
  intro before after parts
  rw [parts] at one
  exact absurd (List.mem_append_right _ List.mem_cons_self) one

theorem FitsComment.stays_append {first : List Char} (fits : FitsComment first)
    {later : List Char} : Stays true (first ++ later) ↔ Stays true later := by
  obtain ⟨stays, inside⟩ := fitsComment_iff.1 fits
  rw [Text.stays_append, inside]
  exact and_iff_right stays

theorem FitsComment.append {first later : List Char} (fits : FitsComment first)
    (also : FitsComment later) : FitsComment (first ++ later) := by
  rw [fitsComment_iff, fits.stays_append, insideAfter_append, (fitsComment_iff.1 fits).2]
  exact fitsComment_iff.1 also

/-- With more behind it on a line, what stays in comments is what fits. -/
theorem stays_append_cons {chars : List Char} {c : Char} {rest : List Char} (other : c ≠ '\n')
    (noHash : c ≠ '#') :
    Stays true (chars ++ c :: rest) ↔ FitsComment chars ∧ Stays true rest := by
  rw [stays_append, stays_cons other, fitsComment_iff]
  simp [noHash, and_assoc]

theorem commented_iff {text : String} : Commented text ↔ Stays false text.toList := by
  -- From inside a line, the first of the lines is what is left of it and may be anything.
  have from_ : ∀ chars : List Char,
      (Stays false chars ↔ ∀ line ∈ chars.splitOn '\n', line = [] ∨ line.head? = some '#') ∧
      (Stays true chars ↔
        ∀ line ∈ (chars.splitOn '\n').tail, line = [] ∨ line.head? = some '#') := by
    intro chars
    induction chars with
    | nil => simp
    | cons c rest ih =>
      rw [List.splitOn_cons_eq_if_modifyHead]
      by_cases ends : c = '\n'
      · subst ends
        simp [ih.1]
      · obtain ⟨line, others, parts⟩ := List.exists_cons_of_ne_nil (List.splitOn_ne_nil '\n' rest)
        rw [stays_cons ends, stays_cons ends, ih.2, parts]
        simp [ends]
  exact (from_ text.toList).1.symm

end Text

namespace Toml

open Text (Stays Commented)

namespace Cursor

theorem skipBlanks_of_stays {c : Cursor} (stays : Stays false c.rest) : c.skipBlanks = c := by
  have none_ : c.run (fun char => char = ' ' || char = '\t') = [] := by
    rw [run]
    cases rest : c.rest with
    | nil => rfl
    | cons char others =>
      rw [rest] at stays
      rcases stays.begins with rfl | rfl <;> rfl
  rw [skipBlanks, none_]
  rfl

/-- A run goes on up to a character that does not belong to it. -/
theorem run_ends (c : Cursor) (p : Char → Bool) :
    c.rest = c.run p ++ (c.skip (c.run p).length).rest ∧
      ∀ char ∈ (c.skip (c.run p).length).rest.head?, p char = false := by
  have whole : c.run p ++ c.rest.dropWhile p = c.rest := List.takeWhile_append_dropWhile
  have behind : (c.skip (c.run p).length).rest = c.rest.dropWhile p := by
    calc c.rest.drop (c.run p).length
      _ = (c.run p ++ c.rest.dropWhile p).drop (c.run p).length := by rw [whole]
      _ = c.rest.dropWhile p := List.drop_left
  rw [behind]
  refine ⟨whole.symm, fun char first => ?_⟩
  have stops := List.head?_dropWhile_not p c.rest
  rw [Option.mem_def.1 first] at stops
  simpa using stops

theorem lineEnd?_eq_some {c next : Cursor} (ends : c.lineEnd? = some next) :
    ∃ front, c.rest = front ++ '\n' :: next.rest := by
  unfold lineEnd? at ends
  split at ends
  next rest written => cases ends; exact ⟨[], by rw [skip, written]; rfl⟩
  next rest written => cases ends; exact ⟨['\r'], by rw [skip, written]; rfl⟩
  next => cases ends

/-- What no comment may hold. A line end is not in the comment that it ends. -/
def HasControl (chars : List Char) : Prop := ∃ char ∈ chars, isControl char = true ∧ char ≠ '\n'

/-- A comment reaches to the end of its line, if there is no control character before. -/
theorem skipComment_of_stays {c : Cursor} (stays : Stays false c.rest) :
    (∃ after, c.skipComment = .ok after ∧ (after.rest = [] ∨
      ∃ next front, after.lineEnd? = some next ∧ c.rest = front ++ '\n' :: next.rest)) ∨
    (∃ e, c.skipComment = .error e) ∧ HasControl c.rest := by
  rw [skipComment, skipBlanks_of_stays stays]
  dsimp only
  split
  next others hash =>
    obtain ⟨front, first⟩ := run_ends c fun char => char = '\t' || !isControl char
    generalize c.skip _ = after at front first ⊢
    split
    next last => exact .inl ⟨after, rfl, .inl last⟩
    next next ends _ =>
      obtain ⟨back, parts⟩ := lineEnd?_eq_some ends
      rw [parts, ← List.append_assoc] at front
      exact .inl ⟨after, rfl, .inr ⟨next, _, ends, front⟩⟩
    next none_ some_ =>
      obtain ⟨char, more, parts⟩ := List.exists_cons_of_ne_nil (l := after.rest) some_
      have apart : ¬ char = '\t' ∧ isControl char = true := by
        simpa using first char (by rw [parts]; rfl)
      refine .inr ⟨⟨_, rfl⟩, char, ?_, apart.2, ?_⟩
      · rw [front, parts]
        exact List.mem_append_right _ List.mem_cons_self
      · rintro rfl
        rw [lineEnd?, parts] at none_
        cases none_
  next other =>
    refine .inl ⟨c, rfl, ?_⟩
    cases rest : c.rest with
    | nil => exact .inl rfl
    | cons char others =>
      have ends : char = '\n' :=
        (rest ▸ stays : Stays false (char :: others)).begins.resolve_right fun hash =>
          other others (hash ▸ rest)
      subst ends
      have next : c.lineEnd? = some (c.skip 1) := by
        rw [lineEnd?, rest]
        rfl
      exact .inr ⟨_, [], next, by rw [skip, rest]; rfl⟩

/-- A text of comments is skipped as a whole. -/
theorem skipLines_of_stays {fuel : Nat} {c : Cursor} (stays : Stays false c.rest)
    (enough : c.rest.length < fuel) :
    (∃ after, skipLines fuel c = .ok after ∧ after.rest = []) ∨
      (∃ e, skipLines fuel c = .error e) ∧ HasControl c.rest := by
  -- Every round takes a line end, so what is left grows shorter and fuel does not run out.
  induction fuel generalizing c with
  | zero => omega
  | succ fuel ih =>
    rw [skipLines]
    rcases skipComment_of_stays stays with
      ⟨after, line, none_ | ⟨next, front, ends, parts⟩⟩ | ⟨⟨e, line⟩, control⟩
    · have last : after.lineEnd? = none := by rw [lineEnd?, none_]
      exact .inl ⟨after, by simp only [line, last], none_⟩
    · rw [parts, Text.stays_append, Text.stays_line_end] at stays
      rw [parts, List.length_append, List.length_cons] at enough
      simp only [line, ends]
      rcases ih stays.2 (by omega) with done | ⟨failed, char, member, control⟩
      · exact .inl done
      · refine .inr ⟨failed, char, ?_, control⟩
        rw [parts]
        exact List.mem_append_right _ (List.mem_cons_of_mem _ member)
    · exact .inr ⟨⟨e, by simp only [line]⟩, control⟩

end Cursor

/-- Comments add nothing to what was read of a document before them. -/
theorem lines_of_stays (fuel : Nat) (p : Progress) {c : Cursor} (stays : Stays false c.rest) :
    p.lines fuel c = .ok p ∨ (∃ e, p.lines fuel c = .error e) ∧ Cursor.HasControl c.rest := by
  cases fuel with
  | zero => exact .inl rfl
  | succ fuel =>
    rw [Progress.lines, Cursor.skipSpace]
    rcases Cursor.skipLines_of_stays stays (Nat.lt_succ_self _) with
      ⟨after, skipped, none_⟩ | ⟨⟨e, skipped⟩, control⟩
    · exact .inl (by simp only [skipped, none_])
    · exact .inr ⟨⟨e, by simp only [skipped]⟩, control⟩

theorem eq_of_lines {fuel : Nat} {p q : Progress} {c : Cursor} (stays : Stays false c.rest)
    (read : p.lines fuel c = .ok q) : q = p := by
  rcases lines_of_stays fuel p stays with same | ⟨⟨e, failed⟩, -⟩
  · rw [same] at read
    cases read
    rfl
  · rw [failed] at read
    cases read

/-- A text sets nothing, in a file of its own or at the end of another one. -/
structure SetsNothing (text : String) : Prop where
  alone : ∀ members, parse text = .ok members → members = []
  behind : ∀ (p q : Progress) (fuel place : Nat),
    p.lines fuel ⟨text.toList, place⟩ = .ok q → q = p
  /-- Nothing but control characters keeps it from being read. -/
  readable : ¬ Cursor.HasControl text.toList → parse text = .ok []

theorem setsNothing_of_commented {text : String} (commented : Commented text) :
    SetsNothing text := by
  have stays := Text.commented_iff.1 commented
  -- A mark at the beginning of the file would be left out, but a comment does not begin with it.
  have start : (Cursor.ofString text).rest = text.toList := by
    unfold Cursor.ofString
    split
    next rest mark => exact absurd (mark ▸ stays).begins (by decide)
    next => rfl
  have started : Stays false (Cursor.ofString text).rest := start ▸ stays
  refine ⟨fun members read => ?_, fun p q fuel place => eq_of_lines stays, fun plain => ?_⟩
  · unfold parse at read
    dsimp only at read
    split at read
    next q whole =>
      rw [eq_of_lines started whole] at read
      cases read
      rfl
    next => cases read
  · rcases lines_of_stays ((Cursor.ofString text).rest.length + 1) ⟨[], []⟩ started with
      none_ | ⟨-, control⟩
    · rw [parse, none_]
      rfl
    · exact absurd (start ▸ control) plain

end Toml

end PluginHost
