import PluginHost.Proofs.Config.Layering
import PluginHost.Proofs.Digits

set_option autoImplicit false

namespace PluginHost

namespace Number

theorem readNat_toDigits (n : Nat) : readNat (Nat.toDigits 10 n) = some n := by
  have digits : (Nat.toDigits 10 n).all Char.isDigit = true :=
    List.all_eq_true.2 fun _ member => Nat.isDigit_of_mem_toDigits (by omega) (by omega) member
  have some_ : (Nat.toDigits 10 n).isEmpty = false := by simp [Nat.toDigits_ne_nil]
  simp [readNat, digits, some_, ofDigits_toDigits]

theorem splitSign_toDigits (n : Nat) :
    splitSign (Nat.toDigits 10 n) = (false, Nat.toDigits 10 n) := by
  have digit : ∀ c ∈ Nat.toDigits 10 n, c.isDigit = true := fun _ member =>
    Nat.isDigit_of_mem_toDigits (by omega) (by omega) member
  unfold splitSign
  split
  next rest written => exact absurd (digit '-' (by simp [written])) (by decide)
  next rest written => exact absurd (digit '+' (by simp [written])) (by decide)
  next => rfl

/-- An integer that is written between two bounds is read again. -/
theorem readInt_toString {low high n : Int} (least : low ≤ n) (most : n ≤ high) :
    readInt low high (toString n).toList = some n := by
  rw [toList_toString]
  by_cases negative : n < 0
  · have below : ¬ 0 ≤ low := by omega
    have value : -(n.natAbs : Int) = n := by omega
    generalize n.natAbs = size at value ⊢
    simp [readInt, splitSign, negative, below, readNat_toDigits, value, least, most]
  · have value : (n.natAbs : Int) = n := by omega
    generalize n.natAbs = size at value ⊢
    simp [readInt, splitSign_toDigits, negative, readNat_toDigits, value, least, most]

end Number

namespace Text

theorem lowerChar_of_digit {c : Char} (digit : c.isDigit = true) : lowerChar c = c := by
  have most : c.val ≤ '9'.val := by
    simp only [Char.isDigit, Bool.and_eq_true, decide_eq_true_eq] at digit
    exact digit.2
  have small : ¬ c.val ≥ 'A'.val := fun large => absurd (UInt32.le_trans large most) (by decide)
  have notKelvin : c ≠ '\u212a' := by
    rintro rfl
    exact absurd most (by decide)
  have plain : c.toLower = c := dif_neg fun capital => small capital.1
  rw [lowerChar, if_neg notKelvin, plain]

theorem lowered_toString (n : Int) : lowered (toString n) = toString n := by
  have kept : ∀ c ∈ (toString n).toList, lowerChar c = c := by
    intro c member
    rcases Number.digit_or_minus member with digit | rfl
    · exact lowerChar_of_digit digit
    · rfl
  rw [lowered, List.map_congr_left kept, List.map_id', String.ofList_toList]

end Text

namespace Leaf

/-- Nothing that an integer is written with occurs in a word. -/
theorem toString_ne_word (n : Int) {word : String} {c : Char} (letter : c ∈ word.toList)
    (notDigit : ¬ (c.isDigit = true ∨ c = '-')) : toString n ≠ word := by
  rintro rfl
  exact notDigit (Number.digit_or_minus letter)

theorem ofText_toString {n : Int} (least : Number.minInt ≤ n) (most : n ≤ Number.maxInt) :
    ofText (toString n) = .int n := by
  have notTrue : toString n ≠ "true" :=
    toString_ne_word n (c := 't') (by decide) (by decide)
  have notFalse : toString n ≠ "false" :=
    toString_ne_word n (c := 'f') (by decide) (by decide)
  unfold ofText
  rw [Text.lowered_toString]
  split
  next same => exact absurd same notTrue
  next same => exact absurd same notFalse
  next => rw [Number.readInt_toString least most]

/-- A text becomes a truth value or a number, or it stays what it is and is no word for either. -/
theorem ofText_cases (text : String) :
    (∃ b, ofText text = .bool b) ∨ (∃ n, ofText text = .int n) ∨ (∃ x, ofText text = .float x) ∨
      ofText text = .text text ∧ Text.lowered text ≠ "true" := by
  unfold ofText
  split
  next => exact .inl ⟨true, rfl⟩
  next => exact .inl ⟨false, rfl⟩
  next notTrue _ =>
    split
    next n _ => exact .inr (.inl ⟨n, rfl⟩)
    next =>
      split
      next x _ => exact .inr (.inr (.inl ⟨x, rfl⟩))
      next => exact .inr (.inr (.inr ⟨rfl, notTrue⟩))

theorem ofText_true : ofText "true" = .bool true := rfl

theorem ofText_false : ofText "false" = .bool false := rfl

theorem ofText_bool (b : Bool) : ofText (toString b) = .bool b := by
  cases b
  · exact ofText_false
  · exact ofText_true

end Leaf

namespace Environment

theorem dotted_of_split {front : List Char} (noBar : '_' ∉ front) (back : List Char) :
    dotted (front ++ '_' :: '_' :: back) = front ++ '.' :: dotted back := by
  induction front with
  | nil => simp [dotted]
  | cons c rest ih =>
    have notBar : c ≠ '_' := fun same => noBar (same ▸ List.mem_cons_self)
    have after := ih fun member => noBar (List.mem_cons_of_mem _ member)
    rw [List.cons_append, dotted, after, List.cons_append]
    intro _ bar
    exact absurd bar notBar

theorem dotted_of_single {chars : List Char} (single : ¬ ['_', '_'] <:+: chars) :
    dotted chars = chars := by
  induction chars with
  | nil => rfl
  | cons c rest ih =>
    have after := ih fun inside => single (inside.trans (List.suffix_cons c rest).isInfix)
    rw [dotted, after]
    rintro rest' rfl rfl
    exact single ⟨[], rest', rfl⟩

end Environment

namespace Path

/-- What a step in a path may be called. -/
def IsName (name : String) : Prop := name ≠ "" ∧ ∀ c ∈ name.toList, isNameChar c = true

instance (name : String) : Decidable (IsName name) :=
  @instDecidableAnd _ _ inferInstance (List.decidableBAll (isNameChar · = true) name.toList)

theorem takeWhile_name {name rest : List Char} (chars : ∀ c ∈ name, isNameChar c = true)
    (stops : ∀ c ∈ rest.head?, isNameChar c = false) :
    (name ++ rest).takeWhile isNameChar = name := by
  rw [List.takeWhile_append_of_pos chars]
  cases rest with
  | nil => simp
  | cons c rest => simp [stops c (by simp)]

theorem readSteps_member {name : String} (isName : IsName name) {rest : List Char}
    (stops : ∀ c ∈ rest.head?, isNameChar c = false) (fuel : Nat) :
    readSteps (fuel + 1) ('.' :: (name.toList ++ rest)) =
      (readSteps fuel rest).map (.member name :: ·) := by
  have some_ : name.toList.isEmpty = false := by simp [isName.1]
  simp [readSteps, takeWhile_name isName.2 stops, some_]

/-- Two names with a dot between them lead from a section to a member of it. -/
theorem ofKey_pair {first second : String} (isFirst : IsName first) (isSecond : IsName second) :
    ofKey (first ++ "." ++ second) = [.member first, .member second] := by
  have chars : (first ++ "." ++ second).toList = first.toList ++ '.' :: (second.toList ++ []) := by
    simp
  have enough : (first ++ "." ++ second).length + 1 =
      (first.length + second.length) + 1 + 1 := by
    simp only [String.length_append]
    have one : ".".length = 1 := rfl
    omega
  have dotStops : isNameChar '.' = false := by decide
  rw [ofKey, read?, chars, enough, readSteps_member isFirst (by simp [dotStops]),
    readSteps_member isSecond (by simp)]
  simp [readSteps]

end Path

namespace Environment

/-- A variable is called for a key of a section, in letters of any case. -/
def Names (name section_ key : String) : Prop :=
  Text.lowered name = "hostkit__" ++ section_ ++ "__" ++ key

/-- No two underscores stand next to each other, where a name would be split. -/
def Unsplit (key : String) : Prop := ¬ ['_', '_'] <:+: key.toList

instance (key : String) : Decidable (Unsplit key) := inferInstanceAs (Decidable (¬ _))

theorem key?_of_names {name section_ key : String} (names : Names name section_ key)
    (noBar : '_' ∉ section_.toList) (unsplit : Unsplit key) :
    key? name = some (section_ ++ "." ++ key) := by
  have chars : (Text.lowered name).toList =
      mark ++ (section_.toList ++ '_' :: '_' :: key.toList) := by
    have spelled : Text.lowered name = "hostkit__" ++ section_ ++ "__" ++ key := names
    rw [spelled, String.toList_append, String.toList_append, String.toList_append,
      List.append_assoc, List.append_assoc]
    rfl
  have place : section_.toList ++ '.' :: key.toList = (section_ ++ "." ++ key).toList := by simp
  have marked : mark.isPrefixOf (Text.lowered name).toList = true := by
    rw [chars, List.isPrefixOf_iff_prefix]
    exact List.prefix_append _ _
  rw [key?, if_pos marked, chars, List.drop_left, dotted_of_split noBar,
    dotted_of_single unsplit, place, String.ofList_toList]

/-- No variable stands for a setting. -/
def Quiet (env : Environment) : Prop := ∀ v ∈ env, key? v.1 = none

theorem entries_of_quiet {env : Environment} (quiet : env.Quiet) : env.filterMap entry? = [] := by
  rw [List.filterMap_eq_nil_iff]
  intro v member
  simp [ entry?, quiet v member]

theorem layer_of_quiet {env : Environment} (quiet : env.Quiet) : env.layer = [] := by
  rw [layer, entries_of_quiet quiet]
  rfl

/-- One more variable is one entry. -/
theorem layer_append {env : Environment} (quiet : env.Quiet) {name key : String}
    (stands : key? name = some key) (text : String) :
    layer (env ++ [(name, text)]) = [(key, .leaf (.ofText text) (some origin))] := by
  rw [layer, List.filterMap_append, entries_of_quiet quiet]
  simp [ entry?, stands, Members.ofList, Members.insert]

end Environment

namespace Setting

/-- A setting with a part of a part replaced, and tables made on the way. -/
def withPart (s : Setting) (section_ key : String) (value : Setting) : Setting :=
  table (s.members.insert section_
    (table ((s.partAt section_).members.insert key value) none)) none

end Setting

/-- A variable that names a key replaces what is there. -/
theorem Environment.layer_append_onto {env : Environment} (quiet : env.Quiet)
    {name section_ key : String} (names : Names name section_ key)
    (sectionName : Path.IsName section_) (noBar : '_' ∉ section_.toList)
    (keyName : Path.IsName key) (unsplit : Unsplit key) (text : String) (below : Setting) :
    (layer (env ++ [(name, text)])).onto below =
      below.withPart section_ key (.leaf (.ofText text) (some origin)) := by
  rw [layer_append quiet (key?_of_names names noBar unsplit), Layer.onto, List.foldl_cons,
    List.foldl_nil, Layer.put, Path.ofKey_pair sectionName keyName]
  simp only [Setting.changeAt, Setting.changeMember_eq, Setting.layOver, Setting.withPart]

end PluginHost
