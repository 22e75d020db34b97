import PluginHost.Plugin.Basic

/-!
The full name of a type is a path of segments, each of which may have arguments that are names of
types themselves; a type that is declared inside a method of a generic type has segments after one
with arguments. The short name of a type is read off its full name: everything from the first
argument list on is cut away, and what is left after the last double colon is the short name.
-/

set_option autoImplicit false

namespace PluginHost

/-- A name without any of the marks that full names are put together with. -/
structure Identifier where
  text : String
  nonempty : text ≠ ""
  plain : (text.toList.all fun c => !List.contains [':', '<', '>', ',', ' '] c) = true

/-- The full name of a type, from the outermost segment on. -/
inductive TypePath where
  | last (name : Identifier) (arguments : Option (List TypePath))
  | inside (name : Identifier) (arguments : Option (List TypePath)) (rest : TypePath)

namespace TypePath

mutual
def text : TypePath → String
  | .last name arguments => name.text ++ argumentsText arguments
  | .inside name arguments rest => name.text ++ argumentsText arguments ++ "::" ++ rest.text

def argumentsText : Option (List TypePath) → String
  | none => ""
  | some arguments => "<" ++ listText arguments ++ ">"

def listText : List TypePath → String
  | [] => ""
  | [path] => path.text
  | path :: next :: rest => path.text ++ ", " ++ listText (next :: rest)
end

def lastName : TypePath → Identifier
  | .last name _ => name
  | .inside _ _ rest => rest.lastName

/-- The name of the first segment with arguments among those before the last one. -/
def outerGeneric? : TypePath → Option Identifier
  | .last _ _ => none
  | .inside name (some _) _ => some name
  | .inside _ none rest => rest.outerGeneric?

end TypePath

namespace Identifier

theorem not_mem (name : Identifier) {c : Char} (mark : c ∈ [':', '<', '>', ',', ' ']) :
    c ∉ name.text.toList := by
  intro member
  have other := List.all_eq_true.1 name.plain c member
  rw [List.contains_iff_mem.2 mark] at other
  cases other

/-- What is written before the first argument list after a name is kept with the name. -/
theorem takeWhile_append (name : Identifier) (rest : List Char) :
    (name.text.toList ++ rest).takeWhile (· ≠ '<') =
      name.text.toList ++ rest.takeWhile (· ≠ '<') := by
  refine List.takeWhile_append_of_pos fun c member => decide_eq_true ?_
  rintro rfl
  exact name.not_mem (by decide) member

end Identifier

theorem lastSegmentReversed_of_not_mem {segment : List Char} (plain : ':' ∉ segment) :
    lastSegmentReversed segment = segment := by
  induction segment with
  | nil => rfl
  | cons c rest ih =>
    rw [List.mem_cons, not_or] at plain
    rw [lastSegmentReversed, ih plain.2]
    rintro _ rfl
    exact absurd rfl plain.1

theorem lastSegmentReversed_append {segment : List Char} (plain : ':' ∉ segment)
    (before : List Char) : lastSegmentReversed (segment ++ ':' :: ':' :: before) = segment := by
  induction segment with
  | nil => rfl
  | cons c rest ih =>
    rw [List.mem_cons, not_or] at plain
    rw [List.cons_append, lastSegmentReversed, ih plain.2]
    rintro _ rfl
    exact absurd rfl plain.1

namespace TypePath

/-- The segment that ends before the first argument list, and what stands before it. -/
theorem exists_takeWhile (path : TypePath) :
    ∃ before, (before = [] ∨ ∃ earlier, before = earlier ++ [':', ':']) ∧
      path.text.toList.takeWhile (· ≠ '<') =
        before ++ (path.outerGeneric?.getD path.lastName).text.toList := by
  fun_induction outerGeneric? path with
  | case1 name arguments =>
    refine ⟨[], .inl rfl, ?_⟩
    rw [text, String.toList_append, name.takeWhile_append]
    cases arguments <;> simp [argumentsText, lastName]
  | case2 name arguments rest =>
    refine ⟨[], .inl rfl, ?_⟩
    rw [text, String.toList_append, String.toList_append, String.toList_append, List.append_assoc,
      List.append_assoc, name.takeWhile_append]
    simp [argumentsText]
  | case3 name rest ih =>
    obtain ⟨before, ends, cut⟩ := ih
    refine ⟨name.text.toList ++ [':', ':'] ++ before, .inr ?_, ?_⟩
    · obtain rfl | ⟨earlier, rfl⟩ := ends
      · exact ⟨name.text.toList, List.append_nil _⟩
      · exact ⟨name.text.toList ++ [':', ':'] ++ earlier, (List.append_assoc _ _ _).symm⟩
    · rw [text, String.toList_append, String.toList_append, String.toList_append, List.append_assoc,
        List.append_assoc, name.takeWhile_append]
      rw [lastName, List.append_assoc _ before, ← cut]
      simp [argumentsText]

theorem shortTypeName_text (path : TypePath) :
    shortTypeName path.text = (path.outerGeneric?.getD path.lastName).text := by
  obtain ⟨before, ends, cut⟩ := path.exists_takeWhile
  generalize path.outerGeneric?.getD path.lastName = name at cut ⊢
  have plain : ':' ∉ name.text.toList.reverse := by
    rw [List.mem_reverse]
    exact name.not_mem (by decide)
  rw [shortTypeName, cut]
  obtain rfl | ⟨earlier, rfl⟩ := ends
  · rw [List.nil_append, lastSegmentReversed_of_not_mem plain, List.reverse_reverse,
      String.ofList_toList]
  · rw [List.reverse_append, List.reverse_append]
    show String.ofList (lastSegmentReversed (_ ++ ':' :: ':' :: earlier.reverse)).reverse = _
    rw [lastSegmentReversed_append plain, List.reverse_reverse, String.ofList_toList]

/-- The short name of a type is that of its last segment exactly if no segment before that one has
arguments, or the first one that has is called the same. It is the name of some segment in any case,
and never empty. -/
theorem shortTypeName_eq_lastName_iff (path : TypePath) :
    (shortTypeName path.text = path.lastName.text ↔
        ∀ name, path.outerGeneric? = some name → name.text = path.lastName.text) ∧
      shortTypeName path.text = (path.outerGeneric?.getD path.lastName).text ∧
      shortTypeName path.text ≠ "" := by
  rw [shortTypeName_text]
  refine ⟨?_, rfl, Identifier.nonempty _⟩
  cases path.outerGeneric? with
  | none => exact iff_of_true rfl nofun
  | some name =>
    constructor
    · intro same _ found
      cases found
      exact same
    · intro all
      exact all name rfl

/-- A type that is declared inside a method of a generic type goes by the name of the generic type,
and so do all others that are declared there. -/
theorem shortTypeName_of_local :
    let a : Identifier := ⟨"a", by decide, by decide +kernel⟩
    let wrapper : Identifier := ⟨"Wrapper", by decide, by decide +kernel⟩
    let c : Identifier := ⟨"C", by decide, by decide +kernel⟩
    let make : Identifier := ⟨"make", by decide, by decide +kernel⟩
    let probe : Identifier := ⟨"Probe", by decide, by decide +kernel⟩
    let path : TypePath := .inside a none (.inside wrapper (some [.inside a none (.last c none)])
      (.inside make none (.last probe none)))
    path.text = "a::Wrapper<a::C>::make::Probe" ∧ path.lastName.text = "Probe" ∧
      shortTypeName path.text = "Wrapper" ∧ shortTypeName path.text ≠ path.lastName.text := by
  decide +kernel

end TypePath

end PluginHost
