import Mathlib.Data.List.Induction
import PluginHost.Proofs.Config.Outcomes

/-!
Sources over one another. A value that is no table comes from the topmost source that sets its
place, and so does a table with one member; and where no source puts something else in the place of
a table of another one, no source takes away what another one sets.
-/

set_option autoImplicit false

namespace PluginHost

open Setting

namespace Touch

/-- What is cleared has something on the way to it that is no table. -/
theorem of_eq_clears {value : Setting} {names : List String} {path : Path}
    (clears : of value names path = .clears) :
    ∃ front back, names = front ++ back ∧ back ≠ [] ∧
      (of value front path = .sets value ∨ of value front path = .indexes) := by
  induction names generalizing path with
  | nil =>
    cases path with
    | nil =>
      rw [of] at clears
      split at clears <;> cases clears
    | cons step path => cases step <;> cases clears
  | cons name rest ih =>
    cases path with
    | nil =>
      refine ⟨[], name :: rest, rfl, by simp, .inl ?_⟩
      rw [of] at clears
      split at clears
      · cases clears
      · rename_i plain
        rw [of, if_neg plain]
    | cons step path =>
      cases step with
      | item index => exact ⟨[], name :: rest, rfl, by simp, .inr rfl⟩
      | member other =>
        rw [of] at clears
        split at clears
        · rename_i same
          obtain ⟨front, back, rfl, some_, puts⟩ := ih clears
          exact ⟨name :: front, back, rfl, some_, by simpa only [of, same, if_true] using puts⟩
        · cases clears

/-- Something is put at the place, or into it. -/
def Arrives : Touch → Prop
  | passes | clears => False
  | opens | enters _ | sets _ | indexes => True

/-- Whatever arrives at a place enters what is on the way to it. -/
theorem of_eq_enters {value : Setting} {front back : List String} (further : back ≠ [])
    {path : Path} (arrives : (of value (front ++ back) path).Arrives) :
    ∃ name, of value front path = .enters name := by
  induction front generalizing path with
  | nil =>
    obtain ⟨name, rest, rfl⟩ := List.exists_cons_of_ne_nil further
    rw [List.nil_append] at arrives
    cases path with
    | nil =>
      rw [of] at arrives
      split at arrives <;> cases arrives
    | cons step path =>
      cases step with
      | item index => cases arrives
      | member other => exact ⟨other, rfl⟩
  | cons name rest ih =>
    rw [List.cons_append] at arrives
    cases path with
    | nil =>
      rw [of] at arrives
      split at arrives <;> cases arrives
    | cons step path =>
      cases step with
      | item index => cases arrives
      | member other =>
        rw [of] at arrives ⊢
        split at arrives
        · rename_i same
          rw [if_pos same]
          exact ih arrives
        · cases arrives

end Touch

namespace Layer

variable {layer : Layer} {names : List String}

/-- Only a value on the way to a place clears it. -/
theorem touch_ne_clears {w : Write} (written : w ∈ layer.writes) {place name : String}
    (tables : ¬ layer.PutsValue [place]) : w.touch [place, name] ≠ .clears := by
  intro clears
  obtain ⟨front, back, parts, some_, puts⟩ := Touch.of_eq_clears clears
  have put : (∃ value, w.touch front = .sets value) ∨ w.touch front = .indexes :=
    puts.imp_left fun sets => ⟨_, sets⟩
  cases front with
  | nil =>
    obtain ⟨name, rest, leads⟩ := writes_path written
    rw [Write.touch, leads] at put
    rcases put with ⟨value, sets⟩ | indexes
    · cases sets
    · cases indexes
  | cons first front =>
    cases front with
    | nil =>
      obtain ⟨rfl, -⟩ := List.cons.inj parts
      exact tables ⟨w, written, put⟩
    | cons second front =>
      obtain ⟨-, rest⟩ := List.cons.inj parts
      obtain ⟨-, nothing⟩ := List.cons.inj rest
      exact some_ (List.append_eq_nil_iff.1 nothing.symm).2

theorem plain?_emptyTable (named : names ≠ []) : emptyTable.plain? names = none := by
  obtain ⟨name, rest, rfl⟩ := List.exists_cons_of_ne_nil named
  rfl

theorem part?_emptyTable (named : names ≠ []) : emptyTable.part? names = none := by
  obtain ⟨name, rest, rfl⟩ := List.exists_cons_of_ne_nil named
  rfl

/-- What a source sets itself, it sets over anything. -/
theorem plain?_onto_of_some (named : names ≠ []) {value : Setting}
    (set : layer.alone.plain? names = some value) (s : Setting) :
    (layer.onto s).plain? names = some value ∨
      layer.Indexes names ∧ value.isList = true ∧
        ∃ items origin, (layer.onto s).plain? names = some (.list items origin) := by
  cases layer.outcome named with
  | settles found always =>
    rw [alone, always] at set
    exact .inl ((always s).trans set)
  | keeps same =>
    rw [alone, same, plain?_emptyTable named] at set
    cases set
  | opens replaced =>
    rw [alone, replaced, plain?_emptyTable named] at set
    cases set
  | lists indexes always =>
    obtain ⟨items, origin, found⟩ := always .emptyTable
    rw [alone, found] at set
    cases set
    exact .inr ⟨indexes, rfl, always s⟩

/-- What a source does not set itself stood there before. -/
theorem plain?_of_onto (named : names ≠ []) (unset : layer.alone.plain? names = none)
    {s value : Setting} (found : (layer.onto s).plain? names = some value) :
    s.plain? names = some value := by
  cases layer.outcome named with
  | settles found' always =>
    rw [alone, always] at unset
    rw [always, unset] at found
    cases found
  | keeps same => rwa [same] at found
  | opens replaced =>
    rw [replaced] at found
    exact (Option.filter_eq_some_iff.1 found).1
  | lists indexes always =>
    obtain ⟨items, origin, listed⟩ := always .emptyTable
    rw [alone, listed] at unset
    cases unset

theorem holds_onto_of_alone (named : names ≠ []) {key : String}
    (set : layer.alone.Holds names key) (s : Setting) : (layer.onto s).Holds names key := by
  cases layer.keeping named with
  | fixed keys always => exact (always s key).2 ((always _ key).1 set)
  | adds keys also =>
    refine (also s key).2 (.inl (((also _ key).1 set).resolve_right ?_))
    exact holds_of_none (part?_emptyTable named) key

/-- A table that a source adds nothing to and that is still there is as it was. -/
theorem holds_onto_iff (named : names ≠ []) (unset : ∀ key, ¬ layer.alone.Holds names key)
    {s : Setting} {key : String} (kept : (layer.onto s).Holds names key) (other : String) :
    (layer.onto s).Holds names other ↔ s.Holds names other := by
  cases layer.keeping named with
  | fixed keys always => exact absurd ((always _ key).2 ((always s key).1 kept)) (unset key)
  | adds keys also =>
    rw [also]
    exact or_iff_right fun added => unset other ((also _ other).2 (.inl added))

/-- A source that puts no value at a place puts none there over anything. -/
theorem plain?_onto_eq_none (named : names ≠ []) (tables : ¬ layer.PutsValue names) {s : Setting}
    (table : s.plain? names = none) : (layer.onto s).plain? names = none := by
  refine onto_induction (motive := fun s => s.plain? names = none) (fun w written s table => ?_)
    table
  have shows := w.shows_apply (writes_single written) named s
  cases touch : w.touch names <;> simp only [touch, Touch.Shows] at shows
  case passes => rw [shows, table]
  case opens => rw [shows, table]; rfl
  case clears => exact shows
  case enters => exact shows
  case sets value => exact absurd ⟨w, written, .inl ⟨value, touch⟩⟩ tables
  case indexes => exact absurd ⟨w, written, .inr touch⟩ tables

/-- What is not cleared stays, whatever becomes of it. -/
theorem part?_onto_isSome (named : names ≠ [])
    (kept : ∀ w ∈ layer.writes, w.touch names ≠ .clears) {s : Setting}
    (present : (s.part? names).isSome) : ((layer.onto s).part? names).isSome := by
  refine onto_induction (motive := fun s => (s.part? names).isSome) (fun w written s present => ?_)
    present
  have leaves := w.leaves_apply (writes_single written) named s
  cases touch : w.touch names <;> simp only [touch, Touch.Leaves] at leaves
  case passes => rwa [leaves]
  case clears => exact absurd touch (kept w written)
  case opens => rw [leaves]; rfl
  case enters name => obtain ⟨part, found⟩ := leaves; rw [found]; rfl
  case sets value => rw [leaves.2]; rfl
  case indexes => obtain ⟨items, found⟩ := leaves; rw [found]; rfl

/-- Nothing stands where no write of a source arrives. -/
theorem exists_arrives (named : names ≠ []) (present : (layer.alone.part? names).isSome) :
    ∃ w ∈ layer.writes, (w.touch names).Arrives := by
  by_cases some_ : ∃ w ∈ layer.writes, (w.touch names).Arrives
  · exact some_
  have absent : layer.alone.part? names = none := by
    refine onto_induction (motive := fun s => s.part? names = none) (fun w written s absent => ?_)
      (part?_emptyTable named)
    have leaves := w.leaves_apply (writes_single written) named s
    cases touch : w.touch names <;> simp only [touch, Touch.Leaves] at leaves
    case passes => rw [leaves, absent]
    case clears => exact leaves
    all_goals exact absurd ⟨w, written, by rw [touch]; trivial⟩ some_
  rw [absent] at present
  cases present

/-- Where a source sets something, it puts tables on the way. -/
theorem putsTable_of_part? {front back : List String} (further : back ≠ [])
    (present : (layer.alone.part? (front ++ back)).isSome) : layer.PutsTable front := by
  have named : front ++ back ≠ [] := fun nothing => further (List.append_eq_nil_iff.1 nothing).2
  obtain ⟨w, written, arrives⟩ := exists_arrives named present
  exact ⟨w, written, .inr (Touch.of_eq_enters further arrives)⟩

/-- A source that neither clears a place nor puts anything there leaves it as it is. -/
theorem part?_onto_of_unset (named : names ≠ [])
    (kept : ∀ w ∈ layer.writes, w.touch names ≠ .clears) (noTable : ¬ layer.PutsTable names)
    (unset : layer.alone.plain? names = none) (s : Setting) :
    (layer.onto s).part? names = s.part? names := by
  have either : (∀ s, (layer.onto s).part? names = s.part? names) ∨
      ∀ s, ((layer.onto s).plain? names).isSome := by
    refine onto_comp (motive := fun change => (∀ s, (change s).part? names = s.part? names) ∨
      ∀ s, ((change s).plain? names).isSome) (.inl fun _ => rfl) (fun first second before after => ?_)
      fun w written => ?_
    · rcases after with same | set
      · exact before.imp (fun first s => (same _).trans (first s))
          fun set s => by rw [plain?, same]; exact set s
      · exact .inr fun s => set _
    · have leaves := w.leaves_apply (writes_single written) named
      have shows := w.shows_apply (writes_single written) named
      cases touch : w.touch names <;> simp only [touch, Touch.Leaves, Touch.Shows] at leaves shows
      case passes => exact .inl leaves
      case clears => exact absurd touch (kept w written)
      case opens => exact absurd ⟨w, written, .inl touch⟩ noTable
      case enters name => exact absurd ⟨w, written, .inr ⟨name, touch⟩⟩ noTable
      case sets value => exact .inr fun s => by rw [shows s]; rfl
      case indexes =>
        refine .inr fun s => ?_
        obtain ⟨items, found⟩ := shows s
        rw [found]
        rfl
  rcases either with same | set
  · exact same s
  · have present := set .emptyTable
    rw [← alone, unset] at present
    cases present

/-- What the topmost one of some sources shows that shows anything on its own. -/
def topmost {α : Type} (layers : List Layer) (look : Setting → Option α) : Option α :=
  layers.reverse.findSome? fun layer => look layer.alone

theorem topmost_concat {α : Type} (layers : List Layer) (layer : Layer)
    (look : Setting → Option α) :
    topmost (layers ++ [layer]) look = (look layer.alone).or (topmost layers look) := by
  rw [topmost, List.reverse_append, List.reverse_singleton, List.singleton_append,
    List.findSome?_cons]
  cases look layer.alone <;> rfl

theorem stack_concat (layers : List Layer) (layer : Layer) :
    stack (layers ++ [layer]) = layer.onto (stack layers) := by
  rw [stack, List.foldl_append]
  rfl

/-- A value that is no table is the one that the topmost source sets there which sets one. -/
theorem topmost_plain {layers : List Layer} (named : names ≠ []) {value : Setting}
    (found : (stack layers).plain? names = some value)
    (whole : value.isList = false ∨ ∀ layer ∈ layers, ¬ layer.Indexes names) :
    topmost layers (plain? names) = some value := by
  induction layers using List.reverseRec with
  | nil =>
    rw [stack, List.foldl_nil, plain?_emptyTable named] at found
    cases found
  | append_singleton below layer ih =>
    rw [stack_concat] at found
    rw [topmost_concat]
    cases set : layer.alone.plain? names with
    | none =>
      refine ih (plain?_of_onto named set found) (whole.imp_right fun whole layer member => ?_)
      exact whole layer (List.mem_append_left _ member)
    | some top =>
      rcases plain?_onto_of_some named set (stack below) with same | ⟨indexes, -, items, origin, listed⟩
      · rw [same] at found
        exact found
      · rw [listed] at found
        cases found
        rcases whole with noList | whole
        · cases noList
        · exact absurd indexes (whole layer (List.mem_append_right _ List.mem_cons_self))

theorem exists_of_topmost {α : Type} {layers : List Layer} {look : Setting → Option α} {shown : α}
    (found : topmost layers look = some shown) :
    ∃ layer ∈ layers, look layer.alone = some shown := by
  obtain ⟨layer, member, shows⟩ := List.exists_of_findSome?_eq_some found
  exact ⟨layer, List.mem_reverse.1 member, shows⟩

/-- Of two sources neither puts something else where the other one puts a table. -/
def Compatible (first second : Layer) : Prop :=
  ∀ names, (first.PutsValue names → ¬ second.PutsTable names) ∧
    (first.PutsTable names → ¬ second.PutsValue names)

/-- A source leaves what a compatible one sets, unless it sets the same place. -/
theorem Compatible.part?_onto {first second : Layer} (compatible : Compatible first second)
    (named : names ≠ []) {value : Setting} (set : first.alone.plain? names = some value)
    (unset : second.alone.plain? names = none) (s : Setting) :
    (second.onto s).part? names = s.part? names := by
  have puts : first.PutsValue names := by
    by_cases puts : first.PutsValue names
    · exact puts
    · have none_ := plain?_onto_eq_none named puts (plain?_emptyTable named)
      rw [← alone, set] at none_
      cases none_
  refine part?_onto_of_unset named (fun w written clears => ?_) ((compatible names).1 puts) unset s
  obtain ⟨front, back, rfl, further, cut⟩ := Touch.of_eq_clears clears
  have present := Option.isSome_of_eq_some (plain?_eq_some.1 set).1
  exact (compatible front).2 (putsTable_of_part? further present)
    ⟨w, written, cut.imp_left fun sets => ⟨_, sets⟩⟩

/-- Among compatible sources nothing takes away or changes what the topmost one sets somewhere. -/
theorem plain?_of_topmost {layers : List Layer} (named : names ≠ [])
    (compatible : layers.Pairwise Compatible) {value : Setting}
    (set : topmost layers (plain? names) = some value)
    (whole : value.isList = false ∨ ∀ layer ∈ layers, ¬ layer.Indexes names) :
    (stack layers).plain? names = some value := by
  induction layers using List.reverseRec with
  | nil => cases set
  | append_singleton below layer ih =>
    rw [topmost_concat] at set
    rw [stack_concat]
    cases top : layer.alone.plain? names with
    | some top' =>
      rw [top] at set
      cases set
      rcases plain?_onto_of_some named top (stack below) with same | ⟨indexes, listed, -⟩
      · exact same
      · rcases whole with noList | whole
        · rw [listed] at noList
          cases noList
        · exact absurd indexes (whole layer (List.mem_append_right _ List.mem_cons_self))
    | none =>
      rw [top, Option.none_or] at set
      obtain ⟨pairs, -, across⟩ := List.pairwise_append.1 compatible
      obtain ⟨lower, member, shows⟩ := exists_of_topmost set
      have kept := (across lower member layer List.mem_cons_self).part?_onto named shows top
        (stack below)
      rw [plain?, kept]
      refine ih pairs set (whole.imp_right fun whole layer member => ?_)
      exact whole layer (List.mem_append_left _ member)

variable {layers : List Layer}

/-- A value that a source sets on its own leaves no member at its place. -/
theorem not_holds_onto_of_plain? {layer : Layer} (named : names ≠ []) {value : Setting}
    (set : layer.alone.plain? names = some value) (s : Setting) (key : String) :
    ¬ (layer.onto s).Holds names key := by
  rcases plain?_onto_of_some named set s with same | ⟨-, -, items, origin, listed⟩
  · exact not_holds_of_plain? same key
  · exact not_holds_of_plain? listed key

/-- A value that is no table is what the topmost source gives for its place. -/
theorem topmost_given_of_plain? (named : names ≠ []) {value : Setting}
    (found : (stack layers).plain? names = some value)
    (whole : value.isList = false ∨ ∀ layer ∈ layers, ¬ layer.Indexes names) :
    topmost layers (given? names) = some value := by
  induction layers using List.reverseRec with
  | nil =>
    rw [stack, List.foldl_nil, plain?_emptyTable named] at found
    cases found
  | append_singleton below layer ih =>
    rw [stack_concat] at found
    rw [topmost_concat]
    cases given : layer.alone.given? names with
    | none =>
      refine ih (plain?_of_onto named (plain?_of_ungiven given) found)
        (whole.imp_right fun whole layer member => ?_)
      exact whole layer (List.mem_append_left _ member)
    | some top =>
      rcases given?_cases given with plain | ⟨-, -, key, held⟩
      · have first : topmost (below ++ [layer]) (plain? names) = some value :=
          topmost_plain named (by rwa [stack_concat]) whole
        rw [topmost_concat, plain] at first
        exact first
      · exact absurd (holds_onto_of_alone named held (stack below)) (not_holds_of_plain? found key)

/-- A table with one member is what the topmost source gives for its place, up to what the member
holds. -/
theorem topmost_given_of_holds (named : names ≠ []) {key : String}
    (single : ∀ other, (stack layers).Holds names other ↔ other = key) :
    ∃ members origin, topmost layers (given? names) = some (.table members origin) ∧
      ∀ other, (Members.find? other members).isSome ↔ other = key := by
  induction layers using List.reverseRec with
  | nil => exact absurd ((single key).2 rfl) (holds_of_none (part?_emptyTable named) key)
  | append_singleton below layer ih =>
    rw [stack_concat] at single
    rw [topmost_concat]
    have held := (single key).2 rfl
    cases given : layer.alone.given? names with
    | none =>
      refine ih fun other => ?_
      rw [← holds_onto_iff named (not_holds_of_ungiven given) held, single]
    | some top =>
      rcases given?_cases given with plain | ⟨found, table, some_, has⟩
      · exact absurd held (not_holds_onto_of_plain? named plain _ key)
      · cases top with
        | leaf | list => cases table
        | table members origin =>
          have only : ∀ other, (Members.find? other members).isSome → other = key := fun other has =>
            (single other).1 (holds_onto_of_alone named ((holds_iff_of_some found other).2 has) _)
          have same := only some_ ((holds_iff_of_some found some_).1 has)
          refine ⟨members, origin, rfl, fun other => ⟨only other, ?_⟩⟩
          rintro rfl
          rw [← same]
          exact (holds_iff_of_some found some_).1 has

/-- Where nothing stands no source gives anything, if none puts a value on the way. -/
theorem topmost_given_of_none (named : names ≠ [])
    (kept : ∀ layer ∈ layers, ∀ w ∈ layer.writes, w.touch names ≠ .clears)
    (absent : (stack layers).part? names = none) : topmost layers (given? names) = none := by
  induction layers using List.reverseRec with
  | nil => rfl
  | append_singleton below layer ih =>
    rw [stack_concat] at absent
    have stays := kept layer (List.mem_append_right _ List.mem_cons_self)
    rw [topmost_concat]
    cases given : layer.alone.given? names with
    | none =>
      refine ih (fun layer member => kept layer (List.mem_append_left _ member)) ?_
      cases present : (stack below).part? names with
      | none => rfl
      | some part =>
        have after := part?_onto_isSome named stays (Option.isSome_of_eq_some present)
        rw [absent] at after
        cases after
    | some top =>
      rcases given?_cases given with plain | ⟨-, -, key, held⟩
      · rcases plain?_onto_of_some named plain (stack below) with same | ⟨-, -, items, origin, listed⟩
        · rw [plain?, absent] at same
          cases same
        · rw [plain?, absent] at listed
          cases listed
      · exact absurd (holds_onto_of_alone named held (stack below)) (holds_of_none absent key)

end Layer

end PluginHost
