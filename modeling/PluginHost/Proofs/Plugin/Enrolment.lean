import PluginHost.Proofs.Plugin.Graph

set_option autoImplicit false

namespace PluginHost

/-- All that a plugin ever asks for by type is in the catalogue. -/
def Plugin.AsksWithin (catalogue : Catalogue) (plugin : Plugin) : Prop :=
  ∀ (h : Host) (type : String), .typed type ∈ plugin.requires h → (catalogue.find? type).isSome

/-- Types make plugins of their own type, and these ask for types of the catalogue. -/
structure Catalogue.Whole (catalogue : Catalogue) : Prop where
  ownType : ∀ t ∈ catalogue, ∀ h : Host, (t.create h).1.type = t.name
  asksWithin : ∀ t ∈ catalogue, ∀ h : Host, (t.create h).1.AsksWithin catalogue

/-- A plugin that joined the registry and what it needed when it was asked, or one that was refused
because its name was taken. -/
inductive Enrolment where
  | joined (plugin : Plugin) (needs : List Dependency)
  | refused (plugin : Plugin)

def Enrolment.joined? : Enrolment → Option Plugin
  | .joined plugin _ => some plugin
  | .refused _ => none

namespace Host

def enrolling (h : Host) (plugin : Plugin) : Host :=
  h.tell .registry .info "Registering plugin" [("plugin", .text plugin.name)]

def refusing (h : Host) (plugin : Plugin) (type : Option String) : Host :=
  if type = some plugin.type then h
  else
    h.tell .registry .warn "Another plugin type is already registered under this name"
      [("plugin", .text plugin.name)]

def bringing (h : Host) (type : String) : Host :=
  h.tell .registry .debug "Registered plugin dependency"
    [("dependency", .text (shortTypeName type))]

end Host

namespace Registry

/-- What comes of registering dependencies in order, from one registry and host to others. -/
inductive Brings (catalogue : Catalogue) :
    List Dependency → Registry × Host → List Enrolment → Registry × Host → Prop
  | nothing (s : Registry × Host) : Brings catalogue [] s [] s
  | named {name : String} {rest : List Dependency} {s t : Registry × Host} {es : List Enrolment}
      (later : Brings catalogue rest s es t) : Brings catalogue (.named name :: rest) s es t
  | known {type : String} {rest : List Dependency} {r : Registry} {h : Host} {t : Registry × Host}
      {es : List Enrolment} {index : Nat} (there : r.indexOfType type = some index)
      (later : Brings catalogue rest (r, h) es t) :
      Brings catalogue (.typed type :: rest) (r, h) es t
  | refused {type : String} {rest : List Dependency} {r : Registry} {h : Host}
      {t : Registry × Host} {es : List Enrolment} {made : PluginType} {index : Nat}
      (new : r.indexOfType type = none) (listed : catalogue.find? type = some made)
      (taken : r.indexOf (made.create h).1.name = some index)
      (later : Brings catalogue rest
        (r, (made.create h).2.refusing (made.create h).1 (r.typeAt index)) es t) :
      Brings catalogue (.typed type :: rest) (r, h) (.refused (made.create h).1 :: es) t
  | joined {type : String} {rest : List Dependency} {r between : Registry} {h g : Host}
      {t : Registry × Host} {brought es : List Enrolment} {made : PluginType}
      (new : r.indexOfType type = none) (listed : catalogue.find? type = some made)
      (free : r.indexOf (made.create h).1.name = none)
      (along : Brings catalogue ((made.create h).1.requires (made.create h).2)
        (r.push (made.create h).1, (made.create h).2.enrolling (made.create h).1)
        brought (between, g))
      (later : Brings catalogue rest (between, g.bringing type) es t) :
      Brings catalogue (.typed type :: rest) (r, h)
        (.joined (made.create h).1 ((made.create h).1.requires (made.create h).2) ::
          (brought ++ es)) t

variable {catalogue : Catalogue}

theorem registerWith_of_taken {registerType : String → Registry × Host → Bool × Registry × Host}
    {plugin : Plugin} {index : Nat} {r : Registry} {h : Host}
    (taken : r.indexOf plugin.name = some index) :
    registerWith registerType plugin (r, h) =
      (false, r, h.refusing plugin (r.typeAt index)) := by
  simp only [registerWith, taken, Host.refusing]
  split <;> rfl

theorem registerWith_of_free {registerType : String → Registry × Host → Bool × Registry × Host}
    {plugin : Plugin} {r : Registry} {h : Host} (free : r.indexOf plugin.name = none) :
    registerWith registerType plugin (r, h) =
      (true, registerDependencies registerType (plugin.requires h)
        (r.push plugin, h.enrolling plugin)) := by
  simp only [registerWith, free, Host.enrolling]

theorem registerDependencies_typed
    (registerType : String → Registry × Host → Bool × Registry × Host) (type : String)
    (rest : List Dependency) (s : Registry × Host) :
    registerDependencies registerType (.typed type :: rest) s =
      registerDependencies registerType rest
        (if (registerType type s).1 then
          ((registerType type s).2.1, (registerType type s).2.2.bringing type)
        else (registerType type s).2) := by
  rw [registerDependencies]
  rcases registerType type s with ⟨_ | _, r, h⟩ <;> rfl

/-- The types that no plugin of the registry has. -/
def missing (catalogue : Catalogue) (r : Registry) : Nat :=
  catalogue.countP fun t => (r.indexOfType t.name).isNone

theorem indexOfType_of_slots {old new : Registry} (longer : old.slots <+: new.slots) {type : String}
    {index : Nat} (there : old.indexOfType type = some index) :
    new.indexOfType type = some index :=
  findIdx?_of_isPrefix longer there

theorem missing_of_longer {old new : Registry} (longer : old.slots <+: new.slots) (t : PluginType)
    (absent : (new.indexOfType t.name).isNone) : (old.indexOfType t.name).isNone := by
  cases known : old.indexOfType t.name with
  | none => rfl
  | some index =>
    rw [indexOfType_of_slots longer known] at absent
    exact absent

theorem missing_le {old new : Registry} (longer : old.slots <+: new.slots) :
    missing catalogue new ≤ missing catalogue old :=
  List.countP_mono_left fun t _ => missing_of_longer longer t

theorem slots_isPrefix_push (r : Registry) (plugin : Plugin) : r.slots <+: (r.push plugin).slots :=
  List.prefix_append _ _

/-- A plugin of a type that had none leaves fewer types without one. -/
theorem missing_push_lt {r : Registry} {plugin : Plugin} {made : PluginType}
    (listed : made ∈ catalogue) (new : r.indexOfType made.name = none)
    (own : plugin.type = made.name) :
    missing catalogue (r.push plugin) < missing catalogue r := by
  have there : ((r.push plugin).indexOfType made.name).isNone = false := by
    rw [indexOfType_push, new, if_pos own]
    rfl
  obtain ⟨before, after, rfl⟩ := List.append_of_mem listed
  have fewerBefore : missing before (r.push plugin) ≤ missing before r :=
    missing_le (slots_isPrefix_push r plugin)
  have fewerAfter : missing after (r.push plugin) ≤ missing after r :=
    missing_le (slots_isPrefix_push r plugin)
  simp only [missing] at fewerBefore fewerAfter
  simp only [missing, List.countP_append, List.countP_cons, there, new, Option.isNone_none,
    Bool.false_eq_true, if_false, if_true]
  omega

theorem Brings.slots_isPrefix {ds : List Dependency} {s t : Registry × Host} {es : List Enrolment}
    (brings : Brings catalogue ds s es t) : s.1.slots <+: t.1.slots := by
  induction brings with
  | nothing s => exact List.prefix_refl _
  | named _ ih => exact ih
  | known _ _ ih => exact ih
  | refused _ _ _ _ ih => exact ih
  | joined _ _ _ _ _ along later =>
    exact ((slots_isPrefix_push _ _).trans along).trans later

/-- Registering dependencies is deep enough as long as it may go deeper than there are types
without a plugin. -/
theorem registerDependencies_brings (whole : catalogue.Whole) {depth : Nat}
    {ds : List Dependency} {r : Registry} (h : Host) (enough : missing catalogue r < depth)
    (listed : ∀ type, .typed type ∈ ds → (catalogue.find? type).isSome) :
    ∃ es, Brings catalogue ds (r, h) es
      (registerDependencies (registerTypeWithin catalogue depth) ds (r, h)) := by
  induction depth generalizing ds r h with
  | zero => omega
  | succ depth deeper =>
    induction ds generalizing r h with
    | nil => exact ⟨[], .nothing _⟩
    | cons d rest ih =>
      have restListed : ∀ type, .typed type ∈ rest → (catalogue.find? type).isSome :=
        fun type asked => listed type (List.mem_cons_of_mem _ asked)
      cases d with
      | named name =>
        obtain ⟨es, later⟩ := ih h enough restListed
        exact ⟨es, .named later⟩
      | typed type =>
        obtain ⟨made, found⟩ := Option.isSome_iff_exists.1 (listed type List.mem_cons_self)
        have member : made ∈ catalogue := List.mem_of_find?_eq_some found
        have name : made.name = type := by simpa using List.find?_some found
        rw [registerDependencies_typed]
        cases known : r.indexOfType type with
        | some index =>
          simp only [registerTypeWithin, known, Option.isSome_some, if_true, Bool.false_eq_true,
            if_false]
          obtain ⟨es, later⟩ := ih h enough restListed
          exact ⟨es, .known known later⟩
        | none =>
          simp only [registerTypeWithin, known, Option.isSome_none, Bool.false_eq_true, if_false,
            found]
          cases taken : r.indexOf (made.create h).1.name with
          | some index =>
            rw [registerWith_of_taken taken]
            simp only [Bool.false_eq_true, if_false]
            obtain ⟨es, later⟩ := ih _ enough restListed
            exact ⟨_, .refused known found taken later⟩
          | none =>
            rw [registerWith_of_free taken]
            simp only [if_true]
            have fewer : missing catalogue (r.push (made.create h).1) < missing catalogue r :=
              missing_push_lt member (by rw [name]; exact known) (whole.ownType made member h)
            have fits : missing catalogue (r.push (made.create h).1) < depth := by omega
            obtain ⟨brought, along⟩ := deeper ((made.create h).2.enrolling (made.create h).1)
              fits (whole.asksWithin made member h (made.create h).2)
            have shrinks : missing catalogue _ ≤ missing catalogue (r.push (made.create h).1) :=
              missing_le along.slots_isPrefix
            obtain ⟨es, later⟩ := ih _ (Nat.lt_of_le_of_lt shrinks (by omega)) restListed
            exact ⟨_, .joined known found taken along later⟩

def plugins (r : Registry) : List Plugin := r.slots.map Slot.plugin

theorem plugins_push (r : Registry) (plugin : Plugin) :
    (r.push plugin).plugins = r.plugins ++ [plugin] := by
  simp only [plugins, push, List.map_append, List.map_cons, List.map_nil]

/-- The plugins that joined are the ones that are new, in the order in which they joined. -/
theorem Brings.plugins {ds : List Dependency} {s t : Registry × Host} {es : List Enrolment}
    (brings : Brings catalogue ds s es t) :
    t.1.plugins = s.1.plugins ++ es.filterMap Enrolment.joined? := by
  induction brings with
  | nothing s => simp
  | named _ ih => exact ih
  | known _ _ ih => exact ih
  | refused _ _ _ _ ih => exact ih
  | joined _ _ _ _ _ along later =>
    rw [later, along, plugins_push]
    simp [Enrolment.joined?]

theorem Brings.indexed {ds : List Dependency} {s t : Registry × Host} {es : List Enrolment}
    (brings : Brings catalogue ds s es t) (indexed : s.1.Indexed) : t.1.Indexed := by
  induction brings with
  | nothing s => exact indexed
  | named _ ih => exact ih indexed
  | known _ _ ih => exact ih indexed
  | refused _ _ _ _ ih => exact ih indexed
  | joined _ _ free _ _ along later => exact later (along (indexed.push free))

/-- A dependency on a type is met, or the name that the type's fresh plugin came with is the name
of a plugin of another type. -/
def Settled (catalogue : Catalogue) (r : Registry) (book : List Enrolment) (type : String) : Prop :=
  (∃ p ∈ r.plugins, p.type = type) ∨
    ∃ made h, catalogue.find? type = some made ∧ .refused (made.create h).1 ∈ book ∧
      ∃ p ∈ r.plugins, p.name = (made.create h).1.name ∧ p.type ≠ type

theorem plugins_subset {old new : Registry} (longer : old.slots <+: new.slots) {p : Plugin}
    (present : p ∈ old.plugins) : p ∈ new.plugins :=
  (longer.map Slot.plugin).subset present

theorem Settled.later {old new : Registry} {before after : List Enrolment} {type : String}
    (settled : Settled catalogue old before type) (longer : old.slots <+: new.slots)
    (kept : before ⊆ after) : Settled catalogue new after type := by
  obtain ⟨p, present, own⟩ | ⟨made, h, found, refused, p, present, named, other⟩ := settled
  · exact .inl ⟨p, plugins_subset longer present, own⟩
  · exact .inr ⟨made, h, found, kept refused, p, plugins_subset longer present, named, other⟩

/-- All that joined plugins asked for by type is settled. -/
def AllSettled (catalogue : Catalogue) (r : Registry) (joined book : List Enrolment) : Prop :=
  ∀ plugin needs, .joined plugin needs ∈ joined →
    ∀ type, .typed type ∈ needs → Settled catalogue r book type

theorem AllSettled.later {old new : Registry} {joined before after : List Enrolment}
    (settled : AllSettled catalogue old joined before) (longer : old.slots <+: new.slots)
    (kept : before ⊆ after) : AllSettled catalogue new joined after :=
  fun plugin needs member type asked => (settled plugin needs member type asked).later longer kept

theorem plugin_of_indexOfType {r : Registry} {type : String} {index : Nat}
    (there : r.indexOfType type = some index) : ∃ p ∈ r.plugins, p.type = type := by
  obtain ⟨inside, own, _⟩ := List.findIdx?_eq_some_iff_getElem.1 there
  exact ⟨r.slots[index].plugin, List.mem_map_of_mem (List.getElem_mem inside), by simpa using own⟩

theorem type_ne_of_indexOfType {r : Registry} {type : String} (new : r.indexOfType type = none)
    {p : Plugin} (present : p ∈ r.plugins) : p.type ≠ type := by
  obtain ⟨slot, member, rfl⟩ := List.mem_map.1 present
  simpa using List.findIdx?_eq_none_iff.1 new slot member

/-- A name that is taken is the name of a plugin. -/
theorem Indexed.plugin {r : Registry} (indexed : r.Indexed) {name : String} {index : Nat}
    (taken : r.indexOf name = some index) : ∃ p ∈ r.plugins, p.name = name := by
  obtain ⟨slot, member, named⟩ :=
    List.mem_map.1 (List.mem_of_getElem? ((indexed name index).1 taken))
  exact ⟨slot.plugin, List.mem_map_of_mem member, named⟩

/-- What was registered is settled in the end: the dependencies themselves, and those of every
plugin that joined. -/
theorem Brings.settled (whole : catalogue.Whole) {ds : List Dependency} {s t : Registry × Host}
    {es : List Enrolment} (brings : Brings catalogue ds s es t) (indexed : s.1.Indexed) :
    (∀ type, .typed type ∈ ds → Settled catalogue t.1 es type) ∧
      AllSettled catalogue t.1 es es := by
  induction brings with
  | nothing s =>
    constructor
    · intro type asked
      cases asked
    · intro plugin needs member
      cases member
  | named _ ih =>
    refine ⟨fun type asked => (ih indexed).1 type ?_, (ih indexed).2⟩
    cases asked
    assumption
  | known there later ih =>
    refine ⟨fun type asked => ?_, (ih indexed).2⟩
    cases asked with
    | head =>
      obtain ⟨p, present, own⟩ := plugin_of_indexOfType there
      exact .inl ⟨p, plugins_subset later.slots_isPrefix present, own⟩
    | tail _ asked => exact (ih indexed).1 type asked
  | @refused type rest r h t es made index new listed taken later ih =>
    have settled := ih indexed
    constructor
    · intro wanted asked
      cases asked with
      | head =>
        obtain ⟨holder, present, named⟩ := indexed.plugin taken
        exact .inr ⟨made, h, listed, List.mem_cons_self, holder,
          plugins_subset later.slots_isPrefix present, named, type_ne_of_indexOfType new present⟩
      | tail _ asked => exact (settled.1 wanted asked).later (List.prefix_refl _) (by simp)
    · intro plugin needs member
      cases member with
      | tail _ member =>
        exact settled.2.later (List.prefix_refl _) (List.subset_cons_self _ _) plugin needs member
  | @joined type rest r between h g t brought es made new listed free along later alongs laters =>
    have member : made ∈ catalogue := List.mem_of_find?_eq_some listed
    have name : made.name = type := by simpa using List.find?_some listed
    have own : (made.create h).1.type = type := (whole.ownType made member h).trans name
    have indexedPushed := indexed.push free
    have settledAlong := alongs indexedPushed
    have settledLater := laters (along.indexed indexedPushed)
    have pushed : (made.create h).1 ∈ (r.push (made.create h).1).plugins := by
      rw [plugins_push]
      simp
    have there : (made.create h).1 ∈ t.1.plugins :=
      plugins_subset (along.slots_isPrefix.trans later.slots_isPrefix) pushed
    have keepBrought : brought ⊆ .joined (made.create h).1
        ((made.create h).1.requires (made.create h).2) :: (brought ++ es) := by simp
    have keepLater : es ⊆ .joined (made.create h).1
        ((made.create h).1.requires (made.create h).2) :: (brought ++ es) := by simp
    constructor
    · intro wanted asked
      cases asked with
      | head => exact .inl ⟨_, there, own⟩
      | tail _ asked => exact (settledLater.1 wanted asked).later (List.prefix_refl _) keepLater
    · intro plugin needs inBook wanted asked
      cases inBook with
      | head =>
        exact (settledAlong.1 wanted asked).later later.slots_isPrefix keepBrought
      | tail _ inBook =>
        obtain inBrought | inLater := List.mem_append.1 inBook
        · exact (settledAlong.2 plugin needs inBrought wanted asked).later later.slots_isPrefix
            keepBrought
        · exact (settledLater.2 plugin needs inLater wanted asked).later (List.prefix_refl _) keepLater

end Registry

end PluginHost
