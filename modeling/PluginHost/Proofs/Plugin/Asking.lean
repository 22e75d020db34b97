import PluginHost.Proofs.Plugin.Bounds
import PluginHost.Proofs.Plugin.Enrolment

/-!
Registration with notes of who is asked what it needs. A plugin is asked when it joins, before what
it needs is registered, and by then its type has a plugin; so types that need each other come to an
end, and whoever joins is asked once and nobody else is.
-/

set_option autoImplicit false

namespace PluginHost

namespace Registry

inductive Inquiry where
  /-- A plugin is asked what it needs. -/
  | asked (plugin : Plugin)
  /-- What a plugin needs is not followed any deeper. -/
  | cut

/-- A registry and a host, and what was noted, the oldest first. -/
abbrev Tally := (Registry × Host) × List Inquiry

def registerDependenciesNoted (registerType : String → Tally → Bool × Tally) :
    List Dependency → Tally → Tally
  | [], s => s
  | .named _ :: rest, s => registerDependenciesNoted registerType rest s
  | .typed type :: rest, s =>
    match registerType type s with
    | (true, (r, h), notes) =>
      registerDependenciesNoted registerType rest ((r, h.bringing type), notes)
    | (false, s) => registerDependenciesNoted registerType rest s

def registerWithNoted (registerType : String → Tally → Bool × Tally) (plugin : Plugin) :
    Tally → Bool × Tally
  | ((r, h), notes) =>
    match r.indexOf plugin.name with
    | some index => (false, (r, h.refusing plugin (r.typeAt index)), notes)
    | none =>
      (true, registerDependenciesNoted registerType (plugin.requires h)
        ((r.push plugin, h.enrolling plugin), notes ++ [.asked plugin]))

def registerTypeWithinNoted (catalogue : Catalogue) : Nat → String → Tally → Bool × Tally
  | 0, _, (s, notes) => (false, s, notes ++ [.cut])
  | depth + 1, type, ((r, h), notes) =>
    if (r.indexOfType type).isSome then (false, (r, h), notes)
    else
      match catalogue.find? type with
      | none => (false, (r, h), notes)
      | some made =>
        registerWithNoted (registerTypeWithinNoted catalogue depth) (made.create h).1
          ((r, (made.create h).2), notes)

def registerTypeNoted (catalogue : Catalogue) (type : String) (s : Tally) : Bool × Tally :=
  registerTypeWithinNoted catalogue (catalogue.length + 1) type s

def registerNoted (catalogue : Catalogue) (plugin : Plugin) (s : Tally) : Bool × Tally :=
  registerWithNoted (registerTypeNoted catalogue) plugin s

/-- One registry came from another one: the plugins that were asked joined it, and nobody else. -/
def Joined (before after : Registry) (asked : List Plugin) : Prop :=
  after.plugins = before.plugins ++ asked ∧ before.slots <+: after.slots

theorem Joined.none (r : Registry) : Joined r r [] :=
  ⟨(List.append_nil _).symm, List.prefix_refl _⟩

theorem Joined.trans {before middle after : Registry} {asked later : List Plugin}
    (first : Joined before middle asked) (second : Joined middle after later) :
    Joined before after (asked ++ later) :=
  ⟨by rw [second.1, first.1, List.append_assoc], first.2.trans second.2⟩

theorem Joined.push (r : Registry) (plugin : Plugin) : Joined r (r.push plugin) [plugin] :=
  ⟨plugins_push r plugin, slots_isPrefix_push r plugin⟩

/-- A registration and the same one with notes: those are asked who join. -/
def Asks (plain : Registry × Host → Bool × Registry × Host) (noted : Tally → Bool × Tally)
    (r : Registry) : Prop :=
  ∀ h notes, ∃ asked : List Plugin,
    noted ((r, h), notes) =
      ((plain (r, h)).1, (plain (r, h)).2, notes ++ asked.map .asked) ∧
    Joined r (plain (r, h)).2.1 asked

variable {catalogue : Catalogue}

theorem Asks.refused {plain : Registry × Host → Bool × Registry × Host}
    {noted : Tally → Bool × Tally} {r : Registry} (told : Host → Host)
    (same : ∀ h, plain (r, h) = (false, r, told h))
    (also : ∀ h notes, noted ((r, h), notes) = (false, (r, told h), notes)) :
    Asks plain noted r := by
  intro h notes
  refine ⟨[], ?_, ?_⟩
  · rw [same, also, List.map_nil, List.append_nil]
  · rw [same]
    exact .none r

/-- What is needed is registered in turn, each with fewer types without a plugin than allowed. -/
theorem registerDependencies_asks {limit : Nat}
    {plain : String → Registry × Host → Bool × Registry × Host}
    {noted : String → Tally → Bool × Tally}
    (asks : ∀ type r, missing catalogue r < limit → Asks (plain type) (noted type) r)
    (ds : List Dependency) {r : Registry} (enough : missing catalogue r < limit) (h : Host)
    (notes : List Inquiry) :
    ∃ asked : List Plugin, registerDependenciesNoted noted ds ((r, h), notes) =
        (registerDependencies plain ds (r, h), notes ++ asked.map .asked) ∧
      Joined r (registerDependencies plain ds (r, h)).1 asked := by
  induction ds generalizing r h notes with
  | nil => exact ⟨[], by rw [List.map_nil, List.append_nil]; rfl, .none r⟩
  | cons d rest ih =>
    cases d with
    | named name => exact ih enough h notes
    | typed type =>
      obtain ⟨asked, same, joined⟩ := asks type r enough h notes
      have fewer : missing catalogue _ ≤ missing catalogue r := missing_le joined.2
      rw [registerDependencies_typed, registerDependenciesNoted, same]
      generalize plain type (r, h) = registered at joined fewer ⊢
      obtain ⟨_ | _, middle, g⟩ := registered
      · obtain ⟨later, sameLater, joinedLater⟩ := ih (r := middle)
          (Nat.lt_of_le_of_lt fewer enough) g (notes ++ asked.map .asked)
        refine ⟨asked ++ later, ?_, joined.trans joinedLater⟩
        rw [List.map_append, ← List.append_assoc]
        exact sameLater
      · obtain ⟨later, sameLater, joinedLater⟩ := ih (r := middle)
          (Nat.lt_of_le_of_lt fewer enough) (g.bringing type) (notes ++ asked.map .asked)
        refine ⟨asked ++ later, ?_, joined.trans joinedLater⟩
        rw [List.map_append, ← List.append_assoc]
        exact sameLater

/-- A plugin whose name is free is asked and joins before what it needs; one whose name is taken is
not asked. -/
theorem registerWith_asks {limit : Nat}
    {plain : String → Registry × Host → Bool × Registry × Host}
    {noted : String → Tally → Bool × Tally}
    (asks : ∀ type r, missing catalogue r < limit → Asks (plain type) (noted type) r)
    {plugin : Plugin} {r : Registry} (enough : missing catalogue (r.push plugin) < limit) :
    Asks (registerWith plain plugin) (registerWithNoted noted plugin) r := by
  cases taken : r.indexOf plugin.name with
  | some index =>
    exact .refused (fun h => h.refusing plugin (r.typeAt index))
      (fun h => registerWith_of_taken taken) fun h notes => by rw [registerWithNoted, taken]
  | none =>
    intro h notes
    obtain ⟨asked, same, joined⟩ := registerDependencies_asks asks (plugin.requires h) enough
      (h.enrolling plugin) (notes ++ [.asked plugin])
    rw [registerWith_of_free taken, registerWithNoted, taken]
    refine ⟨plugin :: asked, ?_, (Joined.push r plugin).trans joined⟩
    rw [same, List.map_cons, List.append_assoc]
    rfl

/-- Each level registers a type that had no plugin, so there are enough levels for all of them. -/
theorem registerTypeWithin_asks
    (own : ∀ made ∈ catalogue, ∀ h : Host, (made.create h).1.type = made.name) (limit : Nat)
    (type : String) (r : Registry) (enough : missing catalogue r < limit) :
    Asks (registerTypeWithin catalogue limit type) (registerTypeWithinNoted catalogue limit type)
      r := by
  induction limit generalizing type r with
  | zero => omega
  | succ limit ih =>
    cases known : (r.indexOfType type).isSome with
    | true =>
      exact .refused id (fun h => by rw [registerTypeWithin, if_pos known]; rfl)
        fun h notes => by rw [registerTypeWithinNoted, if_pos known]; rfl
    | false =>
      have new : r.indexOfType type = none := by simpa using known
      cases found : catalogue.find? type with
      | none =>
        exact .refused id
          (fun h => by simp only [registerTypeWithin, known, found]; rfl)
          fun h notes => by simp only [registerTypeWithinNoted, known, found]; rfl
      | some made =>
        have member : made ∈ catalogue := List.mem_of_find?_eq_some found
        have name : made.name = type := by simpa using List.find?_some found
        intro h notes
        have fewer := missing_push_lt member (by rw [name]; exact new) (own made member h)
        obtain ⟨asked, same, joined⟩ := registerWith_asks ih
          (Nat.lt_of_lt_of_le fewer (Nat.le_of_lt_succ enough)) (made.create h).2 notes
        refine ⟨asked, ?_, ?_⟩
        · simp only [registerTypeWithin, registerTypeWithinNoted, known, found]
          exact same
        · simp only [registerTypeWithin, known, found]
          exact joined

theorem missing_lt_length (catalogue : Catalogue) (r : Registry) :
    missing catalogue r < catalogue.length + 1 :=
  Nat.lt_succ_of_le List.countP_le_length

/-- Registering a type asks the plugins that join, each once, and nobody else. -/
theorem registerType_asks
    (own : ∀ made ∈ catalogue, ∀ h : Host, (made.create h).1.type = made.name) (type : String)
    (r : Registry) : Asks (registerType catalogue type) (registerTypeNoted catalogue type) r :=
  registerTypeWithin_asks own _ type r (missing_lt_length catalogue r)

/-- Registering a plugin asks the plugins that join, each once, and nobody else. -/
theorem register_asks
    (own : ∀ made ∈ catalogue, ∀ h : Host, (made.create h).1.type = made.name) (plugin : Plugin)
    (r : Registry) : Asks (register catalogue plugin) (registerNoted catalogue plugin) r :=
  have enough : missing catalogue (r.push plugin) < catalogue.length + 1 :=
    missing_lt_length catalogue _
  registerWith_asks (fun type s _ => registerType_asks own type s) enough

end Registry

namespace Ensemble

/-- Bringing plugins up and registering them comes to an end, whatever depends on what. Setting up
and starting look up each plugin once at most, go no deeper than there are plugins and one more, and
end unless the call of a registered plugin does not; registering asks the plugins that join, each
once, and nobody else. -/
theorem every_graph_ends (dispatch : Dispatch) (e : Ensemble) {catalogue : Catalogue}
    (own : ∀ made ∈ catalogue, ∀ h : Host, (made.create h).1.type = made.name) :
    (∀ name options, Bounded .registered (.settingUp options) dispatch
      (setUp dispatch name options) (setUpNoted dispatch name options) e) ∧
    Bounded .initialized .starting dispatch (start dispatch) (startNoted dispatch) e ∧
    (∀ plugin r, Registry.Asks (Registry.register catalogue plugin)
      (Registry.registerNoted catalogue plugin) r) ∧
    ∀ type r, Registry.Asks (Registry.registerType catalogue type)
      (Registry.registerTypeNoted catalogue type) r :=
  ⟨fun name options => setUp_bounded dispatch name options e, start_bounded dispatch e,
    Registry.register_asks own, Registry.registerType_asks own⟩

/-- A type whose plugins need plugins of another type, and themselves. -/
def needing (name type needed : String) : PluginType where
  name := type
  create h := ({ type, name, requires := fun _ => [.typed needed, .named name] }, h)

/-- Two types that need each other. -/
def ring : Catalogue := [needing "Alpha" "a::Alpha" "b::Beta", needing "Beta" "b::Beta" "a::Alpha"]

theorem ring_own : ∀ made ∈ ring, ∀ h : Host, (made.create h).1.type = made.name := by
  intro made member h
  simp only [ring, List.mem_cons, List.not_mem_nil, or_false] at member
  rcases member with rfl | rfl <;> rfl

def idle : Dispatch := fun _ h => (.returned (.ok .null), h)

theorem idle_ends {m : Manner} {e after : Ensemble} {replies : List Reply} :
    ¬ Endless idle m e replies after := by
  rintro ⟨_, _, plugin, _, _, stalled, _⟩
  cases stalled

/-- Registering one type of the ring asks a plugin of each, and setting up the first one ends. -/
theorem every_graph_ends_of_ring :
    (∀ made ∈ ring, ∀ h : Host, (made.create h).1.type = made.name) ∧
    (∃ asked : List Plugin,
      (Registry.registerTypeNoted ring "a::Alpha" (({}, {}), [])).2.2 = asked.map .asked ∧
      asked.map Plugin.name = ["Alpha", "Beta"]) ∧
    (setUp idle "Alpha" .empty (registerType ring "a::Alpha" {}).2).1 ≠ .stalled := by
  obtain ⟨settingUp, -, -, registering⟩ :=
    every_graph_ends idle (registerType ring "a::Alpha" {}).2 ring_own
  refine ⟨ring_own, ?_, ?_⟩
  · obtain ⟨asked, noted, joined, -⟩ := registering "a::Alpha" {} {} []
    refine ⟨asked, by rw [noted, List.nil_append], ?_⟩
    have names : (Registry.registerType ring "a::Alpha" ({}, {})).2.1.plugins.map Plugin.name =
        ["Alpha", "Beta"] := by decide +kernel
    rw [joined] at names
    exact names
  · intro stalled
    obtain ⟨replies, endless⟩ := (settingUp "Alpha" .empty).ends stalled
    exact idle_ends endless

end Ensemble

end PluginHost
