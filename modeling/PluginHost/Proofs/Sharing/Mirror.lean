import PluginHost.Proofs.Members
import PluginHost.Proofs.Messaging.Subscriptions
import PluginHost.Proofs.Sharing.Singletons
import PluginHost.Proofs.Sharing.Story

set_option autoImplicit false

namespace PluginHost

def Host.announceNew (type : String) (h : Host) : Host :=
  h.tell .shared .trace "Creating shared singleton" [("kind", .text type)]

def Wanted.init : Wanted → Act Host Shared
  | channel kind => Act.step fun h =>
    (.channel h.channels.size, { h with channels := h.channels.push (.new kind) })
  | method name => Act.step fun h =>
    (.method h.methods.size, { h with methods := h.methods.push (.new name) })
  | cell _ start => Act.step fun h => (.cell h.cells.size, { h with cells := h.cells.push start })

def Shared.IsOf (h : Host) (type : String) : Shared → Prop
  | channel number => ∃ c, h.channels[number]? = some c ∧ channelKey c.kind.name = type
  | method number => ∃ m, h.methods[number]? = some m ∧ methodKey m.name = type
  | cell _ => Plain type

namespace Host

def bare (h : Host) : Host := { h with shared := [] }

/-- What the host has is what a registry has. -/
structure Mirrors (h : Host) (registry : Nat) (s : Sharing Shared) : Prop where
  sound : s.Sound
  entries : ∃ entries, s.registries[registry]? = some entries ∧
    h.shared.map (fun m => (m.1, some m.2)) = entries.map fun m => (m.1, s.value? m.2)
  kinds : ∀ {type : String} {place : Shared}, h.shared.find? type = some place → place.IsOf h type

/-- What is at places stays of its type. -/
def Retains (h after : Host) : Prop :=
  ∀ (type : String) (place : Shared), place.IsOf h type → place.IsOf after type

end Host

theorem Channel.Undergoes.kind {channel : Nat} {c after : Channel Code Json}
    {occurrence : Occurrence} (undergoes : c.Undergoes channel occurrence after) :
    after.kind = c.kind := by
  cases undergoes <;> rfl

theorem Occurs.retains {h after : Host} {occurrence : Occurrence}
    (occurs : Occurs h occurrence after) : h.Retains after := by
  rintro type (number | number | number) is
  · obtain ⟨c, found, same⟩ := is
    obtain ⟨later, there, undergoes⟩ := occurs.undergoes found
    exact ⟨later, there, undergoes.kind ▸ same⟩
  · obtain ⟨m, found, same⟩ := is
    cases occurs with
    | served call executor channels methods => exact ⟨m, methods ▸ found, same⟩
    | subscribed channel subscriber => exact ⟨m, by rwa [Host.methods_subscribe], same⟩
    | unsubscribed channel removed => exact ⟨m, by rwa [Host.methods_unsubscribe], same⟩
    | provided other priority provider =>
      have after := h.methods_provide other provider priority number
      rw [found] at after
      split at after
      · exact ⟨_, after, same⟩
      · exact ⟨m, after, same⟩
    | aside executor channels methods => exact ⟨m, methods number m found, same⟩
  · exact is

theorem Course.retains {h last : Host} {occurrences : List Occurrence}
    (course : Course h occurrences last) : h.Retains last := by
  induction course with
  | nil => exact fun _ _ is => is
  | cons occurs _ ih => exact fun type place is => ih type place (occurs.retains type place is)

namespace Host

variable {h : Host} {wanted : Wanted} {place : Shared}

/-- What is there already is handed out, and nothing changes. -/
theorem hand_of_found (found : h.shared.find? wanted.type = some place)
    (is : place.IsOf h wanted.type) (plain : wanted.Plain) : h.hand wanted = (place, h) := by
  cases wanted with
  | channel kind =>
    cases place with
    | channel number => simp only [hand, channel, Wanted.type] at found ⊢; simp only [found]
    | method number =>
      obtain ⟨m, _, same⟩ := is
      exact absurd same (Shared.methodKey_ne_channelKey _ _)
    | cell number => exact absurd rfl (is.1 kind.name)
  | method name =>
    cases place with
    | method number => simp only [hand, method, Wanted.type] at found ⊢; simp only [found]
    | channel number =>
      obtain ⟨c, _, same⟩ := is
      exact absurd same.symm (Shared.methodKey_ne_channelKey _ _)
    | cell number => exact absurd rfl (is.2 name)
  | cell type start =>
    cases place with
    | cell number => simp only [hand, sharedCell, Wanted.type] at found ⊢; simp only [found]
    | channel number =>
      obtain ⟨c, _, same⟩ := is
      exact absurd same.symm (plain.1 _)
    | method number =>
      obtain ⟨m, _, same⟩ := is
      exact absurd same.symm (plain.2 _)

/-- What is not there yet is made, which is told, and entered under its type. -/
theorem hand_of_absent (absent : h.shared.find? wanted.type = none) (plain : wanted.Plain) :
    wanted.init (h.bare.announceNew wanted.type) =
        (.returned (h.hand wanted).1, (h.hand wanted).2.bare) ∧
      (h.hand wanted).2.shared = h.shared.insert wanted.type (h.hand wanted).1 ∧
      (h.hand wanted).1.IsOf (h.hand wanted).2 wanted.type := by
  cases wanted with
  | channel kind =>
    simp only [hand, channel, Wanted.type] at absent ⊢
    simp only [absent]
    exact ⟨rfl, rfl, _, Array.getElem?_push_size, rfl⟩
  | method name =>
    simp only [hand, method, Wanted.type] at absent ⊢
    simp only [absent]
    exact ⟨rfl, rfl, _, Array.getElem?_push_size, rfl⟩
  | cell type start =>
    simp only [hand, sharedCell, Wanted.type] at absent ⊢
    simp only [absent]
    exact ⟨rfl, rfl, plain⟩

namespace Mirrors

variable {registry : Nat} {s : Sharing Shared}

/-- What the host finds is the instance that the registry finds. -/
theorem find? (mirrors : h.Mirrors registry s) (type : String) :
    (h.shared.find? type).map some = (s.find? registry type).map s.value? := by
  obtain ⟨entries, there, same⟩ := mirrors.entries
  rw [← Members.find?_map, same, Members.find?_map, Sharing.find?, there, Option.bind_some]

theorem registered (mirrors : h.Mirrors registry s) : registry < s.registries.size := by
  obtain ⟨entries, there, _⟩ := mirrors.entries
  exact (Array.getElem?_eq_some_iff.1 there).1

/-- The host and the registry have as many types. -/
theorem len (mirrors : h.Mirrors registry s) : s.len registry = h.shared.length := by
  obtain ⟨entries, there, same⟩ := mirrors.entries
  rw [Sharing.len, there, Option.map_some, Option.getD_some, ← List.length_map, ← same,
    List.length_map]

/-- Another host with the same shared things, where these stay of their types. -/
theorem went {after : Host} (mirrors : h.Mirrors registry s) (shared : after.shared = h.shared)
    (retains : h.Retains after) : after.Mirrors registry s where
  sound := mirrors.sound
  entries := shared ▸ mirrors.entries
  kinds found := retains _ _ (mirrors.kinds (shared ▸ found))

theorem cleared (mirrors : h.Mirrors registry s) :
    h.clearShared.Mirrors registry (s.clear registry) where
  sound := mirrors.sound.clear registry
  entries := by
    obtain ⟨entries, there, _⟩ := mirrors.entries
    refine ⟨[], ?_, rfl⟩
    rw [Sharing.clear, Array.getElem?_modify, if_pos rfl, there]
    rfl
  kinds found := by cases found

/-- What is entered into the registry when the host makes something. -/
theorem entered (mirrors : h.Mirrors registry s) (absent : h.shared.find? wanted.type = none)
    (plain : wanted.Plain) :
    (h.hand wanted).2.Mirrors registry (s.enter registry wanted.type (h.hand wanted).1) := by
  obtain ⟨_, inserted, is⟩ := hand_of_absent absent plain
  obtain ⟨entries, there, same⟩ := mirrors.entries
  constructor
  case sound => exact mirrors.sound.enter mirrors.registered _
  case entries =>
    have kept : ∀ m ∈ entries, (s.enter registry wanted.type (h.hand wanted).1).value? m.2 =
        s.value? m.2 := by
      intro m member
      have known : (m.1, s.value? m.2) ∈ h.shared.map fun m => (m.1, some m.2) :=
        same ▸ List.mem_map_of_mem member
      obtain ⟨q, _, equal⟩ := List.mem_map.1 known
      obtain ⟨i, found, value⟩ := Option.map_eq_some_iff.1 (Prod.mk.inj equal).2.symm
      rw [Sharing.value?, Sharing.instances_enter s found, Sharing.value?, found]
    have made : (s.enter registry wanted.type (h.hand wanted).1).value? s.instances.size =
        some (h.hand wanted).1 := by
      rw [Sharing.value?, Sharing.instances_enter_size]
      rfl
    refine ⟨entries.insert wanted.type s.instances.size, ?_, ?_⟩
    · rw [Sharing.enter, Array.getElem?_modify, if_pos rfl, there]
      rfl
    · rw [inserted, ← Members.insert_map, same, ← Members.insert_map, made]
      exact congrArg _ (List.map_congr_left fun m member => by rw [kept m member])
  case kinds =>
    intro type place found
    rw [inserted, Members.find?_insert] at found
    split at found
    · rename_i equal
      cases found
      rwa [equal] at is
    · exact (h.hand_occurs wanted).retains _ _ (mirrors.kinds found)

/-- Whatever is asked for, the registry hands out as an instance what the host hands out. -/
theorem handed (mirrors : h.Mirrors registry s) (wanted : Wanted) (plain : wanted.Plain) :
    ∃ number inits after,
      Sharing.ask announceNew registry wanted.type wanted.init s h.bare =
        (.got registry wanted.type number inits, (after, (h.hand wanted).2.bare)) ∧
      after.value? number = some (h.hand wanted).1 ∧ (h.hand wanted).2.Mirrors registry after := by
  have alike := mirrors.find? wanted.type
  rcases Sharing.ask_cases mirrors.sound announceNew registry wanted.type wanted.init h.bare with
    ⟨number, found, asked⟩ | ⟨absent, ⟨value, last, made, asked⟩ | ⟨last, broken, _⟩⟩
  · rw [found, Option.map_some] at alike
    obtain ⟨place, there, same⟩ := Option.map_eq_some_iff.1 alike
    rw [hand_of_found there (mirrors.kinds there) plain]
    exact ⟨number, 0, s, asked, same.symm, mirrors⟩
  · rw [absent, Option.map_none, Option.map_eq_none_iff] at alike
    obtain ⟨makes, _, _⟩ := hand_of_absent alike plain
    rw [makes] at made
    cases made
    refine ⟨_, 1, _, asked, ?_, mirrors.entered alike plain⟩
    rw [Sharing.value?, Sharing.instances_enter_size]
    rfl
  · rw [absent, Option.map_none, Option.map_eq_none_iff] at alike
    obtain ⟨makes, _, _⟩ := hand_of_absent alike plain
    exact absurd (congrArg Prod.fst makes) (broken _)

end Mirrors

end Host

namespace Episode

/-- Clones by whose number something is asked for are there. -/
def Through (registry : Nat) (s : Sharing Shared) : Episode → Prop
  | handed clone _ _ | cleared clone => s.contexts[clone]? = some ⟨registry⟩
  | went _ => True

/-- The registry is asked for what the host is asked for. -/
def Asks : Episode → Sharing.Use Shared Host → Prop
  | handed clone wanted _, use => use = .getOrInit clone wanted.type wanted.init
  | cleared clone, use => use = .clear clone
  | went _, use => ∃ change, use = .meanwhile change

/-- The registry hands out what the host hands out. -/
def Echoes (registry : Nat) (s : Sharing Shared) : Episode → Sharing.Deed → Prop
  | handed _ wanted place, deed => ∃ number inits,
    deed = .got registry wanted.type number inits ∧ s.value? number = some place
  | cleared _, deed => deed = .cleared registry
  | went _, deed => deed = .aside

variable {registry : Nat} {s last : Sharing Shared} {episode : Episode}

theorem Asks.unaltered {use : Sharing.Use Shared Host} (asks : episode.Asks use) (number : Nat)
    (change : Shared → Shared) : use ≠ .alter number change := by
  cases episode with
  | handed clone wanted place =>
    rw [asks]
    exact nofun
  | cleared clone =>
    rw [asks]
    exact nofun
  | went occurrences =>
    obtain ⟨_, rfl⟩ := asks
    exact nofun

theorem Through.later (through : episode.Through registry s) (sound : s.Sound)
    (use : Sharing.Use Shared Host) (w : Host) :
    episode.Through registry (Sharing.perform Host.announceNew use s w).2.1 := by
  cases episode with
  | handed clone wanted place => exact Sharing.perform_contexts _ sound through use w
  | cleared clone => exact Sharing.perform_contexts _ sound through use w
  | went occurrences => trivial

theorem Echoes.later {deed : Sharing.Deed} (echoes : episode.Echoes registry s deed)
    (kept : ∀ (number : Nat) i, s.instances[number]? = some i → last.instances[number]? = some i) :
    episode.Echoes registry last deed := by
  cases episode with
  | handed clone wanted place =>
    obtain ⟨number, inits, got, value⟩ := echoes
    obtain ⟨i, there, same⟩ := Option.map_eq_some_iff.1 value
    refine ⟨number, inits, got, ?_⟩
    rw [Sharing.value?, kept number i there, Option.map_some, same]
  | cleared clone => exact echoes
  | went occurrences => exact echoes

end Episode

theorem Happens.mirrored {h after : Host} {episode : Episode} (happens : Happens h episode after)
    {registry : Nat} {s : Sharing Shared} (mirrors : h.Mirrors registry s)
    (through : episode.Through registry s) (plain : episode.Plain) :
    ∃ use deed next, episode.Asks use ∧
      Sharing.perform Host.announceNew use s h.bare = (deed, (next, after.bare)) ∧
      episode.Echoes registry next deed ∧ after.Mirrors registry next := by
  cases happens with
  | handed clone wanted =>
    obtain ⟨number, inits, next, asked, value, mirrors⟩ := mirrors.handed wanted plain
    refine ⟨_, _, next, rfl, ?_, ⟨number, inits, rfl, value⟩, mirrors⟩
    have there : s.contexts[clone]? = some ⟨registry⟩ := through
    simp only [Sharing.perform, Sharing.through, there, asked]
  | cleared clone =>
    refine ⟨_, .cleared registry, _, rfl, ?_, rfl, mirrors.cleared⟩
    have there : s.contexts[clone]? = some ⟨registry⟩ := through
    simp only [Sharing.perform, Sharing.through, there]
    rfl
  | went course shared =>
    exact ⟨.meanwhile fun _ => after.bare, .aside, s, ⟨_, rfl⟩, rfl, rfl,
      mirrors.went shared course.retains⟩

theorem Episode.unaltered_of_asks {episodes : List Episode} {uses : List (Sharing.Use Shared Host)}
    (asked : List.Forall₂ Episode.Asks episodes uses) (number : Nat) (change : Shared → Shared) :
    .alter number change ∉ uses := by
  induction asked with
  | nil => exact List.not_mem_nil
  | cons asks _ ih =>
    intro member
    rcases List.mem_cons.1 member with same | later
    · exact asks.unaltered number change same.symm
    · exact ih later

/-- All along a story the host is the mirror of a registry that is asked for the same. -/
theorem Story.mirrored {h last : Host} {episodes : List Episode} (story : Story h episodes last)
    {registry : Nat} {s : Sharing Shared} (mirrors : h.Mirrors registry s)
    (through : ∀ e ∈ episodes, e.Through registry s) (plain : ∀ e ∈ episodes, e.Plain) :
    ∃ uses, List.Forall₂ Episode.Asks episodes uses ∧
      let ended := Sharing.performAll Host.announceNew uses s h.bare
      List.Forall₂ (Episode.Echoes registry ended.2.1) episodes ended.1 ∧
        ended.2.2 = last.bare ∧ last.Mirrors registry ended.2.1 := by
  induction story generalizing s with
  | nil h => exact ⟨[], .nil, .nil, rfl, mirrors⟩
  | @cons h between last first later happens _ ih =>
    obtain ⟨throughFirst, throughLater⟩ := List.forall_mem_cons.1 through
    obtain ⟨plainFirst, plainLater⟩ := List.forall_mem_cons.1 plain
    obtain ⟨use, deed, next, asks, performed, echoes, mirrored⟩ :=
      happens.mirrored mirrors throughFirst plainFirst
    have still : ∀ e ∈ later, e.Through registry next := fun e member => by
      have kept := (throughLater e member).later mirrors.sound use h.bare
      rwa [performed] at kept
    obtain ⟨uses, asked, echoed, world, mirrorsLast⟩ := ih mirrored still plainLater
    refine ⟨use :: uses, .cons asks asked, ?_⟩
    simp only [Sharing.performAll, performed]
    have kept := Episode.Echoes.later echoes fun number i there =>
      Sharing.performAll_kept Host.announceNew uses mirrored.sound there
        (Episode.unaltered_of_asks asked number) between.bare
    exact ⟨.cons kept echoed, world, mirrorsLast⟩

end PluginHost
