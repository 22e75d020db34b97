import PluginHost.Proofs.Messaging.Deliveries
import PluginHost.Proofs.Sharing.Mirror

set_option autoImplicit false

namespace PluginHost

theorem forall₂_of_append {α β : Type} {R : α → β → Prop} {front back : List α} {all : List β}
    (related : List.Forall₂ R (front ++ back) all) :
    ∃ first rest, all = first ++ rest ∧ List.Forall₂ R front first ∧ List.Forall₂ R back rest := by
  induction front generalizing all with
  | nil => exact ⟨[], all, rfl, .nil, related⟩
  | cons a front ih =>
    cases related with
    | cons one others =>
      obtain ⟨first, rest, rfl, before, after⟩ := ih others
      exact ⟨_, rest, rfl, .cons one before, after⟩

namespace Sharing

variable {ν σ : Type}

def cloned (clones : Nat) : Sharing ν where
  registries := #[[]]
  contexts := Array.replicate (clones + 1) ⟨0⟩

theorem performAll_cloned (announce : String → σ → σ) (clones : Nat) (w : σ) :
    performAll announce (.found :: List.replicate clones (.clone 0)) ({} : Sharing ν) w =
      (List.replicate (clones + 1) .aside, (cloned clones, w)) := by
  induction clones with
  | zero => rfl
  | succ clones ih =>
    have context : (cloned clones : Sharing ν).contexts[0]? = some ⟨0⟩ := by
      rw [cloned, Array.getElem?_replicate, if_pos (Nat.succ_pos clones)]
    have more : perform announce (.clone 0) (cloned clones : Sharing ν) w =
        (.aside, (cloned (clones + 1), w)) := by
      rw [perform_clone announce context]
      simp only [clone, cloned, Array.replicate_succ]
    rw [List.replicate_succ', ← List.cons_append, performAll_append, ih]
    simp only [performAll, more]
    rw [← List.replicate_succ']

theorem sound_cloned (clones : Nat) : (cloned clones : Sharing ν).Sound := by
  have empty : ({} : Sharing ν).Sound := sound_empty
  have comes := performAll_comes (fun _ w => w) (.found :: List.replicate clones (.clone 0))
    empty ()
  rw [performAll_cloned] at comes
  exact comes.sound

end Sharing

def Episode.Within (clones : Nat) : Episode → Prop
  | handed clone _ _ | cleared clone => clone ≤ clones
  | went _ => True

/-- A registry hands out what the host hands out, if it is asked for the same things through the
same clones of the context of an application, which has nothing in its registry at first. -/
def Host.AsRegistry (h : Host) (episodes : List Episode) (last : Host) (clones : Nat) : Prop :=
  ∃ uses deeds, List.Forall₂ Episode.Asks episodes uses ∧
    let ended := Sharing.performAll Host.announceNew
      (.found :: List.replicate clones (.clone 0) ++ uses) {} h.bare
    ended.1 = List.replicate (clones + 1) .aside ++ deeds ∧
      List.Forall₂ (Episode.Echoes 0 ended.2.1) episodes deeds ∧
      ended.2.2 = last.bare ∧ last.Mirrors 0 ended.2.1

section Story

variable {h last : Host} {episodes : List Episode} {clones : Nat}

theorem Host.mirrors_cloned (unshared : h.shared = []) (clones : Nat) :
    h.Mirrors 0 (Sharing.cloned clones) where
  sound := Sharing.sound_cloned clones
  entries := ⟨[], rfl, by rw [unshared]; rfl⟩
  kinds found := by
    rw [unshared] at found
    cases found

theorem Episode.Within.through {episode : Episode} (within : episode.Within clones) :
    episode.Through 0 (Sharing.cloned clones) := by
  have there {clone : Nat} (small : clone ≤ clones) :
      (Sharing.cloned clones : Sharing Shared).contexts[clone]? = some ⟨0⟩ := by
    rw [Sharing.cloned, Array.getElem?_replicate, if_pos (Nat.lt_succ_of_le small)]
  cases episode with
  | handed clone wanted place => exact there within
  | cleared clone => exact there within
  | went occurrences => trivial

theorem Story.asRegistry (story : Story h episodes last) (unshared : h.shared = [])
    (plain : ∀ e ∈ episodes, e.Plain) (within : ∀ e ∈ episodes, e.Within clones) :
    h.AsRegistry episodes last clones := by
  obtain ⟨uses, asked, echoed, world, mirrors⟩ :=
    story.mirrored (Host.mirrors_cloned unshared clones)
      (fun e member => (within e member).through) plain
  let ended := Sharing.performAll Host.announceNew uses (Sharing.cloned clones) h.bare
  refine ⟨uses, ended.1, asked, ?_⟩
  simp only [Sharing.performAll_append, Sharing.performAll_cloned]
  exact ⟨rfl, echoed, world, mirrors⟩

end Story

theorem Shared.channelKey_injective {kind other : String}
    (same : channelKey kind = channelKey other) : kind = other := by
  unfold channelKey at same
  have lists := congrArg String.toList same
  exact String.toList_inj.1 (by simpa using lists)

/-- No clearing comes of episodes without one. -/
theorem Episode.uncleared_of_echoes {registry : Nat} {s : Sharing Shared} {episodes : List Episode}
    {deeds : List Sharing.Deed} (echoed : List.Forall₂ (Episode.Echoes registry s) episodes deeds)
    (uncleared : ∀ clone, .cleared clone ∉ episodes) (other : Nat) : .cleared other ∉ deeds := by
  induction echoed with
  | nil => exact List.not_mem_nil
  | @cons episode deed later more echoes _ ih =>
    intro member
    rcases List.mem_cons.1 member with rfl | rest
    · cases episode with
      | handed clone wanted place =>
        obtain ⟨_, _, got, _⟩ := echoes
        cases got
      | cleared clone => exact uncleared clone List.mem_cons_self
      | went occurrences => cases echoes
    · exact ih (fun clone found => uncleared clone (List.mem_cons_of_mem _ found)) rest

/-- Whatever is asked for twice is handed out twice, the same, unless a clearing comes between. -/
theorem Host.AsRegistry.same {h last : Host} {episodes : List Episode} {clones : Nat}
    (asRegistry : h.AsRegistry episodes last clones) {before between after : List Episode}
    {first second : Nat} {wanted : Wanted} {place other : Shared}
    (split : episodes = before ++ .handed first wanted place ::
      (between ++ .handed second wanted other :: after))
    (uncleared : ∀ clone, .cleared clone ∉ between) : other = place := by
  obtain ⟨uses, deeds, _, deedsEnd, echoed, _, _⟩ := asRegistry
  rw [split] at echoed
  obtain ⟨front, rest, rfl, _, echoedRest⟩ := forall₂_of_append echoed
  cases echoedRest with
  | cons one more =>
    obtain ⟨middle, back, rfl, echoedMiddle, echoedBack⟩ := forall₂_of_append more
    cases echoedBack with
    | cons two _ =>
      obtain ⟨number, inits, rfl, value⟩ := one
      obtain ⟨again, more, rfl, valueToo⟩ := two
      have singletons := Sharing.singletons Host.announceNew
        (.found :: List.replicate clones (.clone 0) ++ uses) h.bare
      rw [← List.append_assoc] at deedsEnd
      have same := singletons.same _ _ _ _ _ _ _ _ _ deedsEnd
        (Episode.uncleared_of_echoes echoedMiddle uncleared 0)
      rw [same, value] at valueToo
      exact (Option.some.inj valueToo).symm

/-- What comes of a channel from when it was asked for, in some episodes. -/
structure Host.Conveys (last : Host) (kind : ChannelKind) (channel : Nat) (later : List Episode) :
    Prop where
  /-- Through any other clone it is the same channel, unless what is shared was cleared before. -/
  same : ∀ between clone place after,
    later = between ++ .handed clone (.channel kind) place :: after →
      (∀ other, .cleared other ∉ between) → place = .channel channel
  /-- A message that is published is posted. -/
  publishes : ∀ dispatch message next,
    Code.run dispatch (Steps.publish kind channel message next) last =
      Code.run dispatch (next (last.post kind.priority 0 (.delivery channel message)).1)
        (last.post kind.priority 0 (.delivery channel message)).2
  /-- When its delivery begins, it is handed to everybody who subscribed and did not take that back,
  in the order of the subscriptions. -/
  reaches : ∀ early number subscriber late,
    occurrences later = early ++ .subscribed channel number subscriber :: late →
      .unsubscribed channel number ∉ late → ∀ begun hint rest message,
        Executor.Call.begin.make last.executor = (.began begun hint, rest) →
          begun.task.body = .delivery channel message → ∀ dispatch,
            ∃ start c, start.executor = rest ∧ start.channels = last.channels ∧
              last.channels[channel]? = some c ∧ c.kind.name = kind.name ∧
              (number, subscriber) ∈ c.subscribers ∧
              Host.HandsOut dispatch c.kind (c.deliveries message) start
                (Host.execute (Code.run dispatch) last)

section Reaching

variable {h last : Host} {channel number : Nat} {subscriber : Json → Code}

/-- What is handed out is of the type that it was asked for by. -/
theorem Host.Mirrors.hand_isOf {registry : Nat} {s : Sharing Shared}
    (mirrors : h.Mirrors registry s) (wanted : Wanted) (plain : wanted.Plain) :
    (h.hand wanted).1.IsOf (h.hand wanted).2 wanted.type := by
  cases found : h.shared.find? wanted.type with
  | some place =>
    rw [hand_of_found found (mirrors.kinds found) plain]
    exact mirrors.kinds found
  | none => exact (hand_of_absent found plain).2.2

/-- Whoever subscribes is there, until the number is taken off. -/
theorem Course.stands {early late : List Occurrence} {type : String}
    (course : Course h (early ++ .subscribed channel number subscriber :: late) last)
    (is : (Shared.channel channel).IsOf h type) (kept : .unsubscribed channel number ∉ late) :
    ∃ c, last.channels[channel]? = some c ∧ Shared.channelKey c.kind.name = type ∧
      (number, subscriber) ∈ c.subscribers := by
  obtain ⟨between, first, rest⟩ := course.split
  obtain ⟨c, found, same⟩ := first.retains type _ is
  cases rest with
  | cons occurs more =>
    obtain ⟨joined, there, undergoes⟩ := occurs.undergoes found
    obtain ⟨after, stays, followed⟩ := more.followed there
    have subscribed : (number, subscriber) ∈ joined.subscribers ∧ joined.kind = c.kind := by
      refine ⟨?_, undergoes.kind⟩
      cases undergoes with
      | subscribed subscriber => exact List.mem_append_right _ List.mem_cons_self
      | untouched unmade _ => exact absurd unmade (by simp [Occurrence.subscription?])
    have untaken : number ∉ removed channel late := by
      intro member
      obtain ⟨occurrence, found, same⟩ := List.mem_filterMap.1 member
      cases occurrence with
      | unsubscribed other taken =>
        rw [Occurrence.removed?] at same
        split at same
        · rename_i here
          cases same
          exact kept (here ▸ found)
        · cases same
      | _ => cases same
    refine ⟨after, stays, ?_, ?_⟩
    · rw [followed.kind, subscribed.2, same]
    · rw [followed.subscribers]
      refine List.mem_append_left _ (List.mem_filter.2 ⟨subscribed.1, ?_⟩)
      exact decide_eq_true untaken

end Reaching

/-- Whatever was asked for before, and is asked for afterwards. -/
theorem Story.conveys {h last : Host} {before later : List Episode} {clone clones channel : Nat}
    {kind : ChannelKind}
    (story : Story h (before ++ .handed clone (.channel kind) (.channel channel) :: later) last)
    (unshared : h.shared = [])
    (plain : ∀ e ∈ before ++ .handed clone (.channel kind) (.channel channel) :: later, e.Plain)
    (within : ∀ e ∈ before ++ .handed clone (.channel kind) (.channel channel) :: later,
      e.Within clones) : last.Conveys kind channel later := by
  constructor
  case same =>
    rintro between second place after rfl uncleared
    exact (story.asRegistry unshared plain within).same rfl uncleared
  case publishes => exact fun dispatch message next => rfl
  case reaches =>
    intro early number subscriber late split kept begun hint rest message begins body dispatch
    obtain ⟨asked, front, back⟩ := story.split
    obtain ⟨_, _, _, _, mirrors⟩ := front.mirrored (Host.mirrors_cloned unshared clones)
      (fun e member => (within e (List.mem_append_left _ member)).through)
      fun e member => plain e (List.mem_append_left _ member)
    cases back with
    | cons happens more =>
      obtain ⟨place, rfl⟩ := happens.handed_eq
      have is := mirrors.hand_isOf (.channel kind) trivial
      rw [← place] at is
      have course := more.course
      rw [split] at course
      obtain ⟨c, found, name, subscribed⟩ := course.stands is kept
      obtain ⟨start, executor, channels, handsOut⟩ :=
        Host.execute_handsOut dispatch found begins body
      exact ⟨start, c, executor, channels, found, Shared.channelKey_injective name, subscribed,
        handsOut⟩

/-- Whatever is done with what is shared, through whatever clones of a context: in a registry there
is one instance of each type from one clearing to the next. The host hands out what such a registry
does, so a channel is the same through any clone, with all its subscribers, until what is shared is
cleared. Whatever code does next is more of the story. -/
theorem Story.shared_by_clones {ν σ : Type} (announce : String → σ → σ)
    (uses : List (Sharing.Use ν σ)) (world : σ) {h last : Host} {episodes : List Episode}
    {clones : Nat} (story : Story h episodes last) (unshared : h.shared = [])
    (plain : ∀ e ∈ episodes, e.Plain) (within : ∀ e ∈ episodes, e.Within clones) :
    Sharing.Singletons announce uses world ∧
      h.AsRegistry episodes last clones ∧
      (∀ before clone kind channel later,
        episodes = before ++ .handed clone (.channel kind) (.channel channel) :: later →
          last.Conveys kind channel later) ∧
      ∀ depth code, (Code.runWithin depth code last).1 ≠ .stalled →
        last.Tells (Code.runWithin depth code last).2 := by
  refine ⟨Sharing.singletons announce uses world, story.asRegistry unshared plain within, ?_, ?_⟩
  · rintro before clone kind channel later rfl
    exact story.conveys unshared plain within
  · intro depth code ended
    exact Host.upheld_tells.runWithin depth code last last (Host.upheld_tells.refl last) ended

/-- Through two clones the same tally is got and made once. On the host, a message that is published
through one clone goes to the subscriber that was added through the other one. -/
theorem Story.shared_by_clones_of_two :
    let announce : String → List String → List String := fun type told => told ++ [type]
    let uses : List (Sharing.Use Nat (List String)) :=
      [.found, .clone 0, .getOrInit 0 "Tally" (pure 5), .getOrInit 1 "Tally" (pure 6)]
    let kind : ChannelKind := ⟨"numbers", 50⟩
    let tells : Json → Code := fun _ => .ask (.say (.note "heard")) fun _ => .nothing
    let h₁ := (({} : Host).channel kind).2
    let h₂ := (h₁.subscribe 0 tells).2
    let post := Executor.Call.post 50 0 (.delivery 0 .null)
    let last := (h₂.post 50 0 (.delivery 0 .null)).2
    let episodes : List Episode := [.handed 0 (.channel kind) (.channel 0),
      .went [.subscribed 0 0 tells], .handed 1 (.channel kind) (.channel 0),
      .went [.served post (post.make h₂.executor).1]]
    Sharing.Singletons announce uses [] ∧
      Sharing.performAll announce uses {} [] =
        ([.aside, .aside, .got 0 "Tally" 0 1, .got 0 "Tally" 0 0],
          (⟨#[⟨"Tally", 5⟩], #[[("Tally", 0)]], #[⟨0⟩, ⟨0⟩]⟩, ["Tally"])) ∧
      ({} : Host).AsRegistry episodes last 1 ∧
      ∃ start, ∃ c : Channel Code Json, c.kind.name = "numbers" ∧ (0, tells) ∈ c.subscribers ∧
        Host.HandsOut (Code.runWithin 1) c.kind (c.deliveries .null) start
          (Host.execute (Code.runWithin 2) last) := by
  intro announce uses kind tells h₁ h₂ post last episodes
  have again : h₂.hand (.channel kind) = (.channel 0, h₂) := by
    refine Host.hand_of_found ?_ ⟨_, rfl, rfl⟩ trivial
    exact (Members.find?_insert _ _ _ _).trans (if_pos rfl)
  have asked : Happens h₂ (.handed 1 (.channel kind) (.channel 0)) h₂ := by
    have handed := Happens.handed h₂ 1 (.channel kind)
    rwa [again] at handed
  have posted : Happens h₂ (.went [.served post (post.make h₂.executor).1]) last :=
    .went (.single (.served post rfl rfl rfl)) (h₂.shared_post 50 0 _)
  have story : Story {} episodes last :=
    .cons (.handed {} 0 (.channel kind)) <|
      .cons (.went (.single (.subscribed h₁ 0 tells)) (h₁.shared_subscribe 0 tells)) <|
        .cons asked <| .cons posted (.nil last)
  have plain : ∀ e ∈ episodes, e.Plain := by
    simp [episodes, Episode.Plain, Wanted.Plain]
  have within : ∀ e ∈ episodes, e.Within 1 := by
    simp [episodes, Episode.Within]
  obtain ⟨singletons, asRegistry, reaches, _⟩ :=
    Story.shared_by_clones announce uses [] story rfl plain within
  refine ⟨singletons, rfl, asRegistry, ?_⟩
  have reached := reaches [] 0 kind 0 _ rfl
  have executor : last.executor = (post.make .empty).2 := rfl
  have begins := Executor.begin_first 50 (Code.delivery 0 .null)
  rw [← executor] at begins
  obtain ⟨start, c, _, _, _, name, subscribed, handsOut⟩ := reached.reaches [] 0 tells _ rfl
    (by simp [Episode.occurrences]) _ _ _ .null begins rfl (Code.runWithin 1)
  exact ⟨start, c, name, subscribed, handsOut⟩

end PluginHost
