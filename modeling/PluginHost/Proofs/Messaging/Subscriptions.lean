import Mathlib.Data.List.Nodup
import PluginHost.Proofs.Messaging.Course

set_option autoImplicit false

namespace PluginHost

def Occurrence.subscription? (channel : Nat) : Occurrence → Option (Nat × (Json → Code))
  | .subscribed other number subscriber =>
    if other = channel then some (number, subscriber) else none
  | _ => none

def Occurrence.removed? (channel : Nat) : Occurrence → Option Nat
  | .unsubscribed other number => if other = channel then some number else none
  | _ => none

def subscriptions (channel : Nat) (occurrences : List Occurrence) : List (Nat × (Json → Code)) :=
  occurrences.filterMap (Occurrence.subscription? channel)

def removed (channel : Nat) (occurrences : List Occurrence) : List Nat :=
  occurrences.filterMap (Occurrence.removed? channel)

/-- The subscriptions to a channel that are made and not taken back later. -/
def standing (channel : Nat) : List Occurrence → List (Nat × (Json → Code))
  | [] => []
  | first :: later =>
    ((first.subscription? channel).toList.filter fun s => s.1 ∉ removed channel later) ++
      standing channel later

variable {channel : Nat} {first : Occurrence} {later : List Occurrence}

theorem subscriptions_cons : subscriptions channel (first :: later) =
    (first.subscription? channel).toList ++ subscriptions channel later := by
  simp only [subscriptions, List.filterMap_cons]
  cases first.subscription? channel <;> rfl

theorem removed_cons : removed channel (first :: later) =
    (first.removed? channel).toList ++ removed channel later := by
  simp only [removed, List.filterMap_cons]
  cases first.removed? channel <;> rfl

theorem standing_sublist (channel : Nat) (occurrences : List Occurrence) :
    (standing channel occurrences).Sublist (subscriptions channel occurrences) := by
  induction occurrences with
  | nil => exact .slnil
  | cons first later ih =>
    rw [standing, subscriptions_cons]
    exact List.filter_sublist.append ih

/-- What an occurrence makes of a channel. -/
inductive Channel.Undergoes (channel : Nat) (c : Channel Code Json) :
    Occurrence → Channel Code Json → Prop
  | subscribed (subscriber : Json → Code) :
      Undergoes channel c (.subscribed channel c.issued subscriber) (c.subscribe subscriber)
  | unsubscribed (number : Nat) :
      Undergoes channel c (.unsubscribed channel number) (c.unsubscribe number)
  | untouched {occurrence : Occurrence} (unmade : occurrence.subscription? channel = none)
      (kept : occurrence.removed? channel = none) : Undergoes channel c occurrence c

theorem Occurs.undergoes {h last : Host} {occurrence : Occurrence}
    (occurs : Occurs h occurrence last) {c : Channel Code Json}
    (found : h.channels[channel]? = some c) :
    ∃ after, last.channels[channel]? = some after ∧ c.Undergoes channel occurrence after := by
  cases occurs with
  | served call executor channels methods =>
    rw [channels]
    exact ⟨c, found, .untouched rfl rfl⟩
  | subscribed other subscriber =>
    rw [Host.channels_subscribe, found]
    split
    · rename_i same
      subst same
      have number : (h.subscribe other subscriber).1 = c.issued := by
        simp only [Host.subscribe, found]
      rw [number]
      exact ⟨_, rfl, .subscribed subscriber⟩
    · rename_i apart
      exact ⟨c, rfl, .untouched (if_neg apart) rfl⟩
  | unsubscribed other number =>
    rw [Host.channels_unsubscribe, found]
    split
    · rename_i same
      subst same
      exact ⟨_, rfl, .unsubscribed number⟩
    · rename_i apart
      exact ⟨c, rfl, .untouched rfl (if_neg apart)⟩
  | provided method priority provider =>
    rw [Host.channels_provide]
    exact ⟨c, found, .untouched rfl rfl⟩
  | aside executor channels methods => exact ⟨c, channels channel c found, .untouched rfl rfl⟩

/-- What a channel has become in a course of events. -/
structure Channel.Followed (channel : Nat) (c : Channel Code Json) (occurrences : List Occurrence)
    (last : Channel Code Json) : Prop where
  kind : last.kind = c.kind
  subscribers : last.subscribers =
    (c.subscribers.filter fun s => s.1 ∉ removed channel occurrences) ++
      standing channel occurrences
  numbers : (subscriptions channel occurrences).map Prod.fst =
    List.range' c.issued (subscriptions channel occurrences).length

namespace Channel.Followed

variable {c after last : Channel Code Json}

theorem nil (channel : Nat) (c : Channel Code Json) : c.Followed channel [] c where
  kind := rfl
  subscribers := by
    simp only [removed, standing, List.filterMap_nil, List.not_mem_nil, not_false_eq_true,
      decide_true, List.filter_true, List.append_nil]
  numbers := rfl

theorem cons (undergoes : c.Undergoes channel first after)
    (followed : after.Followed channel later last) : c.Followed channel (first :: later) last := by
  obtain ⟨kind, subscribers, numbers⟩ := followed
  cases undergoes with
  | subscribed subscriber =>
    have made : (Occurrence.subscribed channel c.issued subscriber).subscription? channel =
        some (c.issued, subscriber) := if_pos rfl
    have gone : removed channel (.subscribed channel c.issued subscriber :: later) =
        removed channel later := removed_cons
    refine ⟨kind, ?_, ?_⟩
    · rw [subscribers, gone, standing, made, Channel.subscribe, List.filter_append,
        List.append_assoc]
      rfl
    · rw [subscriptions_cons, made, Option.toList_some, List.singleton_append, List.map_cons,
        numbers, List.length_cons, List.range'_succ]
      rfl
  | unsubscribed number =>
    have gone : removed channel (.unsubscribed channel number :: later) =
        number :: removed channel later := by
      rw [removed_cons, Occurrence.removed?, if_pos rfl]
      rfl
    refine ⟨kind, ?_, numbers⟩
    rw [subscribers, gone, Channel.unsubscribe, List.filter_filter]
    refine congrArg (· ++ _) (List.filter_congr fun s _ => ?_)
    simp only [List.mem_cons, not_or, Bool.decide_and, Bool.and_comm, ne_eq]
  | untouched unmade kept =>
    refine ⟨kind, ?_, ?_⟩
    · rw [subscribers, removed_cons, standing, kept, unmade]
      rfl
    · rw [subscriptions_cons, unmade]
      exact numbers

end Channel.Followed

theorem Course.followed {h last : Host} {occurrences : List Occurrence}
    (course : Course h occurrences last) {c : Channel Code Json}
    (found : h.channels[channel]? = some c) :
    ∃ after, last.channels[channel]? = some after ∧ c.Followed channel occurrences after := by
  induction course generalizing c with
  | nil => exact ⟨c, found, .nil channel c⟩
  | cons occurs _ ih =>
    obtain ⟨between, there, undergoes⟩ := occurs.undergoes found
    obtain ⟨after, found, followed⟩ := ih there
    exact ⟨after, found, .cons undergoes followed⟩

namespace Channel

variable {c : Channel Code Json} {number : Nat} {subscriber : Json → Code}
  {before after : List (Nat × (Json → Code))}

/-- A number that nobody has takes nobody off. -/
theorem filter_of_absent {subscribers : List (Nat × (Json → Code))}
    (absent : number ∉ subscribers.map Prod.fst) :
    subscribers.filter (fun s => s.1 ≠ number) = subscribers :=
  List.filter_eq_self.2 fun _ member =>
    decide_eq_true fun same => absent (same ▸ List.mem_map_of_mem member)

/-- Where each subscriber has a number of its own, one of them is taken off and no other. -/
theorem unsubscribe_of_split (split : c.subscribers = before ++ (number, subscriber) :: after)
    (distinct : (c.subscribers.map Prod.fst).Nodup) :
    c.has number = true ∧ c.unsubscribe number = { c with subscribers := before ++ after } := by
  rw [split, List.map_append, List.map_cons, List.nodup_middle, List.nodup_cons,
    ← List.map_append] at distinct
  constructor
  · refine List.any_eq_true.2 ⟨(number, subscriber), ?_, decide_eq_true rfl⟩
    rw [split]
    exact List.mem_append_right _ List.mem_cons_self
  · have left := filter_of_absent distinct.1
    rw [List.filter_append] at left
    rw [unsubscribe, split, List.filter_append, List.filter_cons, ← left]
    simp only [ne_eq, not_true_eq_false, decide_false, Bool.false_eq_true, if_false]

theorem unsubscribe_of_absent (absent : number ∉ c.subscribers.map Prod.fst) :
    c.has number = false ∧ c.unsubscribe number = c := by
  constructor
  · refine List.any_eq_false.2 fun s member => ?_
    rw [decide_eq_true_eq]
    exact fun same => absent (same ▸ List.mem_map_of_mem member)
  · rw [unsubscribe, filter_of_absent absent]

end Channel

/-- A channel of a kind has these subscribers. -/
def Host.SubscribedBy (h : Host) (channel : Nat) (kind : ChannelKind)
    (subscribers : List (Nat × (Json → Code))) : Prop :=
  ∃ issued, h.channels[channel]? = some ⟨kind, subscribers, issued⟩

namespace Host

variable {h : Host} {kind : ChannelKind} {before after : List (Nat × (Json → Code))} {number : Nat}
  {subscriber : Json → Code}

theorem unsubscribe_of_found {c : Channel Code Json} (found : h.channels[channel]? = some c)
    (number : Nat) :
    (h.unsubscribe channel number).1 = c.has number ∧
      (h.unsubscribe channel number).2.channels[channel]? = some (c.unsubscribe number) := by
  rw [channels_unsubscribe, if_pos rfl, found]
  exact ⟨by simp only [unsubscribe, found], rfl⟩

theorem unsubscribe_of_split
    (subscribed : h.SubscribedBy channel kind (before ++ (number, subscriber) :: after))
    (distinct : ((before ++ (number, subscriber) :: after).map Prod.fst).Nodup) :
    (h.unsubscribe channel number).1 = true ∧
      (h.unsubscribe channel number).2.SubscribedBy channel kind (before ++ after) := by
  obtain ⟨issued, found⟩ := subscribed
  obtain ⟨answer, left⟩ := unsubscribe_of_found found number
  obtain ⟨present, same⟩ := Channel.unsubscribe_of_split (c := ⟨kind, _, issued⟩) rfl distinct
  exact ⟨answer.trans present, issued, left.trans (congrArg some same)⟩

theorem unsubscribe_of_absent {subscribers : List (Nat × (Json → Code))}
    (subscribed : h.SubscribedBy channel kind subscribers)
    (absent : number ∉ subscribers.map Prod.fst) :
    (h.unsubscribe channel number).1 = false ∧
      (h.unsubscribe channel number).2.SubscribedBy channel kind subscribers := by
  obtain ⟨issued, found⟩ := subscribed
  obtain ⟨answer, left⟩ := unsubscribe_of_found found number
  obtain ⟨absence, same⟩ := Channel.unsubscribe_of_absent (c := ⟨kind, _, issued⟩) absent
  exact ⟨answer.trans absence, issued, left.trans (congrArg some same)⟩

end Host

section Fresh

variable {h₀ h : Host} {kind : ChannelKind} {occurrences : List Occurrence}
  (fresh : h₀.channels[channel]? = some (.new kind)) (course : Course h₀ occurrences h)

include fresh course

/-- The subscribers are those whose subscription stands. -/
theorem Course.subscribers : h.SubscribedBy channel kind (standing channel occurrences) := by
  obtain ⟨⟨lastKind, those, issued⟩, found, sameKind, same, _⟩ := course.followed fresh
  have kept : lastKind = kind := sameKind
  have left : those = standing channel occurrences := same
  rw [kept, left] at found
  exact ⟨issued, found⟩

/-- Subscriptions are numbered one after the other. -/
theorem Course.subscription_numbers : (subscriptions channel occurrences).map Prod.fst =
    List.range (subscriptions channel occurrences).length := by
  obtain ⟨_, _, followed⟩ := course.followed fresh
  rw [followed.numbers, List.range_eq_range']
  rfl

theorem Course.standing_distinct : ((standing channel occurrences).map Prod.fst).Nodup := by
  refine List.Nodup.sublist ((standing_sublist channel occurrences).map Prod.fst) ?_
  rw [course.subscription_numbers fresh]
  exact List.nodup_range

end Fresh

end PluginHost
