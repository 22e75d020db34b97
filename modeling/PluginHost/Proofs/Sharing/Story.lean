import PluginHost.Proofs.Messaging.Course

/-!
What happens on a host, as far as what is shared goes. Whoever has a clone of the context asks for a
channel, for a method or for something of another type, or clears what is shared. Everything else
leaves alone what is shared, so whatever code does, with all the code that it sets off, comes to one
list of episodes.
-/

set_option autoImplicit false

namespace PluginHost

namespace Shared

/-- Texts that begin differently differ. -/
theorem append_ne_append {first second : String} (n : Nat) (inside : n ≤ first.toList.length)
    (insideToo : n ≤ second.toList.length)
    (apart : first.toList.take n ≠ second.toList.take n) (one other : String) :
    first ++ one ≠ second ++ other := by
  intro same
  have lists := congrArg (fun text => text.toList.take n) same
  simp only [String.toList_append, List.take_append_of_le_length inside,
    List.take_append_of_le_length insideToo] at lists
  exact apart lists

theorem methodKey_ne_channelKey (name kind : String) : methodKey name ≠ channelKey kind := by
  unfold methodKey channelKey
  rw [String.append_assoc, String.append_assoc]
  exact append_ne_append 25 (by decide) (by decide) (by decide) _ _

/-- A type that is neither one of channels nor one of methods. -/
def Plain (type : String) : Prop :=
  (∀ kind, type ≠ channelKey kind) ∧ ∀ name, type ≠ methodKey name

end Shared

/-- What plugins may ask for as something that is shared. -/
inductive Wanted where
  | channel (kind : ChannelKind)
  | method (name : String)
  | cell (type : String) (start : Json)

namespace Wanted

def type : Wanted → String
  | channel kind => Shared.channelKey kind.name
  | method name => Shared.methodKey name
  | cell type _ => type

/-- The type of a cell is its own. -/
def Plain : Wanted → Prop
  | channel _ | method _ => True
  | cell type _ => Shared.Plain type

end Wanted

def Host.hand (h : Host) : Wanted → Shared × Host
  | .channel kind => (.channel (h.channel kind).1, (h.channel kind).2)
  | .method name => (.method (h.method name).1, (h.method name).2)
  | .cell type start => (.cell (h.sharedCell type start).1.2, (h.sharedCell type start).2)

/-- What happens on a host; what is shared is asked for, and cleared, through a clone. -/
inductive Episode where
  | handed (clone : Nat) (wanted : Wanted) (place : Shared)
  | cleared (clone : Nat)
  /-- A course of events that leaves alone what is shared. -/
  | went (occurrences : List Occurrence)

namespace Episode

def occurrences : Episode → List Occurrence
  | handed _ _ _ | cleared _ => [.aside]
  | went occurrences => occurrences

def Plain : Episode → Prop
  | handed _ wanted _ => wanted.Plain
  | cleared _ | went _ => True

end Episode

inductive Happens : Host → Episode → Host → Prop
  | handed (h : Host) (clone : Nat) (wanted : Wanted) :
      Happens h (.handed clone wanted (h.hand wanted).1) (h.hand wanted).2
  | cleared (h : Host) (clone : Nat) : Happens h (.cleared clone) h.clearShared
  | went {h after : Host} {occurrences : List Occurrence} (course : Course h occurrences after)
      (shared : after.shared = h.shared) : Happens h (.went occurrences) after

theorem Happens.handed_eq {h after : Host} {clone : Nat} {wanted : Wanted} {place : Shared}
    (happens : Happens h (.handed clone wanted place) after) :
    place = (h.hand wanted).1 ∧ after = (h.hand wanted).2 := by
  cases happens
  exact ⟨rfl, rfl⟩

inductive Story : Host → List Episode → Host → Prop
  | nil (h : Host) : Story h [] h
  | cons {h between last : Host} {first : Episode} {later : List Episode}
      (happens : Happens h first between) (story : Story between later last) :
      Story h (first :: later) last

def occurrences (episodes : List Episode) : List Occurrence := episodes.flatMap Episode.occurrences

theorem Host.hand_occurs (h : Host) (wanted : Wanted) : Occurs h .aside (h.hand wanted).2 := by
  cases wanted with
  | channel kind =>
    unfold hand channel
    dsimp only
    split
    · exact .aside rfl (fun _ _ found => found) fun _ _ found => found
    · exact .aside rfl (fun _ _ found => getElem?_push_of_some found _) fun _ _ found => found
  | method name =>
    unfold hand method
    dsimp only
    split
    · exact .aside rfl (fun _ _ found => found) fun _ _ found => found
    · exact .aside rfl (fun _ _ found => found) fun _ _ found => getElem?_push_of_some found _
  | cell type start =>
    unfold hand sharedCell
    dsimp only
    split <;> exact .aside rfl (fun _ _ found => found) fun _ _ found => found

theorem Happens.course {h after : Host} {episode : Episode} (happens : Happens h episode after) :
    Course h episode.occurrences after := by
  cases happens with
  | handed clone wanted => exact .single (h.hand_occurs wanted)
  | cleared clone => exact .single (.aside rfl (fun _ _ found => found) fun _ _ found => found)
  | went course _ => exact course

namespace Story

variable {h between last : Host} {before after : List Episode}

theorem course (story : Story h before last) : Course h (occurrences before) last := by
  induction story with
  | nil h => exact .nil h
  | cons happens _ ih => exact happens.course.append ih

theorem append (story : Story h before between) (more : Story between after last) :
    Story h (before ++ after) last := by
  induction story with
  | nil h => exact more
  | cons happens _ ih => exact .cons happens (ih more)

theorem split (story : Story h (before ++ after) last) :
    ∃ between, Story h before between ∧ Story between after last := by
  induction before generalizing h with
  | nil => exact ⟨h, .nil h, story⟩
  | cons first later ih =>
    cases story with
    | cons happens rest =>
      obtain ⟨between, front, back⟩ := ih rest
      exact ⟨between, .cons happens front, back⟩

end Story

namespace Host

def Tells (h last : Host) : Prop := ∃ episodes, Story h episodes last

variable {h last : Host}

theorem Tells.went (becomes : h.Becomes last) (shared : last.shared = h.shared) : h.Tells last := by
  obtain ⟨occurrences, course⟩ := becomes
  exact ⟨_, .cons (.went course shared) (.nil last)⟩

theorem Tells.once {episode : Episode} (happens : Happens h episode last) : h.Tells last :=
  ⟨_, .cons happens (.nil last)⟩

theorem shared_post (h : Host) (priority : Int) (queue : Nat) (body : Code) :
    (h.post priority queue body).2.shared = h.shared := by
  unfold post
  cases h.executor.post? priority queue body <;> rfl

theorem shared_invoke (h : Host) (key : String) : (h.invoke key).2.shared = h.shared := by
  unfold invoke
  split
  · rfl
  · exact shared_post _ _ _ _

theorem shared_subscribe (h : Host) (channel : Nat) (subscriber : Json → Code) :
    (h.subscribe channel subscriber).2.shared = h.shared := by
  unfold subscribe
  cases h.channels[channel]? <;> rfl

theorem shared_unsubscribe (h : Host) (channel number : Nat) :
    (h.unsubscribe channel number).2.shared = h.shared := by
  unfold unsubscribe
  cases h.channels[channel]? <;> rfl

theorem shared_provide (h : Host) (method : Nat) (priority : Int) (provider : Json → Code) :
    (h.provide method priority provider).2.shared = h.shared := by
  unfold provide
  cases h.methods[method]? <;> rfl

theorem shared_spawn (h : Host) (job : Job Code) : (h.spawn job).2.shared = h.shared := by
  unfold spawn
  split <;> rfl

theorem tells_answer (request : Request) (h : Host) : h.Tells (answer request h).2 := by
  have becomes := becomes_answer request h
  cases request with
  | channel kind => exact .once (.handed h 0 (.channel kind))
  | method name => exact .once (.handed h 0 (.method name))
  | shared type start => exact .once (.handed h 0 (.cell type start))
  | clearShared => exact .once (.cleared h 0)
  | quit =>
    refine .went becomes ?_
    simp only [answer, quit]
    split <;> rfl
  | clear =>
    refine .went becomes ?_
    simp only [answer, clear]
    split <;> rfl
  | unsubscribe channel number => exact .went becomes (h.shared_unsubscribe channel number)
  | _ => exact .went becomes rfl

/-- All code that runs on a host tells a story. -/
theorem upheld_tells : Upheld Tells where
  refl h := ⟨[], .nil h⟩
  trans := by
    rintro _ _ _ ⟨before, story⟩ ⟨after, more⟩
    exact ⟨_, story.append more⟩
  journal journal h := .went (upheld_becomes.journal journal h) rfl
  answer := tells_answer
  post priority queue body h := .went (h.becomes_post ..) (h.shared_post ..)
  keep key kept h := .went (upheld_becomes.keep key kept h) rfl
  invoke key h := .went (h.becomes_invoke key) (h.shared_invoke key)
  subscribe channel subscriber h :=
    .went (upheld_becomes.subscribe channel subscriber h) (h.shared_subscribe channel subscriber)
  provide method priority provider h :=
    .went (upheld_becomes.provide method priority provider h) (h.shared_provide ..)
  spawn job h := .went (h.becomes_spawn job) (h.shared_spawn job)
  listen h := .went (upheld_becomes.listen h) rfl
  begins began := .went (upheld_becomes.begins began) rfl

end Host

end PluginHost
