import PluginHost.Proofs.Along

/-!
The course of events on a host, as far as the executor, the channels and the methods go. Whoever has
the host, a subscriber or a provider among them, changes these by one occurrence at a time, so
whatever code does, with all the code that it sets off, comes to one list of occurrences.
-/

set_option autoImplicit false

namespace PluginHost

/-- What is done at once. -/
inductive Occurrence where
  /-- The executor answers a call. -/
  | served (call : Executor.Call Code) (reply : Executor.Reply Code)
  /-- Somebody subscribes to a channel and gets a number. -/
  | subscribed (channel number : Nat) (subscriber : Json → Code)
  /-- A number is taken off a channel. -/
  | unsubscribed (channel number : Nat)
  | provided (method : Nat) (priority : Int) (provider : Json → Code)
  /-- Something else. -/
  | aside

section Table

variable {α : Type} {table : Array α}

/-- What is added to a table leaves in place what is there. -/
theorem getElem?_push_of_some {n : Nat} {a : α} (found : table[n]? = some a) (more : α) :
    (table.push more)[n]? = some a := by
  obtain ⟨inside, _⟩ := Array.getElem?_eq_some_iff.1 found
  rwa [Array.getElem?_push, if_neg (Nat.ne_of_lt inside)]

/-- What changes in a table is the entry that is changed. -/
theorem getElem?_setIfInBounds_of_some {place : Nat} {a : α} (found : table[place]? = some a)
    (change : α → α) (n : Nat) :
    (table.setIfInBounds place (change a))[n]? =
      if place = n then table[n]?.map change else table[n]? := by
  obtain ⟨inside, _⟩ := Array.getElem?_eq_some_iff.1 found
  rw [Array.getElem?_setIfInBounds]
  split
  · rename_i same
    subst same
    rw [found]
    rfl
  · rfl

/-- There is nothing to change where a table has no entry. -/
theorem getElem?_of_absent {place : Nat} (absent : table[place]? = none) (change : α → α) (n : Nat) :
    table[n]? = if place = n then table[n]?.map change else table[n]? := by
  split
  · rename_i same
    rw [← same, absent]
    rfl
  · rfl

end Table

namespace Host

variable (h : Host) (channel number method : Nat) (subscriber provider : Json → Code)
  (priority : Int)

@[simp] theorem executor_subscribe : (h.subscribe channel subscriber).2.executor = h.executor := by
  unfold subscribe
  cases h.channels[channel]? <;> rfl

@[simp] theorem methods_subscribe : (h.subscribe channel subscriber).2.methods = h.methods := by
  unfold subscribe
  cases h.channels[channel]? <;> rfl

@[simp] theorem executor_unsubscribe : (h.unsubscribe channel number).2.executor = h.executor := by
  unfold unsubscribe
  cases h.channels[channel]? <;> rfl

@[simp] theorem methods_unsubscribe : (h.unsubscribe channel number).2.methods = h.methods := by
  unfold unsubscribe
  cases h.channels[channel]? <;> rfl

@[simp] theorem executor_provide :
    (h.provide method priority provider).2.executor = h.executor := by
  unfold provide
  cases h.methods[method]? <;> rfl

@[simp] theorem channels_provide :
    (h.provide method priority provider).2.channels = h.channels := by
  unfold provide
  cases h.methods[method]? <;> rfl

/-- Of the methods only the one that is provided changes. -/
theorem methods_provide (n : Nat) :
    (h.provide method priority provider).2.methods[n]? =
      if method = n then h.methods[n]?.map fun m => m.register priority provider
      else h.methods[n]? := by
  unfold provide
  split
  · rename_i absent
    exact getElem?_of_absent absent _ n
  · rename_i found
    exact getElem?_setIfInBounds_of_some found (fun m : Method Code Json => m.register priority provider) n

theorem channels_subscribe (n : Nat) :
    (h.subscribe channel subscriber).2.channels[n]? =
      if channel = n then h.channels[n]?.map fun c => c.subscribe subscriber
      else h.channels[n]? := by
  unfold subscribe
  split
  · rename_i absent
    exact getElem?_of_absent absent _ n
  · rename_i found
    exact getElem?_setIfInBounds_of_some found (fun c : Channel Code Json => c.subscribe subscriber) n

theorem channels_unsubscribe (n : Nat) :
    (h.unsubscribe channel number).2.channels[n]? =
      if channel = n then h.channels[n]?.map fun c => c.unsubscribe number
      else h.channels[n]? := by
  unfold unsubscribe
  split
  · rename_i absent
    exact getElem?_of_absent absent _ n
  · rename_i found
    exact getElem?_setIfInBounds_of_some found (fun c : Channel Code Json => c.unsubscribe number) n

end Host

/-- A host comes of another one by an occurrence. What else is done may open new channels and
methods. -/
inductive Occurs : Host → Occurrence → Host → Prop
  | served {h after : Host} (call : Executor.Call Code)
      (executor : after.executor = (call.make h.executor).2)
      (channels : after.channels = h.channels) (methods : after.methods = h.methods) :
      Occurs h (.served call (call.make h.executor).1) after
  | subscribed (h : Host) (channel : Nat) (subscriber : Json → Code) :
      Occurs h (.subscribed channel (h.subscribe channel subscriber).1 subscriber)
        (h.subscribe channel subscriber).2
  | unsubscribed (h : Host) (channel number : Nat) :
      Occurs h (.unsubscribed channel number) (h.unsubscribe channel number).2
  | provided (h : Host) (method : Nat) (priority : Int) (provider : Json → Code) :
      Occurs h (.provided method priority provider) (h.provide method priority provider).2
  | aside {h after : Host} (executor : after.executor = h.executor)
      (channels : ∀ (n : Nat) c, h.channels[n]? = some c → after.channels[n]? = some c)
      (methods : ∀ (n : Nat) m, h.methods[n]? = some m → after.methods[n]? = some m) :
      Occurs h .aside after

inductive Course : Host → List Occurrence → Host → Prop
  | nil (h : Host) : Course h [] h
  | cons {h between last : Host} {first : Occurrence} {later : List Occurrence}
      (occurs : Occurs h first between) (course : Course between later last) :
      Course h (first :: later) last

namespace Course

variable {h between last : Host} {earlier later : List Occurrence}

theorem append (course : Course h earlier between) (others : Course between later last) :
    Course h (earlier ++ later) last := by
  induction course with
  | nil => exact others
  | cons occurs _ ih => exact .cons occurs (ih others)

theorem split (course : Course h (earlier ++ later) last) :
    ∃ between, Course h earlier between ∧ Course between later last := by
  induction earlier generalizing h with
  | nil => exact ⟨h, .nil h, course⟩
  | cons first rest ih =>
    cases course with
    | cons occurs more =>
      obtain ⟨between, front, back⟩ := ih more
      exact ⟨between, .cons occurs front, back⟩

theorem single {occurrence : Occurrence} (occurs : Occurs h occurrence last) :
    Course h [occurrence] last := .cons occurs (.nil last)

end Course

def Host.Becomes (h last : Host) : Prop := ∃ occurrences, Course h occurrences last

namespace Host

variable {h between last : Host}

namespace Becomes

theorem refl (h : Host) : h.Becomes h := ⟨[], .nil h⟩

theorem trans (first : h.Becomes between) (second : between.Becomes last) : h.Becomes last := by
  obtain ⟨earlier, course⟩ := first
  obtain ⟨later, others⟩ := second
  exact ⟨_, course.append others⟩

theorem once {occurrence : Occurrence} (occurs : Occurs h occurrence last) : h.Becomes last :=
  ⟨_, .single occurs⟩

/-- What changes neither the executor nor the channels and methods that there are. -/
theorem aside (executor : last.executor = h.executor) (channels : last.channels = h.channels)
    (methods : last.methods = h.methods) : h.Becomes last :=
  once (.aside executor (fun _ _ found => by rwa [channels]) fun _ _ found => by rwa [methods])

/-- The executor answers a call, and little else changes. -/
theorem served (call : Executor.Call Code) (executor : last.executor = (call.make h.executor).2)
    (channels : last.channels = h.channels) (methods : last.methods = h.methods) :
    h.Becomes last := once (.served call executor channels methods)

end Becomes

theorem becomes_post (h : Host) (priority : Int) (queue : Nat) (body : Code) :
    h.Becomes (h.post priority queue body).2 := by
  refine .served (.post priority queue body) ?_ ?_ ?_ <;> unfold post
  · cases posted : h.executor.post? priority queue body with
    | none => simp only [Executor.Call.make, posted]
    | some after =>
      simp only [Executor.Call.make, posted]
      rfl
  · cases h.executor.post? priority queue body <;> rfl
  · cases h.executor.post? priority queue body <;> rfl

theorem becomes_clear (h : Host) : h.Becomes h.clear := by
  refine .served .clear ?_ ?_ ?_ <;> unfold clear <;> dsimp only <;> split <;> rfl

theorem becomes_quit (h : Host) : h.Becomes h.quit := by
  refine .aside ?_ ?_ ?_ <;> unfold quit <;> dsimp only <;> split <;> rfl

theorem becomes_invoke (h : Host) (key : String) : h.Becomes (h.invoke key).2 := by
  unfold invoke
  cases h.keptPosts.find? key with
  | none => exact .refl h
  | some p =>
    let left : Host := { h with keptPosts := h.keptPosts.filter fun k => k.1 ≠ key }
    have takes : h.Becomes left := .aside rfl rfl rfl
    exact takes.trans (left.becomes_post p.priority p.queue p.body)

theorem becomes_spawn (h : Host) (job : Job Code) : h.Becomes (h.spawn job).2 := by
  unfold spawn
  split
  · exact .aside rfl rfl rfl
  · exact .refl h

theorem becomes_channel (h : Host) (kind : ChannelKind) : h.Becomes (h.channel kind).2 := by
  unfold channel
  split
  · exact .refl h
  · refine .once (.aside rfl (fun n c found => ?_) fun n m found => found)
    exact getElem?_push_of_some found _

theorem becomes_method (h : Host) (name : String) : h.Becomes (h.method name).2 := by
  unfold method
  split
  · exact .refl h
  · refine .once (.aside rfl (fun n c found => found) fun n m found => ?_)
    exact getElem?_push_of_some found _

theorem becomes_sharedCell (h : Host) (kind : String) (start : Json) :
    h.Becomes (h.sharedCell kind start).2 := by
  unfold sharedCell
  split
  · exact .refl h
  · exact .aside rfl rfl rfl

theorem becomes_answer (request : Request) (h : Host) : h.Becomes (answer request h).2 := by
  cases request with
  | addQueue => exact .served .addQueue rfl rfl rfl
  | setPolicy policy => exact .served (.setPolicy policy) rfl rfl rfl
  | clear => exact h.becomes_clear
  | quit => exact h.becomes_quit
  | channel kind => exact h.becomes_channel kind
  | unsubscribe channel subscription => exact .once (.unsubscribed h channel subscription)
  | method name => exact h.becomes_method name
  | shared kind start => exact h.becomes_sharedCell kind start
  | queues | quitting | canSpawn | clock | subscribers | providers | sharedCount | read
    | remembered => exact .refl h
  | _ => exact .aside rfl rfl rfl

/-- All code that runs on a host runs in a course of events. -/
theorem upheld_becomes : Upheld Becomes where
  refl := .refl
  trans := .trans
  journal _ _ := .aside rfl rfl rfl
  answer := becomes_answer
  post priority queue body h := h.becomes_post priority queue body
  keep _ _ _ := .aside rfl rfl rfl
  invoke key h := h.becomes_invoke key
  subscribe channel subscriber h := .once (.subscribed h channel subscriber)
  provide method priority provider h := .once (.provided h method priority provider)
  spawn job h := h.becomes_spawn job
  listen _ := .aside rfl rfl rfl
  begins := by
    intro h begun hint rest began
    refine .served .begin ?_ rfl rfl
    rw [began]

end Host

end PluginHost
