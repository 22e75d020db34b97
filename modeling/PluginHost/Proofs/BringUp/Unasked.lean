import PluginHost.Code.Run
import PluginHost.Proofs.Matches

set_option autoImplicit false

namespace PluginHost

open Act (Matches)

def quitEntry : Entry := .event (Origin.control.event .debug "Quit requested" [])

namespace Host

/-- The host as if nobody had asked to quit, and nothing had woken the run loop. -/
def unasked (h : Host) : Host :=
  { h with
    control := { h.control with quitting := false }
    wake := {}
    journal := h.journal.filter (· ≠ quitEntry) }

/-- Hosts that differ at most in whether somebody asked to quit. -/
def Agree (h k : Host) : Prop := k.unasked = h.unasked

variable {h k : Host}

theorem Agree.refl (h : Host) : h.Agree h := rfl

theorem Agree.unasked (agree : h.Agree k) : k.unasked = h.unasked := agree

theorem Agree.executor (agree : h.Agree k) : k.executor = h.executor :=
  (congrArg Host.executor agree.unasked :)

theorem Agree.channels (agree : h.Agree k) : k.channels = h.channels :=
  (congrArg Host.channels agree.unasked :)

theorem Agree.methods (agree : h.Agree k) : k.methods = h.methods :=
  (congrArg Host.methods agree.unasked :)

theorem Agree.withExecutor (agree : h.Agree k) (executor : Executor Code) :
    Agree { h with executor := executor } { k with executor := executor } :=
  (congrArg (fun h : Host => { h with executor := executor }) agree.unasked :)

@[simp] theorem unasked_unasked (h : Host) : h.unasked.unasked = h.unasked := by
  simp [unasked]

/-- A request to quit changes nothing else. -/
@[simp] theorem unasked_quit (h : Host) : h.quit.unasked = h.unasked := by
  unfold quit
  split
  · rfl
  · simp [unasked, rouse, tell, say, Control.quit, quitEntry]

/-- What is done at once comes to the same, whether or not somebody asked to quit. -/
def Deaf {α : Type} (f : Host → α × Host) : Prop :=
  ∀ h : Host, (f h.unasked).1 = (f h).1 ∧ (f h.unasked).2.unasked = (f h).2.unasked

theorem Deaf.matches {α : Type} {f : Host → α × Host} (deaf : Deaf f) :
    Matches Agree (Act.step f) (Act.step f) := by
  apply Matches.step
  intro h k agree
  obtain ⟨first, after⟩ := deaf h
  obtain ⟨own, left⟩ := deaf k
  rw [agree] at own left
  exact ⟨own.symm.trans first, left.symm.trans after⟩

theorem unasked_say (h : Host) (entry : Entry) :
    (h.unasked.say entry).unasked = (h.say entry).unasked := by
  simp only [unasked, say, Array.filter_push, Array.filter_filter, Bool.and_self]

theorem Agree.say (agree : h.Agree k) (entry : Entry) : (h.say entry).Agree (k.say entry) := by
  unfold Agree
  rw [← unasked_say k, agree, unasked_say h]

theorem Agree.tell (agree : h.Agree k) (origin : Origin) (level : Level) (message : String)
    (fields : List (String × FieldValue)) :
    (h.tell origin level message fields).Agree (k.tell origin level message fields) :=
  agree.say _

theorem Agree.notes (agree : h.Agree k) (notes : List String) :
    (notes.foldl note h).Agree (notes.foldl note k) := by
  induction notes generalizing h k with
  | nil => exact agree
  | cons text rest ih => exact ih (agree.say _)

theorem deaf_post (priority : Int) (queue : Nat) (body : Code) :
    Deaf fun h => h.post priority queue body := by
  intro h
  have same : h.unasked.executor = h.executor := rfl
  unfold post
  dsimp only
  rw [same]
  cases h.executor.post? priority queue body with
  | none => exact ⟨rfl, unasked_unasked h⟩
  | some executor => exact ⟨rfl, unasked_say { h with executor := executor } _⟩

theorem deaf_keep (key : String) (kept : KeptPost) : Deaf fun h => ((), h.keep key kept) :=
  fun h => ⟨rfl, unasked_unasked (h.keep key kept)⟩

theorem deaf_invoke (key : String) : Deaf fun h => h.invoke key := by
  intro h
  have same : h.unasked.keptPosts = h.keptPosts := rfl
  unfold invoke
  dsimp only
  rw [same]
  cases h.keptPosts.find? key with
  | none => exact ⟨rfl, unasked_unasked h⟩
  | some p =>
    have posts := deaf_post p.priority p.queue p.body
      { h with keptPosts := h.keptPosts.filter fun k => k.1 ≠ key }
    exact ⟨congrArg some posts.1, posts.2⟩

theorem deaf_subscribe (channel : Nat) (subscriber : Json → Code) :
    Deaf fun h => h.subscribe channel subscriber := by
  intro h
  have same : h.unasked.channels = h.channels := rfl
  unfold subscribe
  dsimp only
  rw [same]
  cases h.channels[channel]? with
  | none => exact ⟨rfl, unasked_unasked h⟩
  | some c =>
    exact ⟨rfl, unasked_unasked
      { h with channels := h.channels.setIfInBounds channel (c.subscribe subscriber) }⟩

theorem deaf_unsubscribe (channel number : Nat) : Deaf fun h => h.unsubscribe channel number := by
  intro h
  have same : h.unasked.channels = h.channels := rfl
  unfold unsubscribe
  dsimp only
  rw [same]
  cases h.channels[channel]? with
  | none => exact ⟨rfl, unasked_unasked h⟩
  | some c =>
    exact ⟨rfl, unasked_unasked
      { h with channels := h.channels.setIfInBounds channel (c.unsubscribe number) }⟩

theorem deaf_provide (method : Nat) (priority : Int) (provider : Json → Code) :
    Deaf fun h => h.provide method priority provider := by
  intro h
  have same : h.unasked.methods = h.methods := rfl
  unfold provide
  dsimp only
  rw [same]
  cases h.methods[method]? with
  | none => exact ⟨rfl, unasked_unasked h⟩
  | some m =>
    exact ⟨rfl, unasked_say
      { h with methods := h.methods.setIfInBounds method (m.register priority provider) } _⟩

theorem deaf_spawn (job : Job Code) : Deaf fun h => h.spawn job := by
  intro h
  have same : h.unasked.reactor = h.reactor := rfl
  unfold spawn
  dsimp only
  rw [same]
  split
  · exact ⟨rfl, unasked_unasked { h with reactor := h.reactor.spawn job }⟩
  · exact ⟨rfl, unasked_unasked h⟩

theorem deaf_listen : Deaf listen :=
  fun h => ⟨rfl, unasked_unasked { h with reactor := h.reactor.spawn (.listener []) }⟩

theorem deaf_channel (kind : ChannelKind) : Deaf fun h => h.channel kind := by
  intro h
  have same : h.unasked.shared = h.shared := rfl
  unfold channel
  dsimp only
  rw [same]
  split
  · exact ⟨rfl, unasked_unasked h⟩
  · exact ⟨rfl, unasked_say
      { h with
        shared := h.shared.insert (Shared.channelKey kind.name) (.channel h.channels.size)
        channels := h.channels.push (.new kind) } _⟩

theorem deaf_method (name : String) : Deaf fun h => h.method name := by
  intro h
  have same : h.unasked.shared = h.shared := rfl
  unfold method
  dsimp only
  rw [same]
  split
  · exact ⟨rfl, unasked_unasked h⟩
  · exact ⟨rfl, unasked_say
      { h with
        shared := h.shared.insert (Shared.methodKey name) (.method h.methods.size)
        methods := h.methods.push (.new name) } _⟩

theorem deaf_sharedCell (kind : String) (start : Json) : Deaf fun h => h.sharedCell kind start := by
  intro h
  have same : h.unasked.shared = h.shared := rfl
  unfold sharedCell
  dsimp only
  rw [same]
  split
  · exact ⟨rfl, unasked_unasked h⟩
  · exact ⟨rfl, unasked_say
      { h with
        shared := h.shared.insert kind (.cell h.cells.size)
        cells := h.cells.push start } _⟩

theorem deaf_clear : Deaf fun h => ((), h.clear) := by
  intro h
  have same : h.unasked.executor = h.executor := rfl
  refine ⟨rfl, ?_⟩
  unfold clear
  dsimp only
  rw [same]
  split
  · exact unasked_unasked { h with executor := h.executor.clear }
  · exact unasked_say { h with executor := h.executor.clear } _

end Host

/-- A request whose answer says whether somebody asked to quit. -/
def Request.looks : Request → Bool
  | .quitting => true
  | _ => false

/-- Every other request is answered the same. -/
theorem Host.deaf_answer {request : Request} (blind : request.looks = false) :
    Deaf (Host.answer request) := by
  intro h
  cases request with
  | quitting => cases blind
  | say entry => exact ⟨rfl, unasked_say h entry⟩
  | addQueue =>
    exact ⟨rfl, unasked_say { h with executor := h.executor.addQueue } _⟩
  | setPolicy policy =>
    exact ⟨rfl, unasked_say { h with executor := h.executor.setPolicy policy } _⟩
  | clear => exact deaf_clear h
  | quit => exact ⟨rfl, by simp [answer]⟩
  | takeReload =>
    exact ⟨rfl, unasked_unasked { h with control := h.control.takeReload.2 }⟩
  | requestReload =>
    exact ⟨rfl, unasked_unasked { h with control := h.control.requestReload }⟩
  | wake => exact ⟨rfl, unasked_unasked h⟩
  | channel kind => exact deaf_channel kind h
  | unsubscribe channel number => exact deaf_unsubscribe channel number h
  | method name => exact deaf_method name h
  | shared kind start => exact deaf_sharedCell kind start h
  | clearShared => exact ⟨rfl, unasked_unasked h.clearShared⟩
  | allocate start => exact ⟨rfl, unasked_unasked { h with cells := h.cells.push start }⟩
  | write cell value => exact ⟨rfl, unasked_unasked (h.write cell value)⟩
  | openWatch => exact ⟨rfl, unasked_unasked { h with watches := h.watches.push {} }⟩
  | send watch value => exact ⟨rfl, unasked_unasked (h.changeWatch watch fun w => w.send value)⟩
  | closeWatch watch => exact ⟨rfl, unasked_unasked (h.changeWatch watch Watch.close)⟩
  | remember key value =>
    exact ⟨rfl, unasked_unasked { h with registers := h.registers.insert key value }⟩
  | queues | canSpawn | clock | subscribers | providers | sharedCount | read | remembered =>
    exact ⟨rfl, unasked_unasked h⟩

end PluginHost
