import PluginHost.Code.Steps
import PluginHost.Proofs.Executor.QueueOrder
import PluginHost.Proofs.Messaging.Invocations
import PluginHost.Proofs.Messaging.Subscriptions

/-!
What becomes of the messages on a channel. To publish one is to post its delivery, at the priority
of the channel, so that the executor begins the deliveries of a channel in the order in which the
messages were published. A delivery goes to those who subscribe when it begins, whatever they do to
the list of subscribers meanwhile.
-/

set_option autoImplicit false

namespace PluginHost

/-- The task that a published message is posted as. -/
def Code.delivery (channel : Nat) (message : Json) : Code :=
  .deliver channel message fun result => .done (result.map fun _ => .null)

/-- The message that a task hands to the subscribers of a channel. -/
def Code.message? (channel : Nat) : Code → Option Json
  | .deliver other message _ => if other = channel then some message else none
  | _ => none

def Occurrence.call? : Occurrence → Option (Unit × Executor.Call Code)
  | .served call _ => some ((), call)
  | _ => none

def Occurrence.reply? : Occurrence → Option (Unit × Executor.Reply Code)
  | .served _ reply => some ((), reply)
  | _ => none

def calls (occurrences : List Occurrence) : List (Unit × Executor.Call Code) :=
  occurrences.filterMap Occurrence.call?

def replies (occurrences : List Occurrence) : List (Unit × Executor.Reply Code) :=
  occurrences.filterMap Occurrence.reply?

/-- The executor serves the calls that are made in a course of events. -/
theorem Course.serves {h last : Host} {occurrences : List Occurrence}
    (course : Course h occurrences last) :
    Executor.serve (calls occurrences) h.executor = (replies occurrences, last.executor) := by
  induction course with
  | nil => rfl
  | @cons h between last first later occurs course ih =>
    have passes (unserved : first.call? = none) (unanswered : first.reply? = none)
        (same : between.executor = h.executor) :
        Executor.serve (calls (first :: later)) h.executor =
          (replies (first :: later), last.executor) := by
      rw [calls, replies, List.filterMap_cons_none unserved, List.filterMap_cons_none unanswered,
        ← same]
      exact ih
    cases occurs with
    | served call executor channels methods =>
      rw [calls, replies, executor] at ih
      simp only [calls, replies, List.filterMap_cons, Occurrence.call?, Occurrence.reply?,
        Executor.serve, ih]
    | subscribed => exact passes rfl rfl (Host.executor_subscribe ..)
    | unsubscribed => exact passes rfl rfl (Host.executor_unsubscribe ..)
    | provided => exact passes rfl rfl (Host.executor_provide ..)
    | aside executor channels methods => exact passes rfl rfl executor

def deliveries (kind : ChannelKind) (channel : Nat) (placed : List (Placed Code)) :
    List (Placed Code) :=
  (Executor.alike 0 kind.priority placed).filter fun p => (p.task.body.message? channel).isSome

/-- Where no delivery waits at first, deliveries on a channel begin in the order of their posts. -/
theorem Course.deliveries_in_order {h last : Host} {occurrences : List Occurrence}
    (course : Course h occurrences last) (numbered : h.executor.Numbered) (kind : ChannelKind)
    {channel : Nat}
    (unpublished : ∀ task ∈ h.executor.waiting 0, task.body.message? channel = none) :
    (deliveries kind channel (Executor.begun (replies occurrences))).Sublist
      (deliveries kind channel (Executor.posts (replies occurrences))) := by
  have began := Executor.begun_earlier (calls occurrences) numbered 0 kind.priority
  have posted := Executor.posts_earlier (calls occurrences) h.executor
  have conserved := Executor.serve_conserves (calls occurrences) h.executor 0
  rw [course.serves] at began posted conserved
  refine Executor.sublist_of_earlier ?_ (began.filter _) ((posted.filter _).filter _)
  intro p member
  obtain ⟨alike, delivers⟩ := List.mem_filter.1 member
  obtain ⟨begins, queue, priority⟩ := Executor.mem_alike.1 alike
  refine List.mem_filter.2 ⟨Executor.mem_alike.2 ⟨?_, queue, priority⟩, delivers⟩
  have found : p.task ∈ Executor.ofQueue 0 (Executor.posts (replies occurrences)) ++
      h.executor.waiting 0 := by
    refine conserved.subset (List.mem_append_left _ (Executor.mem_ofQueue.2 ?_))
    rw [← queue]
    exact begins
  rcases List.mem_append.1 found with posted | waits
  · rw [Executor.mem_ofQueue, ← queue] at posted
    exact posted
  · rw [unpublished p.task waits] at delivers
    cases delivers

theorem Flow.caught_map {α β : Type} (origin : String) (f : α → β) (flow : Flow (Except Failure α)) :
    (flow.map (Except.map f)).caught origin = (flow.caught origin).map (Except.map f) := by
  cases flow <;> rfl

theorem Flow.map_map_result {α β γ : Type} (f : α → β) (g : β → γ)
    (flow : Flow (Except Failure α)) :
    (flow.map (Except.map f)).map (Except.map g) = flow.map (Except.map fun a => g (f a)) := by
  cases flow with
  | returned result => cases result <;> rfl
  | unwound payload => rfl
  | stalled => rfl

namespace Host

variable (dispatch : Dispatch)

def announce (task : Task Code) (h : Host) : Host :=
  h.tell .executor .trace "Running task"
    [("priority", .number task.priority), ("sequence", .number task.sequence)]

/-- A task ends as its body does, with a panic turned into a failure. -/
theorem runTask_flow (task : Task Code) (hint : Bool) (h : Host) :
    ∃ more, runTask dispatch task hint h =
      (((dispatch task.body (h.announce task)).1.caught "task").map (Except.map fun _ => more),
        (dispatch task.body (h.announce task)).2) := by
  rw [runTask, Act.bind_of_returned (a := ()) rfl, Act.bind_apply, Act.guarded, Act.modify_apply,
    announce]
  generalize dispatch task.body _ = ended
  obtain ⟨flow, after⟩ := ended
  refine ⟨after.executor.more hint, ?_⟩
  cases flow <;> rfl

/-- A delivery does what the subscribers do, and ends as they do. -/
theorem run_delivery (channel : Nat) (message : Json) (h : Host) :
    Code.run dispatch (.delivery channel message) h =
      ((deliver dispatch channel message h).1.map (Except.map fun _ => .null),
        (deliver dispatch channel message h).2) := by
  rw [← Act.map_apply, ← bind_pure_comp]
  rfl

/-- A task that begins on a host hands a message to subscribers, and so it ends. -/
def HandsOut (kind : ChannelKind) (codes : List Code) (start : Host)
    (ended : Flow (Except Failure Bool) × Host) : Prop :=
  ∃ invoked flow more, Invokes dispatch (reportSubscriber kind.name) start invoked ended.2 ∧
    Delivered codes invoked flow ∧
    ended.1 = (flow.caught "task").map (Except.map fun _ => more) ∧
    ((∀ i ∈ invoked, i.Returned) → invoked.map Invocation.code = codes ∧
      ended.1 = .returned ((verdict invoked).map fun _ => more))

theorem runTask_handsOut {h : Host} {channel : Nat} {c : Channel Code Json}
    (found : h.channels[channel]? = some c) {task : Task Code} {message : Json}
    (body : task.body = .delivery channel message) (hint : Bool) :
    ∃ start, start.executor = h.executor ∧ start.channels = h.channels ∧
      HandsOut dispatch c.kind (c.deliveries message) start
        (runTask (Code.run dispatch) task hint h) := by
  obtain ⟨more, ran⟩ := runTask_flow (Code.run dispatch) task hint h
  rw [body, run_delivery, Flow.caught_map, Flow.map_map_result] at ran
  have still : (h.announce task).channels[channel]? = some c := found
  obtain ⟨invoked, invokes, delivered⟩ := deliver_delivered dispatch still message
  rw [ran]
  refine ⟨_, ?_, ?_, invoked, _, more, invokes, delivered, rfl, fun all => ?_⟩
  · rfl
  · rfl
  · obtain ⟨everybody, returned⟩ := delivered.everybody all
    rw [returned]
    exact ⟨everybody, rfl⟩

/-- When an attempt to run a task takes a delivery out of a queue, the message goes to those who
subscribe by then. -/
theorem execute_handsOut {h : Host} {channel : Nat} {c : Channel Code Json}
    (found : h.channels[channel]? = some c) {begun : Placed Code} {hint : Bool}
    {rest : Executor Code}
    (begins : Executor.Call.begin.make h.executor = (.began begun hint, rest)) {message : Json}
    (body : begun.task.body = .delivery channel message) :
    ∃ start, start.executor = rest ∧ start.channels = h.channels ∧
      HandsOut dispatch c.kind (c.deliveries message) start (execute (Code.run dispatch) h) := by
  rcases h.execute_begin with ⟨taken, hint, left, journal, began, runs⟩ | ⟨idle, _⟩
  · rw [begins] at began
    cases began
    rw [runs]
    let started : Host := { h with executor := rest, journal := journal }
    have still : started.channels[channel]? = some c := found
    exact runTask_handsOut dispatch still body hint
  · rw [begins] at idle
    cases idle

end Host

/-- How a channel of a kind behaves after a course of events that began when it was new. -/
structure Host.Delivers (h : Host) (channel : Nat) (kind : ChannelKind)
    (occurrences : List Occurrence) : Prop where
  subscribed : h.SubscribedBy channel kind (standing channel occurrences)
  /-- Whoever subscribes made one of the subscriptions, which have numbers of their own. -/
  made : (standing channel occurrences).Sublist (subscriptions channel occurrences)
  numbers : (subscriptions channel occurrences).map Prod.fst =
    List.range (subscriptions channel occurrences).length
  /-- With its number one subscription is taken back, and no other. -/
  removes : ∀ before number subscriber after,
    standing channel occurrences = before ++ (number, subscriber) :: after →
      (h.unsubscribe channel number).1 = true ∧
        (h.unsubscribe channel number).2.SubscribedBy channel kind (before ++ after)
  /-- A number that does not stand takes nobody off. -/
  passes : ∀ number, number ∉ (standing channel occurrences).map Prod.fst →
    (h.unsubscribe channel number).1 = false ∧
      (h.unsubscribe channel number).2.SubscribedBy channel kind (standing channel occurrences)
  spares : ∀ number other, channel ≠ other →
    (h.unsubscribe channel number).2.channels[other]? = h.channels[other]?
  /-- To publish a message is to post its delivery, whatever would be done with other code. -/
  publishes : ∀ dispatch message next,
    Code.run dispatch (Steps.publish kind channel message next) h =
      Code.run dispatch (next (h.post kind.priority 0 (.delivery channel message)).1)
        (h.post kind.priority 0 (.delivery channel message)).2
  inOrder : (deliveries kind channel (Executor.begun (replies occurrences))).Sublist
    (deliveries kind channel (Executor.posts (replies occurrences)))
  /-- A delivery that begins goes to those who subscribe now. -/
  handsOut : ∀ begun hint rest message,
    Executor.Call.begin.make h.executor = (.began begun hint, rest) →
      begun.task.body = .delivery channel message → ∀ dispatch,
        ∃ start, start.executor = rest ∧ start.channels = h.channels ∧
          Host.HandsOut dispatch kind ((standing channel occurrences).map fun s => s.2 message)
            start (Host.execute (Code.run dispatch) h)
  /-- Whatever code does next is a further course of events, a delivery among it. -/
  goesOn : ∀ depth code, (Code.runWithin depth code h).1 ≠ .stalled →
    h.Becomes (Code.runWithin depth code h).2

/-- After any course of events that began when a channel was new and no delivery waited. -/
theorem Course.channel_delivers {h₀ h : Host} {channel : Nat} {kind : ChannelKind}
    {occurrences : List Occurrence} (fresh : h₀.channels[channel]? = some (.new kind))
    (numbered : h₀.executor.Numbered)
    (unpublished : ∀ task ∈ h₀.executor.waiting 0, task.body.message? channel = none)
    (course : Course h₀ occurrences h) : h.Delivers channel kind occurrences := by
  have subscribed := course.subscribers fresh
  have distinct := course.standing_distinct fresh
  constructor
  case subscribed => exact subscribed
  case made => exact standing_sublist channel occurrences
  case numbers => exact course.subscription_numbers fresh
  case removes =>
    intro before number subscriber after split
    rw [split] at subscribed distinct
    exact Host.unsubscribe_of_split subscribed distinct
  case passes => exact fun number absent => Host.unsubscribe_of_absent subscribed absent
  case spares =>
    intro number other apart
    rw [Host.channels_unsubscribe, if_neg apart]
  case publishes => exact fun dispatch message next => rfl
  case inOrder => exact course.deliveries_in_order numbered kind unpublished
  case handsOut =>
    obtain ⟨issued, found⟩ := subscribed
    intro begun hint rest message begins body dispatch
    exact Host.execute_handsOut dispatch found begins body
  case goesOn =>
    exact fun depth code ended => Host.upheld_becomes.runWithin depth code h h (.refl h) ended

/-- The first task that is posted to queue 0 of a fresh executor begins next. -/
theorem Executor.begin_first {β : Type} (priority : Int) (body : β) :
    let e := ((Call.post priority 0 body).make (empty : Executor β)).2
    Call.begin.make e = (.began ⟨0, priority, 0, body⟩ true, (Call.begin.make e).2) := by
  with_unfolding_all rfl

/-- The first of two subscribers takes off the second one, brings in a third one and fails. -/
theorem Course.channel_delivers_of_two :
    let kind : ChannelKind := ⟨"numbers", 50⟩
    let bad : Failure := .new .task "bad"
    let tells (text : String) : Json → Code := fun _ => .ask (.say (.note text)) fun _ => .nothing
    let meddles : Json → Code := fun _ =>
      .ask (.unsubscribe 0 1) fun _ => .subscribe 0 (tells "third") fun _ => .fail bad
    let h₀ := (({} : Host).channel kind).2
    let h₁ := (h₀.subscribe 0 meddles).2
    let h₂ := (h₁.subscribe 0 (tells "second")).2
    let post := Executor.Call.post 50 0 (.delivery 0 .null)
    let h := (h₂.post 50 0 (.delivery 0 .null)).2
    let occurrences := [.subscribed 0 0 meddles, .subscribed 0 1 (tells "second"),
      .served post (post.make h₂.executor).1]
    h.Delivers 0 kind occurrences ∧
      (∃ start, Host.HandsOut (Code.runWithin 1) kind [meddles .null, tells "second" .null] start
        (Host.execute (Code.runWithin 2) h)) ∧
      (Host.execute (Code.runWithin 2) h).1 = .returned (.error bad) := by
  intro kind bad tells meddles h₀ h₁ h₂ post h occurrences
  have course : Course h₀ occurrences h :=
    .cons (.subscribed h₀ 0 meddles) <| .cons (.subscribed h₁ 0 (tells "second")) <|
      .single (.served post rfl rfl rfl)
  have none : ∀ task ∈ h₀.executor.waiting 0, task.body.message? 0 = none := by
    have idle : h₀.executor.waiting 0 = [] := Executor.waiting_empty 0
    rw [idle]
    exact fun task none => absurd none List.not_mem_nil
  have executor : h.executor = (post.make .empty).2 := rfl
  have begins := Executor.begin_first 50 (Code.delivery 0 .null)
  rw [← executor] at begins
  have delivers := Course.channel_delivers rfl Executor.numbered_empty none course
  refine ⟨delivers, ?_, by decide +kernel⟩
  obtain ⟨start, _, _, handsOut⟩ := delivers.handsOut _ _ _ .null begins rfl (Code.runWithin 1)
  exact ⟨start, handsOut⟩

end PluginHost
