import PluginHost.Host.Basic

/-!
Running code on a host. The code itself is followed to its end; code that it sets off in turn, such
as a task or a subscriber, is run by a given dispatch, and `Code.runWithin` ties the two together
for a given depth of such calls.
-/

set_option autoImplicit false

namespace PluginHost

/-- Runs a piece of code. -/
abbrev Dispatch := Code → Act Host (Except Failure Json)

namespace Host

def runTask (dispatch : Dispatch) (task : Task Code) (hint : Bool) :
    Act Host (Except Failure Bool) := do
  Act.modify fun h => h.tell .executor .trace "Running task"
    [("priority", .number task.priority), ("sequence", .number task.sequence)]
  let result ← Act.guarded "task" (dispatch task.body)
  let more ← Act.look fun h => h.executor.more hint
  pure (result.map fun _ => more)

/-- Runs at most one task, chosen by the policy. The answer says whether there is more to do. -/
def execute (dispatch : Dispatch) : Act Host (Except Failure Bool) := fun h =>
  let ruling := h.executor.policy.select h.executor.views
  let h := ruling.notes.foldl note h
  match ruling.selection with
  | .error payload => (.unwound payload, h)
  | .ok selection =>
    match h.executor.follow selection with
    | .idle more => (.returned (.ok more), h)
    | .nothing queue more =>
      (.returned (.ok more), h.tell .executor .warn
        "Arbitration selected an empty or unknown queue" [("queue", .text (queueName queue))])
    | .task task rest hint => runTask dispatch task hint { h with executor := rest }

/-- Runs every subscriber; the first failure is the answer. -/
def runSubscribers (dispatch : Dispatch) (channel : String) :
    List Code → Act Host (Except Failure Unit)
  | [] => pure (.ok ())
  | code :: rest => do
    match ← dispatch code with
    | .ok _ => runSubscribers dispatch channel rest
    | .error e =>
      Act.modify fun h => h.tell .channels .error "Channel subscriber failed"
        [("channel", .text channel), ("error", .text e.display)]
      let _ ← runSubscribers dispatch channel rest
      pure (.error e)

/-- Hands a message to those who subscribe to a channel now. -/
def deliver (dispatch : Dispatch) (channel : Nat) (message : Json) :
    Act Host (Except Failure Unit) := fun h =>
  match h.channels[channel]? with
  | none => (.returned (.ok ()), h)
  | some c =>
    let told := h.tell .channels .trace "Delivering message"
      [("subscribers", .number c.count), ("channel", .text c.kind.name)]
    runSubscribers dispatch c.kind.name (c.deliveries message) told

/-- Asks providers in turn until one succeeds; the last failure is the answer if none does. -/
def askProviders (dispatch : Dispatch) (method : String) :
    Failure → List Code → Act Host (Except Failure Json)
  | last, [] => pure (.error last)
  | _, code :: rest => do
    match ← dispatch code with
    | .ok value => pure (.ok value)
    | .error e =>
      Act.modify fun h => h.tell .methods .debug "Method provider failed, trying next"
        [("method", .text method), ("error", .text e.display)]
      askProviders dispatch method e rest

def call (dispatch : Dispatch) (method : Nat) (argument : Json) :
    Act Host (Except Failure Json) := fun h =>
  match h.methods[method]? with
  | none => (.returned (.error (.noProvider "")), h)
  | some m => askProviders dispatch m.name (.noProvider m.name) (m.attempts argument) h

end Host

namespace Code

/-- Follows code to its end. -/
def run (dispatch : Dispatch) : Code → Act Host (Except Failure Json)
  | .done result => pure result
  | .panic payload => Act.panic payload
  | .hang => Act.stall
  | .ask request next => do
    let answer ← Act.step (Host.answer request)
    run dispatch (next answer)
  | .post priority queue body next => do
    let result ← Act.step fun h => h.post priority queue body
    run dispatch (next result)
  | .keep key priority queue body next => do
    Act.modify fun h => h.keep key ⟨priority, queue, body⟩
    run dispatch next
  | .invoke key next => do
    let result ← Act.step fun h => h.invoke key
    run dispatch (next result)
  | .subscribe channel subscriber next => do
    let number ← Act.step fun h => h.subscribe channel subscriber
    run dispatch (next number)
  | .provide method priority provider next => do
    let count ← Act.step fun h => h.provide method priority provider
    run dispatch (next count)
  | .spawn yields body next => do
    let result ← Act.step fun h => h.spawn (.code yields body)
    run dispatch (next result)
  | .tick interval watch body next => do
    let result ← Act.step fun h => h.spawn (.ticker ⟨interval, watch, none⟩ body)
    run dispatch (next result)
  | .listen next => do
    let listening ← Act.step Host.listen
    run dispatch (next listening)
  | .attempt origin body next => do
    let result ← Act.guarded origin (run dispatch body)
    run dispatch (next result)
  | .execute next => do
    let result ← Host.execute dispatch
    run dispatch (next result)
  | .deliver channel message next => do
    let result ← Host.deliver dispatch channel message
    run dispatch (next result)
  | .call method argument next => do
    let result ← Host.call dispatch method argument
    run dispatch (next result)

/-- Runs code in which calls of other code are nested to less than some depth. -/
def runWithin : Nat → Code → Act Host (Except Failure Json)
  | 0, _ => Act.stall
  | depth + 1, code => run (runWithin depth) code

end Code

end PluginHost
