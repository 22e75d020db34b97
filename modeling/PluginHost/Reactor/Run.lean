import PluginHost.Code.Run

/-!
Turns of the reactor. A poll lets every ready job go once; a wait goes on with polls until somebody
wakes the run loop, and lets time pass when no job is ready. Of the jobs that become ready at the
same time the one that has waited longest goes first.
-/

set_option autoImplicit false

namespace PluginHost

/-- What a job comes to in one turn. -/
inductive Turn where
  | finished
  /-- Ready again for the next poll. -/
  | yielded (job : Job Code)
  /-- Ready when something happens. -/
  | waiting (job : Job Code)

namespace Host

/-- Runs code of a job, whose result nobody looks at. A panic ends the job only. -/
def runDetached (dispatch : Dispatch) (body : Code) : Act Host Unit := fun h =>
  match dispatch body h with
  | (.stalled, h) => (.stalled, h)
  | (_, h) => (.returned (), h)

/-- A turn of a ticker: it stops if it is told to, else posts a task if a tick is due. -/
def tickerTurn (t : Ticker) (body : Code) (h : Host) : Turn × Host :=
  let watch := h.watches[t.watch]?.getD {}
  let h := { h with watches := h.watches.modify t.watch Watch.see }
  if watch.stirred && watch.stops then (.finished, h.tell .ticker .info "Ticker shutting down" [])
  else
    match t.due with
    | none => (.waiting (.ticker { t with due := some (h.reactor.clock + 1) } body), h)
    | some due =>
      if h.reactor.clock < due then (.waiting (.ticker t body), h)
      else
        match h.post priority.medium 0 body with
        | (.ok _, h) => (.waiting (.ticker { t with due := some (due + t.interval) } body), h)
        | (.error e, h) =>
          (.finished, h.tell .ticker .error "Failed to post tick" [("error", .text e.display)])

/-- A turn of a ticker that may be its first. -/
def tickerStep (t : Ticker) (body : Code) (h : Host) : Turn × Host :=
  let started := if t.due.isSome then h else
    h.tell .ticker .info "Ticker started" [("interval_ms", .number t.interval)]
  tickerTurn t body started

/-- A turn of a listener, which stops at the first signal that asks to quit. -/
def listenerTurn : List Signal → Host → Turn × Host
  | [], h => (.waiting (.listener []), h)
  | .hangup :: rest, h => listenerTurn rest h.requestReload
  | signal :: _, h =>
    (.finished,
      (h.tell .signals .info "Quit signal received" [("signal", .text signal.name)]).quit)

def turn (dispatch : Dispatch) : Job Code → Act Host Turn
  | .code 0 body => do
    runDetached dispatch body
    pure .finished
  | .code (yields + 1) body => pure (.yielded (.code yields body))
  | .ticker t body => Act.step (tickerStep t body)
  | .listener received => Act.step (listenerTurn received)

/-- Takes the job whose turn is next. -/
def nextJob (h : Host) : Option (Job Code) × Host :=
  match h.reactor with
  | .events loop =>
    match loop.ready with
    | job :: rest => (some job, { h with reactor := .events { loop with ready := rest } })
    | [] => (none, h)
  | _ => (none, h)

/-- Jobs that gave up their turn are ready again. -/
def resume (jobs : List (Job Code)) (h : Host) : Host :=
  { h with reactor := jobs.foldl (fun reactor job => reactor.spawn job) h.reactor }

def putWaiting (job : Job Code) (h : Host) : Host :=
  match h.reactor with
  | .events loop => { h with reactor := .events { loop with waiting := loop.waiting ++ [job] } }
  | _ => h

/-- Lets ready jobs go, each once unless it becomes ready again meanwhile. The answer says whether
any job went. -/
def jobRound (dispatch : Dispatch) : Nat → List (Job Code) → Act Host Bool
  | 0, yielded => do
    Act.modify (resume yielded)
    pure true
  | room + 1, yielded => do
    match ← Act.step nextJob with
    | none =>
      Act.modify (resume yielded)
      pure false
    | some job =>
      match ← turn dispatch job with
      | .finished =>
        let _ ← jobRound dispatch room yielded
        pure true
      | .yielded job =>
        let _ ← jobRound dispatch room (yielded ++ [job])
        pure true
      | .waiting job =>
        Act.modify (putWaiting job)
        let _ ← jobRound dispatch room yielded
        pure true

/-- How many turns there are in one poll at most. -/
def turnsPerPoll : Nat := 61

/-- Counts a poll of a planned reactor. -/
def countPoll (plan : Plan Code) (polls blocks : Nat) (h : Host) : Host :=
  { h with reactor := .planned plan (polls + 1) blocks }

/-- Lets ready jobs make progress. The answer says whether any did. -/
def pollOnce (dispatch : Dispatch) : Act Host Bool := fun h =>
  match h.reactor with
  | .absent => (.returned false, h)
  | .events _ => jobRound dispatch turnsPerPoll [] h
  | .planned plan polls blocks =>
    (do
      let _ ← dispatch (plan.onPoll polls)
      pure (plan.productive polls)) (countPoll plan polls blocks h)

/-- Polls until nothing makes progress, but no more than a number of times. The answer counts the
polls that made progress. -/
def pollBatch (dispatch : Dispatch) : Nat → Act Host Nat
  | 0 => pure 0
  | limit + 1 => do
    if ← pollOnce dispatch then
      let later ← pollBatch dispatch limit
      pure (later + 1)
    else pure 0

/-- When the next tick is due among waiting jobs. -/
def nextDue (jobs : List (Job Code)) : Option Nat :=
  jobs.foldl (fun earliest job =>
    match job with
    | .ticker t _ =>
      match earliest, t.due with
      | some e, some due => some (min e due)
      | none, due => due
      | some e, none => some e
    | _ => earliest) none

/-- Hands a signal to every listener. -/
def hear (signal : Signal) : Job Code → Job Code
  | .listener received => .listener (received ++ [signal])
  | job => job

def isListener : Job Code → Bool
  | .listener _ => true
  | _ => false

def isDue (clock : Nat) : Job Code → Bool
  | .ticker t _ => t.due.any (· ≤ clock)
  | _ => false

/-- Where the journal shows what a cue waits for, counted from the entries not looked at yet. -/
def findCue (h : Host) (loop : EventLoop Code) : Option (Signal × EventLoop Code) :=
  match loop.cues with
  | [] => none
  | cue :: rest =>
    match (h.journal.toList.drop loop.scanned).findIdx? cue.after with
    | none => none
    | some skipped =>
      some (cue.signal, { loop with cues := rest, scanned := loop.scanned + skipped + 1 })

/-- Lets time pass to a moment, which makes the ticks ready that are due by then. -/
def passTo (moment : Nat) (loop : EventLoop Code) (h : Host) : Host :=
  { h with reactor := (Reactor.events { loop with clock := moment }).stir (isDue moment) }

/-- Delivers a signal to the listeners. -/
def deliverSignal (signal : Signal) (loop : EventLoop Code) (h : Host) : Host :=
  { h with reactor :=
      (Reactor.events { loop with waiting := loop.waiting.map (hear signal) }).stir isListener }

/-- What happens while no job is ready: a tick that is due at once, a signal, or a later tick. The
answer says whether anything did. -/
def idle (h : Host) : Bool × Host :=
  match h.reactor with
  | .events loop =>
    match nextDue loop.waiting with
    | some due =>
      if due ≤ loop.clock + 1 then (true, h.passTo due loop)
      else
        match findCue h loop with
        | some (signal, loop) => (true, h.deliverSignal signal loop)
        | none => (true, h.passTo due loop)
    | none =>
      match findCue h loop with
      | some (signal, loop) => (true, h.deliverSignal signal loop)
      | none => (false, h)
  | _ => (false, h)

/-- Whether any job could go at once. -/
def hasReady (h : Host) : Bool :=
  match h.reactor with
  | .events loop => !loop.ready.isEmpty
  | _ => false

/-- Goes on until somebody wakes the loop, for a number of rounds at most. -/
def waitRounds (dispatch : Dispatch) : Nat → Act Host Unit
  | 0 => Act.stall
  | patience + 1 => do
    if ← Act.look fun h => h.wake.waiting then
      let _ ← jobRound dispatch turnsPerPoll []
      if ← Act.look fun h => h.wake.waiting && !h.hasReady then
        if ← Act.step idle then waitRounds dispatch patience else Act.stall
      else waitRounds dispatch patience
    else pure ()

/-- Waits until somebody wakes the loop. -/
def block (dispatch : Dispatch) (patience : Nat) : Act Host Unit := fun h =>
  match h.reactor with
  | .absent => (.stalled, h)
  | .events _ => waitRounds dispatch patience { h with wake := h.wake.wait }
  | .planned plan polls blocks =>
    (do
      let _ ← dispatch (plan.onBlock blocks)
      pure ()) { h with reactor := .planned plan polls (blocks + 1) }

end Host

end PluginHost
