import PluginHost.Json.Access
import PluginHost.Script.Actions
import PluginHost.Script.Plugins
import PluginHost.Script.Policies
import PluginHost.Script.ValueType

set_option autoImplicit false

namespace PluginHost.Script

/-- A channel as scripts see it: its kind, the part of a message that they handle, and the normal
form of its messages. -/
structure StageChannel where
  kind : ChannelKind
  view : Json → Json := id
  normal : Json → Except ReadFault Json := .ok

/-- What short names mean. -/
structure Stage where
  channels : List (String × StageChannel)
  methods : List (String × String)
  counter : String
  typeName : String → String

namespace Stage

def channel (stage : Stage) (name : String) : Except String StageChannel :=
  match Members.find? name stage.channels with
  | some c => .ok c
  | none => .error ("no channel " ++ name)

def method (stage : Stage) (name : String) : Except String String :=
  match Members.find? name stage.methods with
  | some m => .ok m
  | none => .error ("no method " ++ name)

end Stage

def readKind (name : String) : Except String FailureKind :=
  match FailureKind.all.find? fun k => k.name = name with
  | some k => .ok k
  | none => .error ("no kind " ++ name)

/-- A failure; a task's failure if it does not say of which kind. -/
def readFailure (j : Json) : Except String Failure := do
  let kind ← readKind (← j.stringOr "kind" "Task")
  pure (.new kind (← j.stringOr "message" ""))

def readPayload (j : Json) : Except String PanicPayload := do
  match ← j.stringOr "payload" "str" with
  | "other" => pure .opaqueValue
  | _ => pure (.text (← j.stringOr "message" ""))

/-- A policy by name, or a rule. -/
def readPolicy (j : Json) : Except String Policy := do
  match j with
  | .null | .string "default_queue" => pure .defaultQueue
  | .string "highest_priority" => pure .highestPriority
  | j =>
    match ← j.stringAt "rule" with
    | "fixed" =>
      let queue ← j.natOr "queue" 0
      pure (fixed (if ← j.boolOr "has_task" false then some queue else none)
        (← j.boolOr "more" false))
    | "prefer" => pure (prefer (← (← j.listOr "queues").mapM Json.asNat))
    | "longest" => pure longest
    | "lowest" => pure lowest
    | "highest" => pure highestRanked
    | "probe" => pure (probe (← j.natOr "queue" 0))
    | rule => .error ("no rule " ++ rule)

def readPriority (j : Json) : Except String Int := j.intOr "priority" priority.medium

def readQueue (j : Json) : Except String Nat := j.natOr "queue" 0

def readSlot (j : Json) : Except String String := j.stringOr "slot" ""

/-- The actions that hold no script. -/
def readPlain (stage : Stage) (what : String) (j : Json) : Except String Action := do
  match what with
  | "note" => pure (note (← j.stringOr "text" ""))
  | "data" => pure showData
  | "fail" => pure (fail (← readFailure j))
  | "fail_if" => pure (failIf (j.fieldOrNull "equals") (← readFailure j))
  | "panic" => pure (panic (← readPayload j))
  | "option" =>
    let type ← ValueType.named (← j.stringAt "type")
    pure (readOption (← j.stringAt "key") type.ofJson)
  | "invoke" => pure (invoke (← readSlot j))
  | "execute" => pure execute
  | "drain" => pure (drain 1000000)
  | "clear" => pure clear
  | "add_queue" => pure addQueue
  | "policy" => pure (setPolicy (← readPolicy (j.fieldOrNull "policy")))
  | "inspect" => pure (inspect (← readQueue j))
  | "less_than" => pure (lessThan (← j.natOr "a" 0) (← j.natOr "b" 0))
  | "quit" => pure quit
  | "quitting" => pure isQuitting
  | "request_sighup" => pure requestReload
  | "take_sighup" => pure takeReload
  | "wake" => pure wake
  | "debug" => pure showContext
  | "has_spawner" => pure canSpawn
  | "unsubscribe" => pure (unsubscribe (← readSlot j))
  | "publish" =>
    let channel ← stage.channel (← j.stringAt "channel")
    match channel.normal (j.fieldOrNull "data") with
    | .ok message => pure (publish channel.kind message)
    | .error _ => .error "not a message of the channel"
  | "channel" => pure (describeChannel (← stage.channel (← j.stringAt "channel")).kind)
  | "call" => pure (call (← stage.method (← j.stringAt "method")) (j.fieldOrNull "arg"))
  | "hold" => pure (hold (← stage.method (← j.stringAt "method")) (← readSlot j))
  | "call_held" => pure (callHeld (← readSlot j) (j.fieldOrNull "arg"))
  | "shared" => pure sharedCount
  | "shared_clear" => pure clearShared
  | "tally" => pure (tally stage.counter (← j.intOr "start" 0))
  | "cancel" => pure (cancel (← j.boolOr "send" true) (← j.boolOr "keep" false))
  | _ => .error ("no action " ++ what)

/-- The actions that hold a script, and all others. -/
def readAction (stage : Stage) (what : String) (j : Json) (body : List Line) :
    Except String Action := do
  match what with
  | "guard" => pure (attempt (← j.stringOr "origin" "task") body)
  | "post" =>
    let queue ← readQueue j
    pure (post (← readPriority j) (if (← j.stringOr "via" "") = "default" then 0 else queue) body)
  | "app_post" => pure (post (← readPriority j) 0 body)
  | "wrap" => pure (keep (← readSlot j) (← readPriority j) (← readQueue j) body)
  | "subscribe" =>
    let channel ← stage.channel (← j.stringAt "channel")
    pure (subscribe channel.kind channel.view (← readSlot j) body)
  | "provide" =>
    pure (provide (← stage.method (← j.stringAt "method")) (← readPriority j) body
      (j.fieldOrNull "returns"))
  | "spawn" => pure (spawn (← j.natOr "yields" 0) body)
  | "ticker" => pure (startTicker body)
  | what => readPlain stage what j

/-- Reads a script in which scripts are nested to less than some depth. -/
def readLinesWithin (stage : Stage) : Nat → Json → Except String (List Line)
  | 0, _ => .error "nested too deep"
  | depth + 1, j => do
    (← j.asList).mapM fun line => do
      let what ← line.stringAt "do"
      let body ← line.fieldOr "body" [] (readLinesWithin stage depth)
      pure ⟨what, ← line.boolOr "try" false, ← readAction stage what line body⟩

/-- Scripts are nested no deeper than values are. -/
def nestingLimit : Nat := 128

def readLines (stage : Stage) (j : Json) : Except String (List Line) :=
  readLinesWithin stage nestingLimit j

/-- The script under `body`; an empty one if there is none. -/
def readBody (stage : Stage) (j : Json) : Except String (List Line) :=
  j.fieldOr "body" [] (readLines stage)

def readStep (stage : Stage) (j : Json) : Except String Action := do
  readAction stage (← j.stringAt "do") j (← readBody stage j)

def readDeclaration (j : Json) : Except String Declaration := do
  pure ⟨← j.stringAt "name", ← j.stringOr "description" "", j.get? "default"⟩

/-- The scripts of a plugin that notes its calls under a label. -/
def readScripts (stage : Stage) (label : String) (j : Json) : Except String Scripts := do
  pure { label := label
         options := ← (← j.listOr "options").mapM readDeclaration
         setUp := ← j.fieldOr "init" [] (readLines stage)
         start := ← j.fieldOr "start" [] (readLines stage)
         stop := ← j.fieldOr "stop" [] (readLines stage)
         reload := ← j.fieldOr "sighup" [] (readLines stage) }

def readDependency (stage : Stage) (j : Json) : Except String Dependency := do
  match j.get? "named" with
  | some name => pure (.named (← name.asString))
  | none => pure (.typed (stage.typeName (← j.stringAt "typed")))

def readDependencies (stage : Stage) (j : Json) : Except String (List Dependency) := do
  (← j.asList).mapM (readDependency stage)

def readPlugin (stage : Stage) (type : String) (j : Json) :
    Except String (Host → Plugin × Host) := do
  let name ← j.stringAt "name"
  let scripts ← readScripts stage name j
  let before ← j.fieldOr "requires" [] (readDependencies stage)
  let after ← j.fieldOr "requires_late" before (readDependencies stage)
  pure (plugin type name scripts before after)

/-- A planned reactor. Its polls are productive for a while, or always if it is busy; a wait that
nothing is laid down for asks to quit. -/
def readPlan (stage : Stage) (j : Json) : Except String (Plan Code) := do
  let ready ← j.natOr "ready" 0
  let busy ← j.boolOr "busy" false
  let polls ← (← j.membersOr "on_poll").mapM fun m => do
    pure (m.1, ← readLines stage m.2)
  let blocks ← (← j.listOr "blocks").mapM (readLines stage)
  pure {
    productive := fun n => busy || n < ready
    onPoll := fun n =>
      match Members.find? (toString n) polls with
      | some lines => reporting lines "reactor"
      | none => .nothing
    onBlock := fun n =>
      .ask (.say (.note ("block " ++ toString n))) fun _ =>
        match blocks[n]? with
        | some lines => reporting lines "reactor"
        | none => Steps.code Steps.quit }

end PluginHost.Script
